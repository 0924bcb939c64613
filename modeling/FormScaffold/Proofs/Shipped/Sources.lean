import FormScaffold.Proofs.Model.Values
import FormScaffold.Proofs.Shipped.FormTypes
import FormScaffold.Proofs.Shipped.ProcedureCalls
import FormScaffold.Proofs.Shipped.Settings
import FormScaffold.Proofs.Shipped.TransferObjects
import FormScaffold.Proofs.Shipped.UnitTests
import FormScaffold.Proofs.Template.ClockIndependence
import FormScaffold.Proofs.Template.FittingSources
import FormScaffold.Registry.Standard
import FormScaffold.Shipped.TemplateFiles

/-!
# The sources of the standard templates

Every shipped template fits the shape of all models.  So an engine that has compiled none but
shipped templates compiles each of them and renders it with every model, and the text is the same at
all times.
-/

namespace FormScaffold.Shipped

open Template Registry

/-- A source is that of a template that fits every model. -/
def Fits (source : String) : Prop :=
  ∃ ns, Node.ofText? source = some ns ∧ (Context.ofShape modelShape).fits ns = true

/-! ## Templates that fit -/

set_option maxRecDepth 100000 in
/-- The templates that no theorem gives the nodes of fit. -/
theorem fits_unread :
    Fits dockerfile ∧ Fits ciPipelineYml ∧ Fits projectFileCsproj ∧ Fits controllerCs ∧
      Fits repositoryInterfaceCs ∧ Fits formComponentTsx ∧ Fits listComponentTsx := by
  unfold dockerfile ciPipelineYml projectFileCsproj controllerCs repositoryInterfaceCs
    formComponentTsx listComponentTsx
  dsimp only
  refine ⟨?_, ?_, ?_, ?_, ?_, ?_, ?_⟩
  all_goals
    apply fits_of_spells
    · repeat' first | exact Spells.nil | apply Spells.cons
    · decide +kernel

theorem fits_templateFiles : ∀ p ∈ templateFiles, Fits p.2 := by
  obtain ⟨hdockerfile, hpipeline, hproject, hcontroller, hinterface, hform, hlist⟩ := fits_unread
  simp only [templateFiles, List.forall_mem_cons, List.not_mem_nil, false_implies, implies_true,
    and_true]
  refine ⟨hdockerfile, ⟨_, reads_settings, ?_⟩, hpipeline, hproject, hcontroller,
    ⟨_, reads_dto, ?_⟩, ⟨_, reads_entity, ?_⟩, ⟨_, reads_mappingProfile, ?_⟩,
    ⟨_, reads_repository, ?_⟩, hinterface, ⟨_, reads_validator, ?_⟩,
    ⟨_, reads_createTable, ?_⟩, ⟨_, reads_storedProcedures, ?_⟩, ⟨_, reads_entityTests, ?_⟩,
    hform, hlist, ⟨_, reads_types, ?_⟩, ⟨_, reads_validationSchema, ?_⟩⟩
  all_goals decide +kernel

/-! ## The table of sources -/

/-- The sources of the standard templates, by the names under which they are registered. -/
def sources : List (String × String) :=
  standardEntries.filterMap fun e => (templateFiles.lookup e.source).map fun text => (e.name, text)

theorem isSome_lookup : ∀ e ∈ standardEntries, (templateFiles.lookup e.source).isSome = true := by
  decide

theorem names_sources : sources.map Prod.fst = standardEntries.map TemplateEntry.name := by
  have hall := isSome_lookup
  unfold sources
  generalize standardEntries = entries at hall
  induction entries with
  | nil => rfl
  | cons e rest ih =>
      obtain ⟨text, htext⟩ := Option.isSome_iff_exists.mp (hall e List.mem_cons_self)
      rw [List.filterMap_cons_some (b := (e.name, text)) (by rw [htext]; rfl), List.map_cons,
        List.map_cons, ih fun e he => hall e (List.mem_cons_of_mem _ he)]

/-- The source of every standard template is shipped. -/
theorem mem_sources {e : TemplateEntry} (h : e ∈ standardEntries) :
    ∃ text, templateFiles.lookup e.source = some text ∧ (e.name, text) ∈ sources := by
  obtain ⟨text, htext⟩ := Option.isSome_iff_exists.mp (isSome_lookup e h)
  exact ⟨text, htext, List.mem_filterMap.mpr ⟨e, h, by rw [htext]; rfl⟩⟩

/-- A shipped text is the source of the name whose entry refers to it. -/
theorem mem_sources_of_entry {name text : String} (path : String)
    (hentry : ∃ e ∈ standardEntries, e.name = name ∧ e.source = path)
    (htext : templateFiles.lookup path = some text) : (name, text) ∈ sources := by
  obtain ⟨e, he, rfl, rfl⟩ := hentry
  exact List.mem_filterMap.mpr ⟨e, he, by rw [htext]; rfl⟩

theorem fittingTable_sources : FittingTable modelShape sources where
  fits := by
    intro p hp
    obtain ⟨e, _, he⟩ := List.mem_filterMap.mp hp
    obtain ⟨text, htext, rfl⟩ := Option.map_eq_some_iff.mp he
    obtain ⟨before, after, hfiles, -⟩ := List.lookup_eq_some_iff.mp htext
    refine fits_templateFiles (e.source, text) ?_
    rw [hfiles]
    exact List.mem_append_right _ List.mem_cons_self
  names := by
    rw [names_sources]
    decide
  markup := by
    intro p hp
    obtain ⟨e, he, hpair⟩ := List.mem_filterMap.mp hp
    obtain ⟨text, _, rfl⟩ := Option.map_eq_some_iff.mp hpair
    have hall : ∀ e ∈ standardEntries, isMarkup e.name = false := by decide
    exact hall e he

/-! ## Rendering -/

/-- A standard template renders to a text with a model, whichever shipped templates are compiled
already. -/
def Renders (world : Functions.World) (name : String) (m : Model) (text : String) : Prop :=
  ∀ e : Engine, e.HoldsAmong sources → ∃ source next, (name, source) ∈ sources ∧
    e.compile name source = .ok next ∧ next.HoldsAmong sources ∧
    next.render world name m.toJson = .ok text

/-- The plain text of a template that fits is made of the model alone, so the values of any instant
will do. -/
theorem render_ok {e : Engine} {name : String} {d : Definition} (world : Functions.World)
    (hd : Keyed.get? name e.library = some d) (hmarkup : isMarkup name = false)
    (hfits : (Context.ofShape modelShape).fits d.nodes = true) (m : Model)
    (now : Calendar.Instant) :
    e.render world name m.toJson = .ok (plainNodes d.nodes (m.given now)) := by
  have hsame : ∀ n ∈ modelShape.members,
      Bindings.get (m.given now) n.1.text = Bindings.get (m.given world.now) n.1.text := by
    intro n hn
    have hget := m.get?_given_of_mem hn now world.now
    rw [Keyed.get?_eq_lookup, Keyed.get?_eq_lookup] at hget
    rw [Bindings.get, Bindings.get, hget]
  have hrender := Library.render_ok world hd hfits (m.holds_given world.now) hmarkup hsame
  unfold Engine.render
  rw [m.normalized_toJson]
  unfold Model.given at hrender ⊢
  simp only [hrender]

/-- A template renders to the plain text of the nodes that its source is read as, at any time. -/
theorem renders_at {name source : String} {ns : List Node} (hname : (name, source) ∈ sources)
    (hread : Node.ofText? source = some ns) (world : Functions.World) (m : Model)
    (now : Calendar.Instant) : Renders world name m (plainNodes ns (m.given now)) := by
  intro e he
  obtain ⟨next, hcompile, hnext, hlibrary⟩ := fittingTable_sources.compile_ok he hname
  obtain ⟨ns', hread', hfits⟩ := fittingTable_sources.fits _ hname
  obtain rfl : ns = ns' := Option.some.inj (hread.symm.trans hread')
  rw [ofText?_of_fits hread hfits name] at hlibrary
  have hrender := render_ok (d := ⟨name, ns⟩) world hlibrary (fittingTable_sources.markup _ hname)
    hfits m now
  exact ⟨source, next, hname, hcompile, hnext, hrender⟩

theorem renders_of_reads {name source : String} {ns : List Node} (hname : (name, source) ∈ sources)
    (hread : Node.ofText? source = some ns) (world : Functions.World) (m : Model) :
    Renders world name m (plainNodes ns (m.given world.now)) :=
  renders_at hname hread world m world.now

/-- Every standard template renders with a model to one text in all worlds. -/
theorem exists_renders_always {e : TemplateEntry} (h : e ∈ standardEntries) (m : Model)
    (now : Calendar.Instant) : ∃ text, ∀ world, Renders world e.name m text := by
  obtain ⟨source, _, hname⟩ := mem_sources h
  obtain ⟨ns, hread, _⟩ := fittingTable_sources.fits _ hname
  exact ⟨_, fun world => renders_at hname hread world m now⟩

/-- Every standard template renders with every model. -/
theorem exists_renders {e : TemplateEntry} (h : e ∈ standardEntries) (world : Functions.World)
    (m : Model) : ∃ text, Renders world e.name m text :=
  (exists_renders_always h m world.now).imp fun _ hall => hall world

/-- A template renders to a text that starts as its nodes do. -/
theorem renders_start {name source : String} (hname : (name, source) ∈ sources) {head : List Node}
    (hread : ∃ rest, Node.ofText? source = some (head ++ rest)) (world : Functions.World)
    (m : Model) : ∃ rest, Renders world name m (plainNodes head (m.given world.now) ++ rest) := by
  obtain ⟨rest, hns⟩ := hread
  exact ⟨_, plainNodes_append _ head rest ▸ renders_of_reads hname hns world m⟩

/-- A template renders to one text. -/
theorem Renders.unique {world : Functions.World} {name s t : String} {m : Model}
    (hs : Renders world name m s) (ht : Renders world name m t) : s = t := by
  obtain ⟨source, next, hname, hcompile, -, hrender⟩ :=
    hs Engine.empty (Engine.holdsAmong_empty _)
  obtain ⟨source', next', hname', hcompile', -, hrender'⟩ :=
    ht Engine.empty (Engine.holdsAmong_empty _)
  obtain rfl := fittingTable_sources.source_unique hname hname'
  obtain rfl := Except.ok.inj (hcompile.symm.trans hcompile')
  exact Except.ok.inj (hrender.symm.trans hrender')

/-! ## Renderings at different times -/

/-- Every standard template renders to one text at all times.  Any template is rendered with all
values of its model, among which the engine puts no constant of its own; so with a model that has
the date, a template renders alike at all times unless one involved calls a function of the
clock. -/
theorem rendering_reproducible :
    (∀ (form : FormDefinition) (options : GenerationOptions) (instant : Calendar.Instant),
      ∀ t ∈ standardEntries, ∃ text, ∀ world : Functions.World,
        Renders world t.name (Model.build form options instant) text) ∧
    (∀ (e : Engine) (world : Functions.World) (name : String) {model : Json.Value}
        {given : Keyed Json.Value}, model.normalized = .object given → ∃ seen : Keyed Json.Value,
      (∀ key, Keyed.get? key seen =
        (Keyed.get? key given).or ((Engine.dateConstants world.now).lookup key)) ∧
      e.render world name model =
        (e.library.render world seen name).mapError (Engine.renderFailure name)) ∧
    ∀ (e : Engine) (name : String) {model : Json.Value} {given : Keyed Json.Value},
      model.normalized = .object given →
      (∀ key ∈ Engine.dateNames, Keyed.contains key given = true) →
      e.library.IsClockFree name →
      ∀ world other : Functions.World, world.environment = other.environment →
        e.render world name model = e.render other name model := by
  refine ⟨fun form options instant t ht => ?_, fun e world name model given hmodel => ?_,
    fun e name model given hmodel hdate hfree world other henvironment => ?_⟩
  · exact exists_renders_always ht (Model.build form options instant) instant
  · refine ⟨Engine.withDateConstants world.now given, Keyed.get?_inherit _ _, ?_⟩
    unfold Engine.render
    simp only [hmodel]
    cases e.library.render world (Engine.withDateConstants world.now given) name <;> rfl
  · exact Engine.render_eq_of_isClockFree hmodel hdate hfree henvironment

/-- An engine with a letter, the form that all letters inherit from, and a file of macros. -/
def letterEngine : Except Failure Engine := do
  let e ← Engine.empty.compile "form" "Dear \x7b% block name %\x7d\x7b% endblock %\x7d"
  let e ← e.compile "marks"
    "\x7b% macro loud(text) %\x7d\x7b\x7b text \x7d\x7d!\x7b% endmacro %\x7d"
  e.compile "letter"
    ("\x7b% extends 'form' %\x7d\x7b% import 'marks' as m %\x7d"
      ++ "\x7b% block name %\x7d\x7b\x7b m::loud(text=current_year) \x7d\x7d\x7b% endblock %\x7d")

/-- The values of a letter, the date among them. -/
def letterValues : Keyed Json.Value :=
  [("current_date", .string "2001-02-03"), ("current_year", .ofNat 2001),
   ("generated_at", .string "then")]

theorem letter_reproducible :
    (∃ text, ∀ world, Renders world "entity" (Model.build ⟨none, none, []⟩ .standard ⟨0, 0⟩) text) ∧
    ∃ e, letterEngine = .ok e ∧ (Json.Value.object letterValues).normalized = .object letterValues ∧
      (∀ key ∈ Engine.dateNames, Keyed.contains key letterValues = true) ∧
      e.library.IsClockFree "letter" ∧
      (e.render ⟨⟨0, 0⟩, []⟩ "letter" (.object letterValues)).toOption = some "Dear 2001!" ∧
      (∃ seen, Keyed.get? "current_year" seen = some (.ofNat 2001) ∧
        e.render ⟨⟨0, 0⟩, []⟩ "letter" (.object letterValues) =
          (e.library.render ⟨⟨0, 0⟩, []⟩ seen "letter").mapError (Engine.renderFailure "letter")) ∧
      e.render ⟨⟨0, 0⟩, []⟩ "letter" (.object letterValues) =
        e.render ⟨⟨86400, 0⟩, []⟩ "letter" (.object letterValues) := by
  obtain ⟨hstandard, hseen, hclock⟩ := rendering_reproducible
  have hentity : ∃ t ∈ standardEntries, t.name = "entity" := by decide
  obtain ⟨t, ht, hname⟩ := hentity
  have hfree : (match letterEngine with
      | .ok e => e.library.areClockFree ["letter", "form", "marks"]
      | .error _ => false) = true := by
    decide +kernel
  have htext : (match letterEngine with
      | .ok e => (e.render ⟨⟨0, 0⟩, []⟩ "letter" (.object letterValues)).toOption
      | .error _ => none) = some "Dear 2001!" := by
    decide +kernel
  have hdate : ∀ key ∈ Engine.dateNames, Keyed.contains key letterValues = true := by decide
  have hnormal : (Json.Value.object letterValues).normalized = .object letterValues := rfl
  refine ⟨hname ▸ hstandard ⟨none, none, []⟩ .standard ⟨0, 0⟩ t ht, ?_⟩
  cases hletter : letterEngine with
  | error f => simp [hletter] at hfree
  | ok e =>
      rw [hletter] at hfree htext
      have hletterFree := Library.isClockFree_of_areClockFree hfree List.mem_cons_self
      obtain ⟨seen, hvalues, hrender⟩ := hseen e ⟨⟨0, 0⟩, []⟩ "letter" hnormal
      exact ⟨e, rfl, hnormal, hdate, hletterFree, htext, ⟨seen, hvalues "current_year", hrender⟩,
        hclock e "letter" hnormal hdate hletterFree _ _ rfl⟩

end FormScaffold.Shipped
