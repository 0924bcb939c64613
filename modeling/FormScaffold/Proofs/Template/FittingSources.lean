import Mathlib.Data.List.Nodup
import FormScaffold.Proofs.Template.EngineCache
import FormScaffold.Proofs.Template.NodeSoundness

/-!
# Engines of templates that fit

A template that fits a context inherits from no other, defines no blocks and no macros, and
imports none.  A set of such templates is sound whatever they are called, so an engine that holds
sources from a table, all of which fit, compiles every source of the table, and renders it with
every model that has the shape that the context tells of.
-/

namespace FormScaffold.Template

open FormScaffold FormScaffold.Json

/-! ## Whole templates -/

/-- The context of a template that is given an object of a shape. -/
def Context.ofShape (t : Shape) : Context := ⟨[], t.members.map fun m => (m.1.text, m.2)⟩

/-- The state in which the rendering of a template starts. -/
def startState (template : String) (macros : MacroTable) : RenderState :=
  ⟨[⟨.origin, template, [], none⟩], [], macros, false⟩

theorem findIn?_start {name : String} (h : isPlainName name = true) (given : Keyed Value)
    (template : String) (macros : MacroTable) :
    findIn? given name.toList (startState template macros).frames = Keyed.get? name given := by
  have hnone : atPathIn? [] name.toList = none := by
    unfold atPathIn?
    rw [splitHead_name h]
    rfl
  have hgiven : atPathIn? given name.toList = Keyed.get? name given := by
    unfold atPathIn?
    rw [splitHead_name h]
    simp
  simp only [startState, findIn?, Frame.find?, hnone, Option.bind_none, Frame.isFloor, if_true,
    hgiven]

/-- The given values meet the context of their shape, as do others that agree with them on the
members of the shape. -/
theorem meets_start {t : Shape} {given : Keyed Value} (h : t.Holds (.object given)) {b : Bindings}
    (hb : ∀ m ∈ t.members, b.get m.1.text = Bindings.get given m.1.text) (template : String)
    (macros : MacroTable) : (Context.ofShape t).Meets given (startState template macros) b := by
  have hall : ∀ {p u}, (Context.ofShape t).shape? p = some u →
      isPlainName p = true ∧ b.get p = Bindings.get given p ∧
        ∃ v, Keyed.get? p given = some v ∧ u.Holds v := by
    intro p u hp
    obtain ⟨before, after, hsplit, -⟩ := List.lookup_eq_some_iff.mp hp
    have hmem : (p, u) ∈ t.members.map fun m => (m.1.text, m.2) := by
      rw [show t.members.map (fun m => (m.1.text, m.2)) = _ from hsplit]
      simp
    obtain ⟨m, hm, hpair⟩ := List.mem_map.mp hmem
    cases hpair
    exact ⟨m.1.plain, hb m hm, h.member hm⟩
  have hget : ∀ {p v}, Keyed.get? p given = some v → Bindings.get given p = v := by
    intro p v hp
    rw [Keyed.get?_eq_lookup] at hp
    simp [Bindings.get, hp]
  refine ⟨fun hp => .name (hall hp).1, fun hp => ?_, fun hp => ?_, rfl⟩
  · obtain ⟨_, hsame, v, hv, hholds⟩ := hall hp
    rwa [hsame, hget hv]
  · obtain ⟨hplain, hsame, v, hv, _⟩ := hall hp
    rw [findIn?_start hplain, hsame, hget hv, hv]

theorem renderTop_ok (w : Surroundings) (ns : List Node) {c : Context}
    {xs : List (String × Shape)} {s : RenderState} {b : Bindings} (text : String)
    (hn : nodesAdd? c ns = some xs) (hc : c.Meets w.given s b) (hs : s.Runs) :
    ∃ s', renderTop w ns text s = (.ok (text ++ plainNodes ns b), s') := by
  induction ns generalizing c xs s b text with
  | nil => exact ⟨s, by simp [renderTop, plainNodes]; rfl⟩
  | cons n ns ih =>
      simp only [nodesAdd?] at hn
      split at hn
      next first hfirst =>
        obtain ⟨more, hmore, rfl⟩ := Option.map_eq_some_iff.mp hn
        obtain ⟨s₁, hnode, hleads⟩ :=
          renderNode_ok w (renderBody w nestingLimit) n hfirst hc hs
        obtain ⟨s₂, hnodes⟩ := ih (text ++ n.plain b) hmore hleads.meets (hleads.runs hs)
        refine ⟨s₂, ?_⟩
        simp only [renderTop]
        rw [bind_ok (outcome_ok hnode)]
        simp only [hnodes, plainNodes, String.append_assoc]
      next => cases hn

/-! ## Sets of templates -/

/-- A template stands for itself: it inherits from none, has no blocks and no macros, and imports
none. -/
structure Definition.StandsAlone (d : Definition) : Prop where
  parent : d.parent? = none
  blocks : d.blocks = []
  macros : d.macros = []
  imports : d.imports = []

theorem standsAlone_of_fits {c : Context} {ns : List Node} (h : c.fits ns = true) (name : String) :
    Definition.StandsAlone ⟨name, ns⟩ := by
  have hall : ∀ n ∈ ns, n.parent? = none ∧ n.blocks = [] ∧ n.macro? = none ∧ n.import? = none := by
    unfold Context.fits at h
    induction ns generalizing c with
    | nil => exact fun n hn => nomatch hn
    | cons first rest ih =>
        intro n hn
        simp only [nodesAdd?] at h
        split at h
        next xs hfirst =>
          rcases List.mem_cons.mp hn with rfl | hn
          · cases n with
            | block | inheritance | importMacros | macroDef => cases hfirst
            | _ => exact ⟨rfl, rfl, rfl, rfl⟩
          · exact ih (by simpa using h) n hn
        next => cases h
  have hblocks : blocksIn ns = [] := by
    clear h
    induction ns with
    | nil => rfl
    | cons n rest ih =>
        rw [blocksIn, (hall n List.mem_cons_self).2.1,
          ih fun m hm => hall m (List.mem_cons_of_mem _ hm)]
        rfl
  refine ⟨List.findSome?_eq_none_iff.mpr fun n hn => (hall n hn).1, hblocks,
    List.filterMap_eq_nil_iff.mpr fun n hn => (hall n hn).2.2.1,
    List.filterMap_eq_nil_iff.mpr fun n hn => (hall n hn).2.2.2⟩

theorem ofText?_of_fits {c : Context} {ns : List Node} {source : String}
    (hread : Node.ofText? source = some ns) (h : c.fits ns = true) (name : String) :
    Definition.ofText? name source = some ⟨name, ns⟩ := by
  have halone := standsAlone_of_fits h name
  have hunambiguous : Definition.isUnambiguous ⟨name, ns⟩ = true := by
    unfold Definition.isUnambiguous
    rw [halone.blocks, halone.macros]
    rfl
  unfold Definition.ofText?
  rw [hread]
  simp only [hunambiguous, if_true]

theorem ancestry?_alone {d : Definition} (h : d.StandsAlone) (lib : Library) :
    lib.ancestry? d = .ok [] := by
  unfold Library.ancestry? Library.ancestryFrom
  simp [h.parent]

/-- A set of templates that stand for themselves is sound. -/
theorem fault?_alone {lib : Library} (h : ∀ p ∈ lib, p.2.StandsAlone) :
    Library.fault? lib = none := by
  have hvalues : ∀ d ∈ Keyed.values lib, d.StandsAlone := by
    intro d hd
    obtain ⟨p, hp, rfl⟩ := List.mem_map.mp hd
    exact h p hp
  have hancestry : (Keyed.values lib).findSome? lib.ancestryFault? = none := by
    refine List.findSome?_eq_none_iff.mpr fun d hd => ?_
    unfold Library.ancestryFault?
    rw [ancestry?_alone (hvalues d hd)]
  have himports : (Keyed.values lib).findSome? lib.importFault? = none := by
    refine List.findSome?_eq_none_iff.mpr fun d hd => ?_
    unfold Library.importFault?
    rw [(hvalues d hd).imports]
    rfl
  unfold Library.fault?
  rw [hancestry]
  exact himports

/-- A template that fits the shape of the given values renders to its plain text, for which the
members of the shape are all that counts. -/
theorem Library.render_ok {lib : Library} {name : String} {d : Definition} {t : Shape}
    {given : Keyed Value} (world : Functions.World) (hd : Keyed.get? name lib = some d)
    (hfits : (Context.ofShape t).fits d.nodes = true) (hgiven : t.Holds (.object given))
    (hmarkup : isMarkup name = false) {b : Bindings}
    (hb : ∀ m ∈ t.members, b.get m.1.text = Bindings.get given m.1.text) :
    lib.render world given name = .ok (plainNodes d.nodes b) := by
  have hancestry : lib.ancestry d = [] := by
    unfold Library.ancestry
    rw [ancestry?_alone (standsAlone_of_fits hfits d.name)]
  obtain ⟨xs, hxs⟩ := Option.isSome_iff_exists.mp hfits
  unfold Library.render
  rw [hd]
  simp only [hancestry, List.getLast?_nil, Option.bind_none, Option.getD_none, hmarkup]
  obtain ⟨s', hrun⟩ := renderTop_ok ⟨lib, given, name, d.name, [], world⟩ d.nodes "" hxs
    (meets_start hgiven hb name (lib.addMacros (Library.importBound lib) d [])) ⟨_, _, rfl, rfl⟩
  rw [show (⟨[⟨.origin, name, [], none⟩], [], _, false⟩ : RenderState) = startState name _ from rfl,
    hrun]
  simp

/-! ## Engines -/

/-- A table of sources by name whose templates all fit the shape of a model. -/
structure FittingTable (t : Shape) (table : List (String × String)) : Prop where
  fits : ∀ p ∈ table, ∃ ns, Node.ofText? p.2 = some ns ∧ (Context.ofShape t).fits ns = true
  names : (table.map Prod.fst).Nodup
  markup : ∀ p ∈ table, isMarkup p.1 = false

/-- The engine holds sources of a table only. -/
def Engine.HoldsAmong (table : List (String × String)) (e : Engine) : Prop :=
  ∃ sources, e.Holds sources ∧ ∀ p ∈ sources, p ∈ table

theorem Engine.holdsAmong_empty (table : List (String × String)) :
    Engine.empty.HoldsAmong table :=
  ⟨[], Engine.holds_empty, fun _ h => nomatch h⟩

namespace FittingTable

variable {t : Shape} {table : List (String × String)} {e : Engine} {name source : String}

theorem source_unique (h : FittingTable t table) {other : String} (hname : (name, source) ∈ table)
    (hother : (name, other) ∈ table) : other = source := by
  have := List.inj_on_of_nodup_map h.names hname hother rfl
  cases this
  rfl

/-- An engine of a table compiles every source of the table, and then has its template. -/
theorem compile_ok (h : FittingTable t table) (he : e.HoldsAmong table)
    (hname : (name, source) ∈ table) :
    ∃ next, e.compile name source = .ok next ∧ next.HoldsAmong table ∧
      Keyed.get? name next.library = Definition.ofText? name source := by
  obtain ⟨sources, hholds, hamong⟩ := he
  obtain ⟨ns, hread, hfits⟩ := h.fits _ hname
  have hdefinition := ofText?_of_fits hread hfits name
  unfold Engine.compile
  by_cases hkept : (Keyed.get? name e.fingerprints == some (Engine.fingerprint source)) = true
  · refine ⟨e, by rw [if_pos hkept], ⟨sources, hholds, hamong⟩, ?_⟩
    have hprint := eq_of_beq hkept
    obtain ⟨_, s, _, hs, _⟩ | ⟨hnone, _⟩ := hholds.hashes.get? name
    · obtain rfl := h.source_unique hname (hamong _ (Keyed.mem_of_get? hs))
      obtain ⟨d, s', hd, hs', hread'⟩ | ⟨_, hnone⟩ := hholds.templates.get? name
      · rw [hs] at hs'
        cases hs'
        rw [hd, hread']
      · rw [hs] at hnone
        cases hnone
    · rw [hprint] at hnone
      cases hnone
  · have halone : ∀ p ∈ Keyed.insert name (⟨name, ns⟩ : Definition) e.library,
        p.2.StandsAlone := by
      intro p hp
      rcases Keyed.mem_insert hp with rfl | hp
      · exact standsAlone_of_fits hfits name
      · obtain ⟨q, hq, hmatch⟩ := hholds.templates.mem hp
        obtain ⟨ns', hread', hfits'⟩ := h.fits q (hamong q hq)
        rw [ofText?_of_fits hread' hfits' p.1] at hmatch
        rw [← Option.some.inj hmatch]
        exact standsAlone_of_fits hfits' p.1
    have hcompile : e.library.compile name source =
        .ok (Keyed.insert name ⟨name, ns⟩ e.library) := by
      unfold Library.compile
      rw [hdefinition]
      simp only [fault?_alone halone]
    rw [if_neg hkept, hcompile]
    refine ⟨_, rfl, ⟨Keyed.insert name source sources, ⟨?_, ?_, ?_, ?_⟩, ?_⟩, ?_⟩
    · exact Keyed.ordered_insert _ _ hholds.ordered
    · exact hholds.templates.insert hdefinition
    · exact hholds.hashes.insert rfl
    · exact fault?_alone halone
    · intro p hp
      rcases Keyed.mem_insert hp with rfl | hp
      · exact hname
      · exact hamong p hp
    · rw [Keyed.get?_insert, if_pos rfl, hdefinition]

end FittingTable

end FormScaffold.Template
