import Mathlib.Data.List.Induction
import FormScaffold.Proofs.Path.Names
import FormScaffold.Proofs.Record.KeyedOrder
import FormScaffold.Proofs.Text.Replacing
import FormScaffold.Registry.ManifestFile

/-!
# What a registry is built of

Of several templates that are registered under one name the last one counts, and only the last
ones are looked at when the registry is built.  If all of them are sound, the registry tells them
in the order of their names; otherwise the failure lists what is wrong with them, in this order.
-/

namespace FormScaffold

open Path Text

/-! ## Sound entries -/

namespace TemplateEntry

/-- A template that can be used: it has a name, a source and a pattern that stays inside. -/
structure Sound (e : TemplateEntry) : Prop where
  named : ∃ c ∈ e.name.toList, isBlank c = false
  source : e.source ≠ ""
  pattern : ∃ c ∈ e.outputPattern.toList, isBlank c = false
  confined : isAbsolute e.outputPattern = false ∧ ¬ Climbs e.outputPattern

/-- What may be wrong with a template. -/
inductive Defect where
  | blankName
  | noSource
  | blankPattern
  | strayPattern
  deriving DecidableEq

namespace Defect

/-- The template has the defect. -/
def Afflicts (e : TemplateEntry) : Defect → Prop
  | blankName => ∀ c ∈ e.name.toList, isBlank c = true
  | noSource => e.source = ""
  | blankPattern => ∀ c ∈ e.outputPattern.toList, isBlank c = true
  | strayPattern => (∃ c ∈ e.outputPattern.toList, isBlank c = false) ∧
      (isAbsolute e.outputPattern = true ∨ Climbs e.outputPattern)

/-- How the defect is worded. -/
def text (e : TemplateEntry) : Defect → String
  | blankName => "template with an empty name"
  | noSource => "'" ++ e.name ++ "' has no source file"
  | blankPattern => "'" ++ e.name ++ "' has no output pattern"
  | strayPattern => "'" ++ e.name ++ "' output pattern '" ++ e.outputPattern
      ++ "' must be a relative path without '..'"

/-- The place of a defect among those of one template. -/
def rank : Defect → Nat
  | blankName => 0
  | noSource => 1
  | blankPattern => 2
  | strayPattern => 3

/-- All defects in the order of their places. -/
def all : List Defect := [blankName, noSource, blankPattern, strayPattern]

theorem mem_all (d : Defect) : d ∈ all := by cases d <;> decide

theorem pairwise_all : all.Pairwise fun d d' => d.rank < d'.rank := by decide

instance (e : TemplateEntry) : (d : Defect) → Decidable (d.Afflicts e)
  | blankName => decidable_of_iff (isBlankText e.name = true) List.all_eq_true
  | noSource => inferInstanceAs (Decidable (e.source = ""))
  | blankPattern => decidable_of_iff (isBlankText e.outputPattern = true) List.all_eq_true
  | strayPattern => decidable_of_iff (isBlankText e.outputPattern = false ∧
      (isAbsolute e.outputPattern = true ∨ Climbs e.outputPattern))
      (and_congr_left' isBlankText_eq_false)

end Defect

/-- What is wrong with a template. -/
def defects (e : TemplateEntry) : List Defect := Defect.all.filter fun d => decide (d.Afflicts e)

theorem mem_defects {e : TemplateEntry} {d : Defect} : d ∈ e.defects ↔ d.Afflicts e := by
  unfold defects
  rw [List.mem_filter, decide_eq_true_eq]
  exact and_iff_right d.mem_all

/-- What is found to be wrong with a template is the texts of its defects. -/
theorem problems_eq (e : TemplateEntry) : e.problems = e.defects.map (Defect.text e) := by
  have hname : decide (Defect.blankName.Afflicts e) = isBlankText e.name := by
    rw [Bool.eq_iff_iff, decide_eq_true_eq, isBlankText, List.all_eq_true]
    rfl
  have hsource : decide (Defect.noSource.Afflicts e) = (e.source == "") := rfl
  have hblank : decide (Defect.blankPattern.Afflicts e) = isBlankText e.outputPattern := by
    rw [Bool.eq_iff_iff, decide_eq_true_eq, isBlankText, List.all_eq_true]
    rfl
  have hstray : decide (Defect.strayPattern.Afflicts e) =
      (!isBlankText e.outputPattern && !isConfined e.outputPattern) := by
    rw [Bool.eq_iff_iff, decide_eq_true_eq, Bool.and_eq_true, Bool.not_eq_true', Bool.not_eq_true',
      isBlankText_eq_false, Bool.eq_false_iff, ne_eq, isConfined_iff, not_and_or, not_not,
      Bool.not_eq_false]
    rfl
  unfold problems patternProblem? defects Defect.all
  simp only [List.filter_cons, List.filter_nil, hname, hsource, hblank, hstray]
  cases isBlankText e.name <;> cases e.source == "" <;> cases isBlankText e.outputPattern <;>
    cases isConfined e.outputPattern <;> rfl

/-- A template is sound if it has no defect. -/
theorem sound_iff (e : TemplateEntry) : e.Sound ↔ ∀ d : Defect, ¬ d.Afflicts e := by
  have hgiven (s : String) : (∃ c ∈ s.toList, isBlank c = false) ↔
      ¬ ∀ c ∈ s.toList, isBlank c = true := by simp
  constructor
  · intro h d hd
    cases d with
    | blankName => exact (hgiven e.name).mp h.named hd
    | noSource => exact h.source hd
    | blankPattern => exact (hgiven e.outputPattern).mp h.pattern hd
    | strayPattern =>
        rcases hd.2 with habsolute | hclimbs
        · exact absurd habsolute (Bool.eq_false_iff.mp h.confined.1)
        · exact h.confined.2 hclimbs
  · intro h
    have hpattern := (hgiven e.outputPattern).mpr (h .blankPattern)
    have hinside := fun hout => h .strayPattern ⟨hpattern, hout⟩
    exact ⟨(hgiven e.name).mpr (h .blankName), h .noSource, hpattern,
      Bool.eq_false_iff.mpr fun habsolute => hinside (Or.inl habsolute),
      fun hclimbs => hinside (Or.inr hclimbs)⟩

theorem problems_eq_nil_iff (e : TemplateEntry) : e.problems = [] ↔ e.Sound := by
  rw [problems_eq, List.map_eq_nil_iff, sound_iff, List.eq_nil_iff_forall_not_mem]
  exact forall_congr' fun d => not_congr mem_defects

instance (e : TemplateEntry) : Decidable e.Sound := decidable_of_iff _ e.problems_eq_nil_iff

end TemplateEntry

/-! ## The last entry of each name -/

namespace Registry

/-- The template is the last one of its name. -/
def IsLatest (entries : List TemplateEntry) (e : TemplateEntry) : Prop :=
  ∃ before after, entries = before ++ e :: after ∧ ∀ later ∈ after, later.name ≠ e.name

variable {entries : List TemplateEntry} {e : TemplateEntry} {name : String}

theorem not_isLatest_nil (e : TemplateEntry) : ¬ IsLatest [] e := by
  rintro ⟨before, after, hentries, -⟩
  exact absurd hentries (by simp)

/-- A template that is registered takes the place of those of its name, and of no other. -/
theorem isLatest_append {added : TemplateEntry} : IsLatest (entries ++ [added]) e ↔
    e = added ∨ IsLatest entries e ∧ e.name ≠ added.name := by
  constructor
  · rintro ⟨before, after, hentries, hafter⟩
    obtain rfl | ⟨after, last, rfl⟩ := List.eq_nil_or_concat' after
    · obtain ⟨-, hsame⟩ := List.append_inj' hentries rfl
      exact Or.inl (List.singleton_inj.mp hsame).symm
    · rw [← List.cons_append, ← List.append_assoc] at hentries
      obtain ⟨rfl, hsame⟩ := List.append_inj' hentries rfl
      obtain rfl := List.singleton_inj.mp hsame
      refine Or.inr ⟨⟨before, after, rfl, fun later hlater => ?_⟩, ?_⟩
      · exact hafter later (List.mem_append_left _ hlater)
      · exact (hafter added (by simp)).symm
  · rintro (rfl | ⟨⟨before, after, rfl, hafter⟩, hother⟩)
    · exact ⟨entries, [], rfl, fun _ hlater => nomatch hlater⟩
    · refine ⟨before, after ++ [added], by simp, fun later hlater => ?_⟩
      rcases List.mem_append.mp hlater with hlater | hlater
      · exact hafter later hlater
      · rw [List.mem_singleton.mp hlater]
        exact hother.symm

theorem latest_append (entries : List TemplateEntry) (added : TemplateEntry) :
    latest (entries ++ [added]) = Keyed.insert added.name added (latest entries) := by
  unfold latest Keyed.ofPairs
  rw [List.map_append, List.foldl_append]
  rfl

/-- Under each name there is the last template that was registered under it. -/
theorem get?_latest :
    Keyed.get? name (latest entries) = some e ↔ IsLatest entries e ∧ e.name = name := by
  induction entries using List.reverseRecOn generalizing e with
  | nil => exact iff_of_false nofun fun h => not_isLatest_nil e h.1
  | append_singleton entries added ih =>
      rw [latest_append, Keyed.get?_insert, isLatest_append]
      by_cases hname : name = added.name
      · rw [if_pos hname, Option.some_inj]
        constructor
        · rintro rfl
          exact ⟨Or.inl rfl, hname.symm⟩
        · rintro ⟨rfl | ⟨-, hother⟩, rfl⟩
          · rfl
          · exact absurd hname hother
      · rw [if_neg hname, ih]
        constructor
        · rintro ⟨hlatest, rfl⟩
          exact ⟨Or.inr ⟨hlatest, hname⟩, rfl⟩
        · rintro ⟨rfl | ⟨hlatest, -⟩, rfl⟩
          · exact absurd rfl hname
          · exact ⟨hlatest, rfl⟩

theorem IsLatest.mem (h : IsLatest entries e) : e ∈ entries := by
  obtain ⟨before, after, rfl, -⟩ := h
  simp

/-- Each name that is registered has a last template. -/
theorem exists_latest_iff :
    (∃ e, IsLatest entries e ∧ e.name = name) ↔ ∃ e ∈ entries, e.name = name := by
  refine ⟨fun ⟨e, he, hname⟩ => ⟨e, he.mem, hname⟩, fun h => ?_⟩
  induction entries using List.reverseRecOn with
  | nil => simp at h
  | append_singleton entries added ih =>
      by_cases hadded : added.name = name
      · exact ⟨added, isLatest_append.mpr (Or.inl rfl), hadded⟩
      · obtain ⟨e, he, hname⟩ := h
        have hbefore : e ∈ entries := by
          refine (List.mem_append.mp he).resolve_right fun hlast => hadded ?_
          rw [← List.mem_singleton.mp hlast, hname]
        obtain ⟨last, hlast, rfl⟩ := ih ⟨e, hbefore, hname⟩
        exact ⟨last, isLatest_append.mpr (Or.inr ⟨hlast, Ne.symm hadded⟩), rfl⟩

/-! ## Built registries -/

section Built

variable {root : String} {r : Registry}

theorem ordered_latest (entries : List TemplateEntry) : (latest entries).Ordered :=
  Keyed.ordered_ofPairs _

theorem mem_latest {p : String × TemplateEntry} :
    p ∈ latest entries ↔ IsLatest entries p.2 ∧ p.2.name = p.1 := by
  rw [← get?_latest]
  exact (Keyed.get?_eq_some_iff (ordered_latest entries)).symm

/-- A registry that tells the last template of each name, in the order of the names. -/
structure Describes (r : Registry) (entries : List TemplateEntry) : Prop where
  get : ∀ name e, r.get name = .ok e ↔ IsLatest entries e ∧ e.name = name
  refused : ∀ name, (¬ ∃ e ∈ entries, e.name = name) →
    r.get name = .error (.unknownTemplate name r.names)
  contains : ∀ name, r.contains name = true ↔ ∃ e ∈ entries, e.name = name
  mem : ∀ e, e ∈ r.entries ↔ IsLatest entries e
  order : r.entries.Pairwise fun e e' => e.name < e'.name
  names : r.names = r.entries.map TemplateEntry.name
  size : r.size = r.entries.length

theorem get_eq_ok : r.get name = .ok e ↔ Keyed.get? name r.templates = some e := by
  unfold get
  split
  next found hfound => rw [hfound, Except.ok.injEq, Option.some_inj]
  next hnone => simp [hnone]

theorem get?_latest_eq_none (h : ¬ ∃ e ∈ entries, e.name = name) :
    Keyed.get? name (latest entries) = none := by
  rw [Option.eq_none_iff_forall_ne_some]
  exact fun e he => h (exists_latest_iff.mp ⟨e, get?_latest.mp he⟩)

theorem Describes.get_self_iff (h : Describes r entries) (e : TemplateEntry) :
    r.get e.name = .ok e ↔ e ∈ r.entries := by
  rw [h.get, h.mem]
  exact and_iff_left rfl

theorem describes_latest (root : String) (entries : List TemplateEntry) :
    Describes ⟨root, latest entries⟩ entries where
  get name e := by rw [get_eq_ok, get?_latest]
  refused name h := by
    rw [Registry.get, get?_latest_eq_none h]
  contains name := by
    rw [← exists_latest_iff, Registry.contains, Keyed.contains, Option.isSome_iff_exists]
    exact exists_congr fun e => get?_latest
  mem e := by
    rw [Registry.entries, Keyed.values, List.mem_map]
    constructor
    · rintro ⟨p, hp, rfl⟩
      exact (mem_latest.mp hp).1
    · exact fun he => ⟨(e.name, e), mem_latest.mpr ⟨he, rfl⟩, rfl⟩
  order := by
    refine List.pairwise_map.mpr ((ordered_latest entries).imp_of_mem fun hp hq hbefore => ?_)
    rwa [(mem_latest.mp hp).2, (mem_latest.mp hq).2]
  names := by
    rw [Registry.names, Registry.entries, Keyed.keys, Keyed.values, List.map_map]
    exact List.map_congr_left fun p hp => (mem_latest.mp hp).2.symm
  size := (List.length_map ..).symm

/-- A registry is built if the last template of each name is sound, and it has these. -/
theorem build_eq_ok : build root entries = .ok r ↔
    r = ⟨root, latest entries⟩ ∧ ∀ e, IsLatest entries e → e.Sound := by
  have hsound : (∀ e, IsLatest entries e → e.Sound) ↔
      ((latest entries).values.flatMap TemplateEntry.problems).isEmpty = true := by
    rw [List.isEmpty_iff, List.flatMap_eq_nil_iff]
    exact forall_congr' fun e => imp_congr ((describes_latest root entries).mem e).symm
      e.problems_eq_nil_iff.symm
  rw [hsound]
  unfold build
  simp only []
  split
  next hempty => simp [hempty, eq_comm]
  next hproblems => simp [hproblems]

theorem templates_of_built (hbuilt : build root entries = .ok r) :
    r.templates = latest entries := by
  rw [(build_eq_ok.mp hbuilt).1]

theorem describes_of_built (hbuilt : build root entries = .ok r) : Describes r entries := by
  rw [(build_eq_ok.mp hbuilt).1]
  exact describes_latest root entries

theorem sound_of_built (hbuilt : build root entries = .ok r) (he : e ∈ r.entries) : e.Sound :=
  (build_eq_ok.mp hbuilt).2 e (((describes_of_built hbuilt).mem e).mp he)

theorem mem_entries_of_get (h : r.get name = .ok e) : e ∈ r.entries :=
  List.mem_map_of_mem (Keyed.mem_of_get? (get_eq_ok.mp h))

/-- A sound template makes no file with a blank name. -/
theorem isBlankText_outputFileName (h : e.Sound) {entity : String}
    (hentity : isBlankText entity = false) : isBlankText (e.outputFileName entity) = false :=
  isBlankText_replaced (by decide) hentity (isBlankText_eq_false.mpr h.pattern)

/-- The defects of the templates, in the order of the names. -/
def defectsOf (entries : List TemplateEntry) : List (TemplateEntry × TemplateEntry.Defect) :=
  entries.flatMap fun e => e.defects.map fun d => (e, d)

theorem mem_defectsOf {d : TemplateEntry.Defect} :
    (e, d) ∈ defectsOf entries ↔ e ∈ entries ∧ d.Afflicts e := by
  simp [defectsOf, TemplateEntry.mem_defects]

theorem pairwise_defectsOf (h : entries.Pairwise fun e e' => e.name < e'.name) :
    (defectsOf entries).Pairwise fun p q =>
      p.1.name < q.1.name ∨ p.1 = q.1 ∧ p.2.rank < q.2.rank := by
  refine List.pairwise_flatMap.mpr ⟨fun e _ => ?_, h.imp fun hbefore p hp q hq => ?_⟩
  · have hranks := TemplateEntry.Defect.pairwise_all.filter fun d => decide (d.Afflicts e)
    exact List.pairwise_map.mpr (hranks.imp fun hrank => Or.inr ⟨rfl, hrank⟩)
  · obtain ⟨d, -, rfl⟩ := List.mem_map.mp hp
    obtain ⟨d', -, rfl⟩ := List.mem_map.mp hq
    exact Or.inl hbefore

/-- The defects of the last templates, each once: those of one template after the other, in the
order of the names. -/
structure Lists (entries : List TemplateEntry)
    (listed : List (TemplateEntry × TemplateEntry.Defect)) : Prop where
  mem : ∀ e d, (e, d) ∈ listed ↔ IsLatest entries e ∧ d.Afflicts e
  order : listed.Pairwise fun p q => p.1.name < q.1.name ∨ p.1 = q.1 ∧ p.2.rank < q.2.rank

theorem build_eq_error {f : Failure} (h : build root entries = .error f) :
    ∃ listed, Lists entries listed ∧
      f = .registry (String.intercalate "; " (listed.map fun p => p.2.text p.1)) := by
  have hlatest := describes_latest root entries
  refine ⟨defectsOf (latest entries).values, ⟨fun e d => ?_, pairwise_defectsOf hlatest.order⟩, ?_⟩
  · rw [mem_defectsOf]
    exact and_congr_left fun _ => hlatest.mem e
  · have htexts : (latest entries).values.flatMap TemplateEntry.problems =
        (defectsOf (latest entries).values).map fun p => p.2.text p.1 := by
      rw [defectsOf, List.map_flatMap]
      refine List.flatMap_congr fun e _ => ?_
      rw [TemplateEntry.problems_eq, List.map_map]
      rfl
    rw [← htexts]
    unfold build at h
    simp only [] at h
    split at h
    · cases h
    · cases h
      rfl

end Built

/-! ## The whole -/

/-- What a registry is made of: templates that are registered in turn, or a manifest and the
folder that it stands in. -/
inductive Registration where
  | calls (root : String) (entries : List TemplateEntry)
  | manifest (m : Manifest) (folder : String)

namespace Registration

/-- The root of the registry. -/
def root : Registration → String
  | calls root _ => root
  | manifest m folder => m.rootIn folder

/-- The templates in the order in which they are registered.  One of a manifest is listed under
the category of its kind unless it names another one. -/
def registered : Registration → List TemplateEntry
  | calls _ entries => entries
  | manifest m _ => m.templates.map fun t =>
      ⟨t.name, t.kind, t.source, t.outputPattern, t.category.getD t.kind.category, t.priority⟩

/-- Build the registry. -/
def build : Registration → Except Failure Registry
  | calls root entries => Registry.build root entries
  | manifest m folder => m.toRegistry folder

theorem build_eq (g : Registration) : g.build = Registry.build g.root g.registered := by
  cases g <;> rfl

end Registration

/-- A registry is built if the last template of each name is sound, whatever the earlier ones are.
It then tells these templates, and for any other name it fails with the names of all of them.
Otherwise the failure lists what is wrong with the last templates, in the order of their names. -/
theorem built_of_latest (g : Registration) :
    ((∃ r, g.build = .ok r) ↔ ∀ e, IsLatest g.registered e → e.Sound) ∧
    (∀ r, g.build = .ok r → r.root = g.root ∧ Describes r g.registered) ∧
    ∀ f, g.build = .error f → ∃ listed, Lists g.registered listed ∧
      f = .registry (String.intercalate "; " (listed.map fun p => p.2.text p.1)) := by
  rw [g.build_eq]
  refine ⟨?_, fun r hbuilt => ?_, fun f hfails => build_eq_error hfails⟩
  · simp only [build_eq_ok, exists_eq_left]
  · exact ⟨congrArg Registry.root (build_eq_ok.mp hbuilt).1, describes_of_built hbuilt⟩

/-- A template without a source, whose pattern leads out. -/
def strayEntity : TemplateEntry := .ofKind "entity" .entity "" "../x.cs" 1

/-- Another template of its name. -/
def plainEntity : TemplateEntry := .ofKind "entity" .entity "entity.tera" "\x7bEntityName\x7d.cs" 2

/-- A template of another name. -/
def plainDto : TemplateEntry := .ofKind "dto" .dto "dto.tera" "\x7bEntityName\x7dDto.cs" 3

/-- What is wrong with the template does not count once the other one has taken its place. -/
theorem strayEntity_overwritten :
    (∃ r, Registration.build (.calls "t" [strayEntity, plainDto, plainEntity]) = .ok r ∧
      r.get "entity" = .ok plainEntity ∧
      r.get "form" = .error (.unknownTemplate "form" ["dto", "entity"])) ∧
    ∃ listed, Lists [plainEntity, plainDto, strayEntity] listed ∧
      Failure.registry ("'entity' has no source file; 'entity' output pattern '../x.cs' must be " ++
        "a relative path without '..'") =
        .registry (String.intercalate "; " (listed.map fun p => p.2.text p.1)) := by
  obtain ⟨hbuilt, hdescribed, -⟩ :=
    built_of_latest (.calls "t" [strayEntity, plainDto, plainEntity])
  obtain ⟨-, -, hfails⟩ := built_of_latest (.calls "t" [plainEntity, plainDto, strayEntity])
  have hlatest := (describes_latest "t" [strayEntity, plainDto, plainEntity]).mem
  have hsound : ∀ e ∈ (latest [strayEntity, plainDto, plainEntity]).values, e.Sound := by
    decide +kernel
  obtain ⟨r, hr⟩ := hbuilt.mpr fun e he => hsound e ((hlatest e).mpr he)
  obtain ⟨-, htells⟩ := hdescribed r hr
  obtain ⟨rfl, -⟩ := build_eq_ok.mp ((Registration.build_eq _).symm.trans hr)
  refine ⟨⟨_, hr, ?_, ?_⟩, hfails _ (by decide +kernel)⟩
  · exact (htells.get "entity" plainEntity).mpr ⟨⟨[strayEntity, plainDto], [], rfl, nofun⟩, rfl⟩
  · exact (htells.refused "form" (by decide)).trans (by decide)

end Registry

end FormScaffold
