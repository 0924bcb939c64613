import FormScaffold.Archive.Packager
import FormScaffold.Archive.Reader
import FormScaffold.Proofs.Files.Frame

/-!
# Extraction stays in its folder

The name of an entry may lead up and down.  As long as it has led down at least as often as up at
each of its components, the folders on its way lie in the folder that the archive is extracted to,
and so does what it leads to.  Any other name ends the extraction, with what the entries before it
have left.
-/

namespace FormScaffold.Archive

open Files Path

/-! ## Names that lead out -/

/-- The component leads down. -/
def leadsDown : Component → Bool
  | .name _ => true
  | _ => false

/-- The name is absolute, holds a NUL, or has at some point led up more often than down. -/
def Escapes (name : String) : Prop :=
  isAbsolute name = true ∨ Char.ofNat 0 ∈ name.toList ∨
    ∃ first, first <+: components name ∧ first.countP leadsDown < first.count .parent

/-- Components stay below their start exactly if the root is not among them, and at each of them
there are enough steps down. -/
theorem staysBelow_iff {depth : Nat} {cs : List Component} :
    staysBelow depth cs = true ↔ .root ∉ cs ∧
      ∀ first, first <+: cs → first.count .parent ≤ depth + first.countP leadsDown := by
  induction cs generalizing depth with
  | nil =>
      refine iff_of_true rfl ⟨by simp, fun first hfirst => ?_⟩
      rw [List.prefix_nil.mp hfirst]
      simp
  | cons c rest ih =>
      have hfirsts : (∀ first, first <+: c :: rest →
            first.count .parent ≤ depth + first.countP leadsDown) ↔
          ∀ first, first <+: rest →
            (c :: first).count .parent ≤ depth + (c :: first).countP leadsDown := by
        constructor
        · exact fun h first hfirst => h _ (List.cons_prefix_cons.mpr ⟨rfl, hfirst⟩)
        · intro h first hfirst
          cases first with
          | nil => simp
          | cons c' more =>
              obtain ⟨rfl, hmore⟩ := List.cons_prefix_cons.mp hfirst
              exact h more hmore
      rw [hfirsts]
      cases c with
      | root => simp [staysBelow]
      | current => simp [staysBelow, ih, leadsDown]
      | name text =>
          simp only [staysBelow, ih, List.mem_cons, reduceCtorEq, false_or]
          refine and_congr_right fun _ => forall_congr' fun first => imp_congr_right fun _ => ?_
          simp only [List.count_cons, List.countP_cons, leadsDown, beq_iff_eq, reduceCtorEq,
            if_false, if_true]
          omega
      | parent =>
          cases depth with
          | zero =>
              refine iff_of_false (by simp [staysBelow]) fun ⟨_, h⟩ => ?_
              have hfirst := h [] List.nil_prefix
              simp [leadsDown] at hfirst
          | succ depth =>
              simp only [staysBelow, ih, List.mem_cons, reduceCtorEq, false_or]
              refine and_congr_right fun _ => forall_congr' fun first => imp_congr_right fun _ => ?_
              simp only [List.count_cons, List.countP_cons, leadsDown, beq_self_eq_true, if_true,
                Bool.false_eq_true, if_false]
              omega

/-- Exactly the names that do not lead out are accepted. -/
theorem isEnclosed_iff {name : String} : isEnclosed name = true ↔ ¬ Escapes name := by
  have hroot : .root ∈ components name ↔ isAbsolute name = true := root_mem_components_iff
  unfold isEnclosed Escapes
  rw [Bool.and_eq_true, Bool.not_eq_true', staysBelow_iff, hroot]
  simp only [List.contains_eq_mem, decide_eq_false_iff_not, Nat.zero_add, not_or, not_exists,
    not_and, Nat.not_lt]
  tauto

/-! ## The way to an entry -/

/-- As long as components stay below their start, so do the locations that they lead to. -/
theorem landing_enclosed {base below : Location} {segments : List (List Char)}
    (h : staysBelow below.length (segments.filterMap segmentComponent?) = true) {way : List String}
    (hway : way <+: (segments.filter fun s => !s.isEmpty).map String.ofList) :
    base <+: landing (base ++ below) way := by
  induction segments generalizing below way with
  | nil =>
      rw [List.prefix_nil.mp hway]
      exact List.prefix_append _ _
  | cons s rest ih =>
      by_cases hempty : s = []
      · subst hempty
        exact ih h hway
      rw [List.filter_cons_of_pos (by simpa using hempty), List.map_cons] at hway
      cases way with
      | nil => exact List.prefix_append _ _
      | cons step way =>
          obtain ⟨rfl, hmore⟩ := List.cons_prefix_cons.mp hway
          by_cases hdot : s = ['.']
          · subst hdot
            change base <+: landing (base ++ below) way
            exact ih h hmore
          by_cases hdots : s = ['.', '.']
          · subst hdots
            -- A step up is taken only where one down was taken before.
            have hup :
                staysBelow below.length (.parent :: rest.filterMap segmentComponent?) = true := h
            obtain rfl | ⟨down, last, rfl⟩ := List.eq_nil_or_concat' below
            · cases hup
            · rw [List.length_append, List.length_singleton] at hup
              have hlanding : landing (base ++ (down ++ [last])) (String.ofList ['.', '.'] :: way) =
                  landing (base ++ down) way := by
                rw [← List.append_assoc]
                change landing ((base ++ down) ++ [last]).dropLast way = _
                rw [List.dropLast_concat]
              rw [hlanding]
              exact ih hup hmore
          · have hname : segmentComponent? s = some (.name (String.ofList s)) := by
              have hsilent : ¬ (s == [] || s == ['.']) = true := by simp [hempty, hdot]
              have hclimbing : ¬ (s == ['.', '.']) = true := by simpa using hdots
              unfold segmentComponent?
              rw [if_neg hsilent, if_neg hclimbing]
            rw [List.filterMap_cons, hname] at h
            rw [landing_name _ (fun heq => hdot (FileSystem.ofList_eq_iff.mp heq))
              fun heq => hdots (FileSystem.ofList_eq_iff.mp heq), List.append_assoc]
            refine ih ?_ hmore
            rw [List.length_append, List.length_singleton]
            exact h

/-- An accepted name is relative. -/
theorem isAbsolute_of_isEnclosed {name : String} (h : isEnclosed name = true) :
    isAbsolute name = false := by
  by_contra habsolute
  exact isEnclosed_iff.mp h (Or.inl (by simpa using habsolute))

/-- Along an accepted name one stays in the folder. -/
theorem landing_of_isEnclosed {base : Location} {name : String} (h : isEnclosed name = true)
    {way : List String} (hway : way <+: FileSystem.stepsOf name) : base <+: landing base way := by
  unfold isEnclosed at h
  have hbelow := (Bool.and_eq_true_iff.mp h).2
  have hbody : staysBelow 0 (body name) = true := by
    rcases components_cases name with ⟨-, hcomponents⟩ | ⟨-, hcomponents⟩ | ⟨-, hcomponents⟩ <;>
      rw [hcomponents] at hbelow
    · cases hbelow
    · exact hbelow
    · exact hbelow
  have hlanding := @landing_enclosed base [] _ hbody way hway
  rwa [List.append_nil] at hlanding

variable {working : Location} {destination name : String}

/-- On the way to an entry one is on the way to the folder, or in it. -/
theorem passes_entry (h : isEnclosed name = true) {l : Location}
    (hpasses : Passes working (join destination name) l) :
    Passes working destination l ∨ landingOf working destination <+: l := by
  have hrelative := isAbsolute_of_isEnclosed h
  obtain ⟨way, hway, rfl⟩ := hpasses
  rw [stepsOf_join hrelative] at hway
  rw [startOf_join working hrelative]
  rcases List.prefix_or_prefix_of_prefix hway (List.prefix_append _ _) with hbefore | ⟨more, rfl⟩
  · exact Or.inl ⟨way, hbefore, rfl⟩
  · rw [landing_append]
    exact Or.inr (landing_of_isEnclosed h ((List.prefix_append_right_inj _).mp hway))

theorem landingOf_entry (h : isEnclosed name = true) :
    landingOf working destination <+: landingOf working (join destination name) := by
  have hrelative := isAbsolute_of_isEnclosed h
  have hlanding : landingOf working (join destination name) =
      landing (landingOf working destination) (FileSystem.stepsOf name) := by
    unfold landingOf
    rw [startOf_join working hrelative, stepsOf_join hrelative, landing_append]
  rw [hlanding]
  exact landing_of_isEnclosed h (List.prefix_refl _)

/-! ## Changes -/

theorem makeFolders_keeps {path : String} {inside : Location} {ways : Location → Prop}
    (hplaces : ∀ step ∈ stepsTo path,
      ways (landingOf working step) ∨ inside <+: landingOf working step) :
    Action.Keeps working inside ways (makeFolders path) := by
  refine Action.keeps_attempt _ fun fs hworking => .of_createFolders fs fun step hstep => ?_
  rw [hworking]
  exact hplaces step hstep

theorem makeFolders_destination_keeps (working : Location) (destination : String) :
    Action.Keeps working (landingOf working destination) (Passes working destination)
      (makeFolders destination) :=
  makeFolders_keeps fun _ hstep => Or.inl ((leadsInto_of_mem_stepsTo hstep).passes working)

/-- Writing a file and the folders that lead to it changes what is in a folder only, and folders on
the way to it, if so does each of these. -/
theorem writeContent_keeps {target : String} {content : Content} {inside : Location}
    {ways : Location → Prop} (htarget : inside <+: landingOf working target) :
    Action.Keeps working inside ways (writeContent target content) := by
  refine Action.Keeps.bind (Action.keeps_change _ fun fs fs' hworking hwritten => ?_) fun _ => ?_
  · rw [(FileSystem.writeFile_eq_ok hwritten).1, hworking]
    exact .of_put htarget _
  · split
    · exact Action.keeps_pure _
    · exact Action.keeps_ofExcept _

theorem extractFile_keeps {target : String} {content : Content} {inside : Location}
    {ways : Location → Prop}
    (hparent : ∀ up, parent? target = some up → ∀ step ∈ stepsTo up,
      ways (landingOf working step) ∨ inside <+: landingOf working step)
    (htarget : inside <+: landingOf working target) :
    Action.Keeps working inside ways (extractFile target content) := by
  unfold extractFile
  cases hup : parent? target with
  | none => exact (Action.keeps_pure ()).bind fun _ => writeContent_keeps htarget
  | some up =>
      exact (makeFolders_keeps (hparent up hup)).bind fun _ => writeContent_keeps htarget

/-- One entry changes the folder only, and folders on the way to it. -/
theorem extractMember_keeps (working : Location) (destination : String) (m : Member) :
    Action.Keeps working (landingOf working destination) (Passes working destination)
      (extractMember destination m) := by
  unfold extractMember
  refine (Action.keeps_ofExcept _).bind fun content => ?_
  by_cases henclosed : isEnclosed m.name = true
  · rw [if_pos henclosed]
    split
    · refine (makeFolders_keeps fun step hstep => ?_).bind fun _ => Action.keeps_pure _
      exact passes_entry henclosed ((leadsInto_of_mem_stepsTo hstep).passes working)
    · refine (extractFile_keeps (fun up hup step hstep => ?_) (landingOf_entry henclosed)).bind
        fun _ => Action.keeps_pure _
      exact passes_entry henclosed ((leadsInto_of_mem_stepsTo_parent hup hstep).passes working)
  · rw [if_neg henclosed]
    exact Action.keeps_ofExcept _

theorem extractMembers_keeps (working : Location) (destination : String) (members : List Member) :
    Action.Keeps working (landingOf working destination) (Passes working destination)
      (extractMembers destination members) := by
  induction members with
  | nil => exact Action.keeps_pure _
  | cons m rest ih =>
      exact (extractMember_keeps working destination m).bind fun _ =>
        ih.bind fun _ => Action.keeps_pure _

/-! ## The first name that leads out -/

variable {fs fs' : FileSystem}

theorem extractMembers_append_error {before : List Member} {f : Failure} (after : List Member)
    (h : extractMembers destination before fs = (.error f, fs')) :
    extractMembers destination (before ++ after) fs = (.error f, fs') := by
  induction before generalizing fs with
  | nil => cases h
  | cons m rest ih =>
      rcases hfirst : extractMember destination m fs with ⟨g | written, fs₁⟩
      · have hfails : extractMembers destination (m :: rest) fs = (.error g, fs₁) :=
          Action.bind_of_error hfirst
        rw [h] at hfails
        cases hfails
        exact Action.bind_of_error hfirst
      · rcases hrest : extractMembers destination rest fs₁ with ⟨g | more, fs₂⟩
        · have hfails : extractMembers destination (m :: rest) fs = (.error g, fs₂) :=
            Action.bind_of_ok hfirst (Action.bind_of_error hrest)
          rw [h] at hfails
          cases hfails
          exact Action.bind_of_ok hfirst (Action.bind_of_error (ih hrest))
        · have hworks : extractMembers destination (m :: rest) fs =
              (.ok (written.toList ++ more), fs₂) :=
            Action.bind_of_ok hfirst (Action.bind_of_ok hrest rfl)
          rw [h] at hworks
          cases hworks

/-- After entries that are written, a failing one ends the extraction. -/
theorem extractMembers_stops {before : List Member} {m : Member} {written : List String}
    {f : Failure} (after : List Member)
    (h : extractMembers destination before fs = (.ok written, fs'))
    (hm : extractMember destination m fs' = (.error f, fs')) :
    extractMembers destination (before ++ m :: after) fs = (.error f, fs') := by
  induction before generalizing fs written with
  | nil =>
      obtain ⟨-, rfl⟩ := Action.pure_eq_ok h
      exact Action.bind_of_error hm
  | cons first rest ih =>
      obtain ⟨one, fs₁, hfirst, h⟩ := Action.bind_eq_ok h
      obtain ⟨more, fs₂, hrest, h⟩ := Action.bind_eq_ok h
      obtain ⟨-, rfl⟩ := Action.pure_eq_ok h
      exact Action.bind_of_ok hfirst (Action.bind_of_error (ih hrest))

/-- The refusal of an entry whose name leads out. -/
def escapeFailure (m : Member) : Failure :=
  .archive ("Entry '" ++ m.name ++ "' would extract outside the destination")

theorem orUnreadable_of_ok {α : Type} {r : Except String α} {x : α} (h : r = .ok x) :
    orUnreadable r fs = (.ok x, fs) := by
  rw [h]
  rfl

variable (destination fs) in
/-- An entry whose name leads out is refused, if it can be opened. -/
theorem extractMember_escapes {m : Member} (h : Escapes m.name) :
    (∀ content, m.content = .ok content →
      extractMember destination m fs = (.error (escapeFailure m), fs)) ∧
    ∀ text, m.content = .error text →
      extractMember destination m fs = (.error (.zip text), fs) := by
  have hrefused : ¬ isEnclosed m.name = true := fun henclosed => isEnclosed_iff.mp henclosed h
  constructor
  · intro content hcontent
    refine Action.bind_of_ok (orUnreadable_of_ok hcontent) ?_
    rw [if_neg hrefused]
    rfl
  · intro text htext
    refine Action.bind_of_error ?_
    rw [htext]
    rfl

theorem exists_first_escape {members : List Member} (h : ∃ m ∈ members, Escapes m.name) :
    ∃ before m after, members = before ++ m :: after ∧ Escapes m.name ∧
      ∀ b ∈ before, ¬ Escapes b.name := by
  induction members with
  | nil =>
      obtain ⟨m, hm, -⟩ := h
      cases hm
  | cons first rest ih =>
      by_cases hfirst : Escapes first.name
      · exact ⟨[], first, rest, rfl, hfirst, nofun⟩
      · have hlater : ∃ m ∈ rest, Escapes m.name := by
          obtain ⟨m, hm, hescapes⟩ := h
          rcases List.mem_cons.mp hm with rfl | hm
          · exact absurd hescapes hfirst
          · exact ⟨m, hm, hescapes⟩
        obtain ⟨before, m, after, rfl, hm, hbefore⟩ := ih hlater
        exact ⟨first :: before, m, after, rfl, hm, List.forall_mem_cons.mpr ⟨hfirst, hbefore⟩⟩

/-! ## Whole archives -/

/-- Where the bytes of an archive come from. -/
inductive Source where
  | file (path : String)
  | memory (bytes : List UInt8)

namespace Source

/-- The bytes of the archive. -/
def read : Source → Action Failure (List UInt8)
  | file path => readArchive path
  | memory bytes => pure bytes

theorem read_keeps (s : Source) {working inside : Location} {ways : Location → Prop} :
    Action.Keeps working inside ways s.read := by
  cases s with
  | file path =>
      intro fs _
      simp only [read, readArchive]
      split <;> exact .refl fs
  | memory bytes => exact Action.keeps_pure bytes

variable [Codec]

/-- Extract the archive to a folder. -/
def extract : Source → String → Action Failure (List String)
  | file path => Archive.extract path
  | memory bytes => extractBytes bytes

/-- Make the folder, and read the archive and its entries. -/
def start (s : Source) (destination : String) : Action Failure (List Member) := do
  makeFolders destination
  let bytes ← s.read
  orUnreadable (Codec.listing bytes)

/-- Extraction starts and then goes through the entries. -/
theorem extract_of_start_ok {s : Source} {members : List Member}
    (h : s.start destination fs = (.ok members, fs')) :
    s.extract destination fs = extractMembers destination members fs' := by
  obtain ⟨u, fs₁, hmade, h⟩ := Action.bind_eq_ok h
  obtain ⟨bytes, fs₂, hread, hlisted⟩ := Action.bind_eq_ok h
  cases s with
  | file path =>
      exact Action.bind_of_ok hmade (Action.bind_of_ok hread (Action.bind_of_ok hlisted rfl))
  | memory given =>
      obtain ⟨rfl, rfl⟩ := Action.pure_eq_ok hread
      exact Action.bind_of_ok hmade (Action.bind_of_ok hlisted rfl)

/-- Whatever comes of it, extraction changes the folder only, and makes folders on the way to
it. -/
theorem extract_keeps (s : Source) (working : Location) (destination : String) :
    Action.Keeps working (landingOf working destination) (Passes working destination)
      (s.extract destination) := by
  have hmade := makeFolders_destination_keeps working destination
  have hrest : ∀ bytes, Action.Keeps working (landingOf working destination)
      (Passes working destination) (do
        let members ← orUnreadable (Codec.listing bytes)
        extractMembers destination members) := fun bytes =>
    (Action.keeps_ofExcept _).bind (extractMembers_keeps working destination)
  cases s with
  | file path => exact hmade.bind fun _ => (file path).read_keeps.bind hrest
  | memory bytes => exact hmade.bind fun _ => hrest bytes

end Source

/-- Whatever the format reads in an archive, extraction changes what is in its folder, and makes
folders where nothing was on the way to it; if the folder is given without `..`, these lie above
it.  If the name of an entry leads out of the folder, the first such entry ends the extraction with
a refusal, or, if the entry cannot be opened, with what keeps it from being opened.  What the
entries before it have left stays, unless one of them has failed already; no later entry is
extracted. -/
theorem extract_confined [Codec] (s : Source) (destination : String) (fs : FileSystem) :
    Within (landingOf fs.working destination) (Passes fs.working destination) fs
      (s.extract destination fs).2 ∧
    (¬ Climbs destination → ∀ l, Passes fs.working destination l →
      l <+: landingOf fs.working destination) ∧
    ∀ members started, s.start destination fs = (.ok members, started) →
      (∃ m ∈ members, Escapes m.name) →
      ∃ before m after, members = before ++ m :: after ∧ Escapes m.name ∧
        (∀ b ∈ before, ¬ Escapes b.name) ∧
        (∀ f fs', extractMembers destination before started = (.error f, fs') →
          s.extract destination fs = (.error f, fs')) ∧
        ∀ written fs', extractMembers destination before started = (.ok written, fs') →
          (∀ content, m.content = .ok content →
            s.extract destination fs = (.error (escapeFailure m), fs')) ∧
          ∀ text, m.content = .error text →
            s.extract destination fs = (.error (.zip text), fs') := by
  refine ⟨s.extract_keeps fs.working destination fs rfl,
    fun hclimbs l hpasses => hpasses.above hclimbs, ?_⟩
  intro members started hstart hescapes
  obtain ⟨before, m, after, rfl, hm, hbefore⟩ := exists_first_escape hescapes
  refine ⟨before, m, after, rfl, hm, hbefore, ?_⟩
  rw [Source.extract_of_start_ok hstart]
  refine ⟨fun f fs' hfails => extractMembers_append_error _ hfails, fun written fs' hworks => ?_⟩
  obtain ⟨hopened, hunopened⟩ := extractMember_escapes destination fs' hm
  exact ⟨fun content hcontent => extractMembers_stops after hworks (hopened content hcontent),
    fun text htext => extractMembers_stops after hworks (hunopened text htext)⟩

deriving instance DecidableEq for Member

/-- An archive of three deflated entries, the second of which leads out. -/
def strayArchive : List UInt8 :=
  [80, 75, 3, 4, 20, 0, 0, 0, 8, 0, 0, 0, 33, 0, 71, 221, 220, 121, 4, 0, 0, 0, 2, 0, 0, 0,
    5, 0, 0, 0, 97, 46, 116, 120, 116, 203, 207, 6, 0, 80, 75, 3, 4, 20, 0, 0, 0, 8, 0, 0, 0,
    33, 0, 131, 22, 220, 140, 3, 0, 0, 0, 1, 0, 0, 0, 11, 0, 0, 0, 46, 46, 47, 101, 118, 105,
    108, 46, 116, 120, 116, 171, 0, 0, 80, 75, 3, 4, 20, 0, 0, 0, 8, 0, 0, 0, 33, 0, 71, 221,
    220, 121, 4, 0, 0, 0, 2, 0, 0, 0, 5, 0, 0, 0, 122, 46, 116, 120, 116, 203, 207, 6, 0, 80,
    75, 1, 2, 20, 3, 20, 0, 0, 0, 8, 0, 0, 0, 33, 0, 71, 221, 220, 121, 4, 0, 0, 0, 2, 0, 0,
    0, 5, 0, 0, 0, 0, 0, 0, 0, 0, 0, 0, 0, 164, 129, 0, 0, 0, 0, 97, 46, 116, 120, 116, 80,
    75, 1, 2, 20, 3, 20, 0, 0, 0, 8, 0, 0, 0, 33, 0, 131, 22, 220, 140, 3, 0, 0, 0, 1, 0, 0,
    0, 11, 0, 0, 0, 0, 0, 0, 0, 0, 0, 0, 0, 164, 129, 39, 0, 0, 0, 46, 46, 47, 101, 118, 105,
    108, 46, 116, 120, 116, 80, 75, 1, 2, 20, 3, 20, 0, 0, 0, 8, 0, 0, 0, 33, 0, 71, 221, 220,
    121, 4, 0, 0, 0, 2, 0, 0, 0, 5, 0, 0, 0, 0, 0, 0, 0, 0, 0, 0, 0, 164, 129, 83, 0, 0, 0,
    122, 46, 116, 120, 116, 80, 75, 5, 6, 0, 0, 0, 0, 3, 0, 3, 0, 159, 0, 0, 0, 122, 0, 0, 0,
    0, 0]

/-- The file before the entry that leads out is written, and nothing after it. -/
theorem strayArchive_confined :
    (Source.memory strayArchive).extract "/out" .empty =
      (.error (.archive "Entry '../evil.txt' would extract outside the destination"),
        ⟨[(["out"], .folder), (["out", "a.txt"], .file [111, 107])], []⟩) := by
  obtain ⟨-, -, hstops⟩ := extract_confined (.memory strayArchive) "/out" .empty
  have hstray : Escapes "../evil.txt" := by
    by_contra h
    exact absurd (isEnclosed_iff.mpr h) (by decide)
  have ha : ¬ Escapes "a.txt" := isEnclosed_iff.mp (by decide)
  obtain ⟨before, m, after, hmembers, hm, hbefore, -, hrefused⟩ := hstops
    [⟨"a.txt", .ok ⟨[111, 107], none⟩⟩, ⟨"../evil.txt", .ok ⟨[120], none⟩⟩,
      ⟨"z.txt", .ok ⟨[111, 107], none⟩⟩]
    ⟨[(["out"], .folder)], []⟩ (Prod.ext (by decide +kernel) (by decide +kernel))
    ⟨_, List.mem_cons_of_mem _ List.mem_cons_self, hstray⟩
  -- The entries before are the first one alone: it does not lead out, and the second one does.
  rcases before with _ | ⟨x, _ | ⟨y, more⟩⟩
  · cases hmembers
    exact absurd hm ha
  · cases hmembers
    exact (hrefused ["/out/a.txt"] _ (Prod.ext (by decide +kernel) (by decide +kernel))).1
      ⟨[120], none⟩ rfl
  · obtain ⟨-, rfl, -⟩ := by simpa using hmembers
    exact absurd hstray (hbefore _ (List.mem_cons_of_mem _ List.mem_cons_self))

/-- An archive of one entry, which leads out and is marked as encrypted. -/
def lockedArchive : List UInt8 := ((encode [⟨"../x", [107]⟩]).set 6 1).set 43 1

/-- On the way to `/out/missing/../other` a folder is made that is neither in `/out/other` nor
above it.  An entry that leads out but is encrypted is not refused: opening it fails before. -/
theorem extraction_strays :
    (((Source.memory (encode [])).extract "/out/missing/../other" .empty).2.node?
        ["out", "missing"] = some .folder ∧
      landingOf [] "/out/missing/../other" = ["out", "other"] ∧
      ¬ ["out", "other"] <+: ["out", "missing"] ∧ ¬ ["out", "missing"] <+: ["out", "other"]) ∧
    ((∃ m, Codec.listing lockedArchive = .ok [m] ∧ Escapes m.name) ∧
      ((Source.memory lockedArchive).extract "/out" .empty).1 =
        .error (.zip Fault.encrypted.message)) := by
  refine ⟨⟨by decide +kernel, by decide, by decide, by decide⟩,
    ⟨⟨"../x", .error Fault.encrypted.message⟩, by decide +kernel, ?_⟩, by decide +kernel⟩
  by_contra h
  exact absurd (isEnclosed_iff.mpr h) (by decide)

end FormScaffold.Archive
