import FormScaffold.Output.FolderName
import FormScaffold.Output.Organizer
import FormScaffold.Proofs.Calendar.Timestamps
import FormScaffold.Proofs.Path.Names
import FormScaffold.Proofs.Text.Cutting

/-!
# Names of folders and archives

Whatever a project is called, its folder name is one name of a path: it is not empty, has no
slash, and is neither of the dots.  So a project's folder lies right below the output folder,
and the archive of a folder right in the folder of the archives.

The names that folders get are those that a second cleaning leaves as they are.  The name of an
archive is read from its end: the ending, the digits of a second up to the last underscore, and the
name of the folder.  So two archives have one name only if they are of one folder and of one second,
whatever digits and underscores the name of a folder has.
-/

namespace FormScaffold.Calendar

/-! ## Digits of a second -/

theorem padded_inj {width m n : Nat} (h : padded width m = padded width n) : m = n := by
  rw [← numberOf_padded width m, h, numberOf_padded]

/-- A year is told by its digits and its sign, however many digits it has. -/
theorem yearText_inj {y z : Int} (h : yearText y = yearText z) : y = z := by
  have hread (y : Int) : takeYear? (yearText y) = some (y, []) := by
    have hend : DigitsEnd [] := fun c hc => nomatch hc
    simpa using takeYear?_yearText y hend
  have hboth := hread y
  rw [h, hread z] at hboth
  exact (congrArg Prod.fst (Option.some.inj hboth)).symm

/-- The second of the calendar that an instant lies in. -/
def Instant.calendarSecond (t : Instant) : Moment := { t.moment with nanos := 0 }

/-- The digits of a second tell the second: all of its parts but the year have two. -/
theorem compactText_inj {t u : Instant} :
    t.compactText = u.compactText ↔ t.calendarSecond = u.calendarSecond := by
  have hparts : t.calendarSecond = u.calendarSecond ↔ t.moment.date = u.moment.date ∧
      t.moment.hour = u.moment.hour ∧ t.moment.minute = u.moment.minute ∧
      t.moment.second = u.moment.second := by
    simp only [Instant.calendarSecond, Moment.mk.injEq, and_true]
  rw [hparts]
  constructor
  · intro h
    obtain ⟨hmonth, hday, hhour, hminute, hsecond, -⟩ := moment_ranges t
    obtain ⟨hmonth', hday', hhour', hminute', hsecond', -⟩ := moment_ranges u
    have htwo {n m : Nat} (hn : n < 100) (hm : m < 100) :
        (padded 2 n).length = (padded 2 m).length := by
      rw [length_padded (by decide) hn, length_padded (by decide) hm]
    unfold Instant.compactText at h
    rw [String.ofList_inj] at h
    obtain ⟨h, hseconds⟩ := List.append_inj' h (htwo (by omega) (by omega))
    obtain ⟨h, hminutes⟩ := List.append_inj' h (htwo (by omega) (by omega))
    obtain ⟨h, hhours⟩ := List.append_inj' h (htwo (by omega) (by omega))
    obtain ⟨h, hdays⟩ := List.append_inj' h (htwo hday hday')
    obtain ⟨hyears, hmonths⟩ := List.append_inj' h (htwo hmonth hmonth')
    refine ⟨?_, padded_inj hhours, padded_inj hminutes, padded_inj hseconds⟩
    exact (Date.mk.injEq ..).mpr ⟨yearText_inj hyears, padded_inj hmonths, padded_inj hdays⟩
  · rintro ⟨hdate, hhour, hminute, hsecond⟩
    simp only [Instant.compactText, hdate, hhour, hminute, hsecond]

end FormScaffold.Calendar

namespace FormScaffold.Output

open Calendar Path Text

/-! ## Cleaned names -/

/-- No character of a folder name is one that a file name may not hold. -/
theorem isReserved_of_mem_folderName {project : String} {c : Char}
    (h : c ∈ (folderName project).toList) : isReserved c = false := by
  unfold folderName at h
  simp only [] at h
  split at h
  · have hfallback : fallbackFolderName.toList.all (isReserved · == false) = true := by decide
    exact eq_of_beq (List.all_eq_true.mp hfallback c h)
  · rw [String.toList_ofList] at h
    obtain ⟨d, -, hd⟩ := List.mem_map.mp (trimBoth_subset _ _ h)
    unfold allowed at hd
    split at hd
    · rw [← hd]
      decide
    · rename_i hallowed
      rw [← hd]
      simpa using hallowed

theorem isReserved_of_isDigit {c : Char} (h : c.isDigit = true) : isReserved c = false := by
  have hrange : 48 ≤ c.toNat ∧ c.toNat ≤ 57 := by
    simpa [Char.isDigit, UInt32.le_iff_toNat_le] using h
  have hcontrol : isControl c = false := by
    unfold isControl
    rw [Bool.or_eq_false_iff, Bool.and_eq_false_iff, decide_eq_false_iff_not,
      decide_eq_false_iff_not]
    omega
  have hreserved : c ∉ reservedCharacters := by
    intro hmem
    have hall : reservedCharacters.all (·.isDigit == false) = true := by decide
    rw [eq_of_beq (List.all_eq_true.mp hall c hmem)] at h
    cases h
  unfold isReserved
  simp [hcontrol, hreserved]

/-- Neither does the name of an archive hold such a character. -/
theorem isReserved_of_mem_archiveName {folder : String} {made : Calendar.Instant} {c : Char}
    (h : c ∈ (archiveName folder made).toList) : isReserved c = false := by
  unfold archiveName at h
  simp only [String.toList_append, List.mem_append] at h
  rcases h with ((h | h) | h) | h
  · exact isReserved_of_mem_folderName h
  · have hseam : "_".toList.all (isReserved · == false) = true := by decide
    exact eq_of_beq (List.all_eq_true.mp hseam c h)
  · rcases Calendar.mem_compactText h with h | rfl | rfl
    · exact isReserved_of_isDigit h
    · decide
    · decide
  · have hending : ".zip".toList.all (isReserved · == false) = true := by decide
    exact eq_of_beq (List.all_eq_true.mp hending c h)

theorem slash_not_mem_folderName (project : String) : '/' ∉ (folderName project).toList :=
  fun h => absurd (isReserved_of_mem_folderName h) (by decide)

/-- A folder name starts with something else than a dot. -/
theorem folderName_head (project : String) :
    ∃ c cs, (folderName project).toList = c :: cs ∧ c ≠ '.' := by
  unfold folderName
  simp only []
  split
  · exact ⟨'p', _, rfl, by decide⟩
  · rename_i hkept
    rw [String.toList_ofList]
    cases hchars : trimBoth isFolderEdge (project.toList.map allowed) with
    | nil => simp [hchars] at hkept
    | cons c cs =>
        refine ⟨c, cs, rfl, ?_⟩
        rintro rfl
        have hedge := head?_trimBoth (by rw [hchars]; rfl :
          (trimBoth isFolderEdge (project.toList.map allowed)).head? = some '.')
        exact absurd hedge (by decide)

/-- A folder name is one name. -/
theorem names_folderName (project : String) :
    names (folderName project) = [folderName project] ∧ isAbsolute (folderName project) = false ∧
      ¬ Climbs (folderName project) := by
  obtain ⟨c, cs, hchars, hdot⟩ := folderName_head project
  refine names_of_plain (slash_not_mem_folderName project) ?_ ?_ ?_ <;> rw [hchars]
  · simp
  · simp [hdot]
  · simp [hdot]

/-- The name of an archive is one name. -/
theorem names_archiveName (folder : String) (made : Calendar.Instant) :
    names (archiveName folder made) = [archiveName folder made] ∧
      isAbsolute (archiveName folder made) = false ∧ ¬ Climbs (archiveName folder made) := by
  refine names_of_long ?_ ?_
  · exact fun h => absurd (isReserved_of_mem_archiveName h) (by decide)
  · unfold archiveName
    have hzip : ".zip".toList.length = 4 := by decide
    simp only [String.toList_append, List.length_append, hzip]
    omega

namespace Organizer

/-- The folder of a project lies right below the output folder. -/
theorem rootOf_plain (o : Organizer) (project : String) (h : ¬ Climbs o.outputRoot) :
    ¬ Climbs (o.rootOf project) ∧ names (o.rootOf project) ≠ [] := by
  obtain ⟨hnames, hrelative, hclimbs⟩ := names_folderName project
  unfold rootOf
  constructor
  · rw [climbs_join hrelative]
    simp [h, hclimbs]
  · rw [names_join hrelative, hnames]
    simp

end Organizer

/-! ## Names of folders -/

/-- A name that a folder may have: there is something in it, nothing that a file name may not hold,
and neither end is a dot or blank. -/
structure IsFolderName (name : String) : Prop where
  given : name ≠ ""
  allowed : ∀ c ∈ name.toList,
    c ∉ ['/', '\\', ':', '*', '?', '"', '<', '>', '|'] ∧ isControl c = false
  start : ∀ c, name.toList.head? = some c → c ≠ '.' ∧ isBlank c = false
  stop : ∀ c, name.toList.getLast? = some c → c ≠ '.' ∧ isBlank c = false

theorem isReserved_eq_false_iff {c : Char} : isReserved c = false ↔
    c ∉ ['/', '\\', ':', '*', '?', '"', '<', '>', '|'] ∧ isControl c = false := by
  rw [isReserved, reservedCharacters, Bool.or_eq_false_iff, List.contains_eq_mem,
    decide_eq_false_iff_not]

theorem isFolderEdge_eq_false_iff {c : Char} :
    isFolderEdge c = false ↔ c ≠ '.' ∧ isBlank c = false := by
  rw [isFolderEdge, Bool.or_eq_false_iff, beq_eq_false_iff_ne]

theorem isFolderName_folderName (project : String) : IsFolderName (folderName project) := by
  obtain ⟨c, cs, hchars, -⟩ := folderName_head project
  have hgiven : folderName project ≠ "" := by
    intro hempty
    rw [hempty] at hchars
    exact nomatch hchars
  suffices hends : (∀ c, (folderName project).toList.head? = some c → isFolderEdge c = false) ∧
      ∀ c, (folderName project).toList.getLast? = some c → isFolderEdge c = false from
    ⟨hgiven, fun _ hc => isReserved_eq_false_iff.mp (isReserved_of_mem_folderName hc),
      fun c hc => isFolderEdge_eq_false_iff.mp (hends.1 c hc),
      fun c hc => isFolderEdge_eq_false_iff.mp (hends.2 c hc)⟩
  unfold folderName
  simp only []
  split
  · have hends : ∀ c, fallbackFolderName.toList.head? = some c ∨
        fallbackFolderName.toList.getLast? = some c → isFolderEdge c = false := by
      rintro c (h | h) <;> cases h <;> decide
    exact ⟨fun c h => hends c (Or.inl h), fun c h => hends c (Or.inr h)⟩
  · rw [String.toList_ofList]
    exact ⟨fun c => head?_trimBoth, fun c => getLast?_dropEndWhile⟩

/-- The names of folders are those that are kept as they are. -/
theorem folderName_eq_self_iff {name : String} : folderName name = name ↔ IsFolderName name := by
  refine ⟨fun h => h ▸ isFolderName_folderName name, fun h => ?_⟩
  have hallowed : name.toList.map allowed = name.toList := by
    refine (List.map_congr_left fun c hc => ?_).trans (List.map_id _)
    rw [allowed, isReserved_eq_false_iff.mpr (h.allowed c hc)]
    rfl
  have hkept : name.toList.isEmpty = false :=
    List.isEmpty_eq_false_iff.mpr fun hnil => h.given (String.toList_eq_nil_iff.mp hnil)
  unfold folderName
  have htrimmed : trimBoth isFolderEdge name.toList = name.toList :=
    trimBoth_eq_self (fun c hc => isFolderEdge_eq_false_iff.mpr (h.start c hc))
      fun c hc => isFolderEdge_eq_false_iff.mpr (h.stop c hc)
  simp only [hallowed, htrimmed, hkept, String.ofList_toList]
  rfl

namespace IsFolderName

variable {name : String} (h : IsFolderName name)
include h

theorem slash_not_mem : '/' ∉ name.toList := fun hslash =>
  absurd List.mem_cons_self (h.allowed _ hslash).1

theorem toList_ne_nil : name.toList ≠ [] := fun hnil => h.given (String.toList_eq_nil_iff.mp hnil)

/-- The name does not start with a dot, so it is neither of the names made of dots. -/
theorem ne_dots (dots : List Char) : name.toList ≠ '.' :: dots := fun heq =>
  (h.start '.' (by rw [heq, List.head?_cons])).1 rfl

theorem segmentComponent?_eq : segmentComponent? name.toList = some (.name name) := by
  unfold segmentComponent?
  rw [if_neg (by simp [h.toList_ne_nil, h.ne_dots]), if_neg (by simp [h.ne_dots]),
    String.ofList_toList]

/-- As a path, the name is one component. -/
theorem components_eq : components name = [.name name] := by
  have hbody : [name.toList].filterMap segmentComponent? = [.name name] := by
    rw [List.filterMap_cons, h.segmentComponent?_eq]
    rfl
  unfold components
  simp only [segmentsOf_of_not_mem h.slash_not_mem, hbody]
  split
  next heq => exact absurd (List.cons.inj heq).1 h.toList_ne_nil
  next heq => exact absurd (List.cons.inj heq).1 (h.ne_dots [])
  next => rfl

/-- Whatever path leads to the folder, the last name of the path is that of the folder. -/
theorem fileName?_join (base : String) : fileName? (join base name) = some name := by
  have hrelative : isAbsolute name = false := by
    unfold isAbsolute
    rw [beq_eq_false_iff_ne]
    exact fun hslash => h.slash_not_mem (List.mem_of_head? hslash)
  have hbody : body (join base name) = body base ++ [.name name] := by
    rw [body_join hrelative, body.eq_def name, segmentsOf_of_not_mem h.slash_not_mem,
      List.filterMap_cons, h.segmentComponent?_eq]
    rfl
  have hlast : (components (join base name)).getLast? = some (.name name) := by
    rcases components_cases (join base name) with ⟨-, hall⟩ | ⟨-, hall⟩ | ⟨-, hall⟩ <;>
      rw [hall, hbody]
    · rw [← List.cons_append, List.getLast?_concat]
    · rw [← List.cons_append, List.getLast?_concat]
    · rw [List.getLast?_concat]
  unfold fileName?
  rw [hlast]

end IsFolderName

/-! ## Names of archives -/

/-- A text is cut at its last underscore in one way. -/
theorem append_underscore_inj {before before' after after' : List Char} (h : '_' ∉ after)
    (h' : '_' ∉ after') (heq : before ++ '_' :: after = before' ++ '_' :: after') :
    before = before' ∧ after = after' := by
  rcases List.append_eq_append_iff.mp heq with ⟨between, rfl, hmore⟩ | ⟨between, rfl, hmore⟩
  -- What lies between the two underscores ends in the later one, which neither end has.
  · cases between with
    | nil => exact ⟨(List.append_nil _).symm, (List.cons.inj hmore).2⟩
    | cons c between =>
        obtain ⟨-, rfl⟩ := List.cons.inj hmore
        exact absurd (List.mem_append_right _ List.mem_cons_self) h
  · cases between with
    | nil => exact ⟨List.append_nil _, (List.cons.inj hmore).2.symm⟩
    | cons c between =>
        obtain ⟨-, rfl⟩ := List.cons.inj hmore
        exact absurd (List.mem_append_right _ List.mem_cons_self) h'

/-- The name of an archive is one that a folder may have, so as a path it is one component. -/
theorem isFolderName_archiveName (folder : String) (made : Instant) :
    IsFolderName (archiveName folder made) := by
  obtain ⟨c, cs, hfolder, -⟩ := folderName_head folder
  have hstart : (archiveName folder made).toList.head? = (folderName folder).toList.head? := by
    simp [archiveName, hfolder]
  have hstop : (archiveName folder made).toList.getLast? = some 'p' := by
    unfold archiveName
    rw [String.toList_append, List.getLast?_append]
    rfl
  refine ⟨fun hempty => ?_, fun _ hmem => isReserved_eq_false_iff.mp
    (isReserved_of_mem_archiveName hmem), fun d hd => ?_, fun d hd => ?_⟩
  · rw [hempty] at hstop
    exact nomatch hstop
  · exact (isFolderName_folderName folder).start d (hstart ▸ hd)
  · rw [hstop] at hd
    cases hd
    decide

theorem archiveName_inj {folder other : String} {made later : Instant} :
    archiveName folder made = archiveName other later ↔
      folderName folder = folderName other ∧ made.calendarSecond = later.calendarSecond := by
  have hdigits (t : Instant) : '_' ∉ t.compactText.toList := by
    intro h
    rcases mem_compactText h with h | h | h <;> exact absurd h (by decide)
  have hchars (name : String) (t : Instant) : (archiveName name t).toList =
      ((folderName name).toList ++ '_' :: t.compactText.toList) ++ ".zip".toList := by
    simp [archiveName]
  rw [← compactText_inj, ← String.toList_inj, hchars, hchars, List.append_left_inj,
    ← String.toList_inj, ← String.toList_inj]
  constructor
  · exact append_underscore_inj (hdigits made) (hdigits later)
  · rintro ⟨hname, htext⟩
    rw [hname, htext]

end FormScaffold.Output
