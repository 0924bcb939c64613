import FormScaffold.Proofs.Text.CaseFolding
import FormScaffold.Text.Letter

/-!
# Settled case

What upper-casing makes of a character stays as it is when it is upper-cased again, and all of it
that is not in upper case stays as it is when it is lower-cased.  Neither conversion makes white
space, nor what stands between words, names or folders, of another character.
-/

namespace FormScaffold.Text

/-! ## Classes as search trees -/

/-- The runs of a class as a table that maps each code point of the class to itself. -/
def CaseRun.ofClass (runs : List CodeRun) : List CaseRun := runs.map fun r => ⟨r, r.first⟩

theorem CaseRun.isSome_image?_ofClass (runs : List CodeRun) (n : Nat) :
    (image? (ofClass runs) n).isSome = CodeRun.anyCovers runs n := by
  unfold ofClass
  induction runs with
  | nil => rfl
  | cons r rest ih =>
      rw [List.map_cons, image?, CodeRun.anyCovers]
      by_cases hlow : n < r.first
      · rw [if_pos hlow, if_pos hlow]
        rfl
      · rw [if_neg hlow, if_neg hlow]
        cases hcovers : r.covers n with
        | true => rfl
        | false => exact ih

/-- The search tree of the class of upper-case characters. -/
def uppercaseTree : CaseTree := .ofRuns 8 (CaseRun.ofClass uppercaseRuns)

/-- A code point of an upper-case character. -/
def isUppercaseCode (n : Nat) : Bool := (uppercaseTree.image? n).isSome

set_option maxRecDepth 100000 in
theorem isUppercase_eq (c : Char) : isUppercase c = isUppercaseCode c.toNat := by
  have hruns : uppercaseTree.runs = CaseRun.ofClass uppercaseRuns :=
    CaseTree.runs_ofRuns (by decide)
  have hordered : (CaseRun.ofClass uppercaseRuns).IsChain CaseRun.Before := by decide
  unfold isUppercase isUppercaseCode
  rw [← CaseRun.isSome_image?_ofClass,
    ← CaseTree.image?_runs (hruns.symm ▸ pairwise_of_isChain hordered), hruns]

/-! ## From code points to characters -/

theorem toNat_mem_upperCodes {c d : Char} (h : d ∈ upperChars c) :
    d.toNat ∈ upperCodes c.toNat := by
  rw [upperChars_eq] at h
  obtain ⟨m, hm, rfl⟩ := List.mem_map.mp h
  have hcodes := (Bool.and_eq_true_iff.mp (foldsBack_of_isCode (isCode_toNat c))).1
  rw [toNat_ofNat (List.all_eq_true.mp hcodes m hm)]
  exact hm

theorem toNat_mem_lowerCodes {c d : Char} (h : d ∈ lowerChars c) :
    d.toNat ∈ lowerCodes c.toNat := by
  rw [lowerChars_eq] at h
  obtain ⟨m, hm, rfl⟩ := List.mem_map.mp h
  rw [toNat_ofNat (isCode_of_mem_lowerCodes (isCode_toNat c) hm)]
  exact hm

theorem upperChars_of_upperCodes {c : Char} (h : upperCodes c.toNat = [c.toNat]) :
    upperChars c = [c] := by
  rw [upperChars_eq, h, List.map_singleton, Char.ofNat_toNat]

theorem lowerChars_of_lowerCodes {c : Char} (h : lowerCodes c.toNat = [c.toNat]) :
    lowerChars c = [c] := by
  rw [lowerChars_eq, h, List.map_singleton, Char.ofNat_toNat]

/-- What holds between a code point and all that upper-casing makes of it, as long as the table
maps the code point, and of the others with themselves, holds of all characters. -/
theorem of_mem_upperChars {p : Nat → Nat → Bool}
    (hruns : checksRuns (fun n => (upperCodes n).all (p n)) upperRuns = true)
    (hexpansions : upperExpansions.all (fun e => (upperCodes e.1).all (p e.1)) = true)
    (hself : ∀ n, upperCodes n = [n] → p n n = true) {c d : Char} (h : d ∈ upperChars c) :
    p c.toNat d.toNat = true := by
  have hall := of_mapped (p := fun n => (upperCodes n).all (p n)) image?_upperRuns hruns
    hexpansions (n := c.toNat) fun hmapped => by
      have hmapped : upperCodes c.toNat = [c.toNat] := hmapped
      rw [hmapped, List.all_cons, List.all_nil, hself _ hmapped]
      rfl
  exact List.all_eq_true.mp hall _ (toNat_mem_upperCodes h)

/-! ## Upper case -/

/-- A code point in upper case has no other upper-case form. -/
def keepsUppercase (n : Nat) : Bool := !isUppercaseCode n || upperCodes n == [n]

/-- A code point that is not in upper case and has no upper-case form has no lower-case form. -/
def staysUncased (n : Nat) : Bool :=
  isUppercaseCode n || upperCodes n != [n] || lowerCodes n == [n]

theorem keepsUppercase_all (n : Nat) : keepsUppercase n = true := by
  have hruns : checksRuns keepsUppercase upperRuns = true := by decide +kernel
  have hexpansions : upperExpansions.all (fun e => keepsUppercase e.1) = true := by decide +kernel
  refine of_mapped image?_upperRuns hruns hexpansions fun hself => ?_
  have hself : upperCodes n = [n] := hself
  rw [keepsUppercase, hself, beq_self_eq_true, Bool.or_true]

theorem staysUncased_all (n : Nat) : staysUncased n = true := by
  have hruns : checksRuns staysUncased lowerRuns = true := by decide +kernel
  have hexpansions : lowerExpansions.all (fun e => staysUncased e.1) = true := by decide +kernel
  refine of_mapped image?_lowerRuns hruns hexpansions fun hself => ?_
  have hself : lowerCodes n = [n] := hself
  rw [staysUncased, hself, beq_self_eq_true, Bool.or_true]

/-- Upper-casing keeps an upper-case character. -/
theorem upperChars_of_isUppercase {c : Char} (h : isUppercase c = true) : upperChars c = [c] := by
  have hkeeps := keepsUppercase_all c.toNat
  rw [keepsUppercase, ← isUppercase_eq, h, Bool.not_true, Bool.false_or] at hkeeps
  exact upperChars_of_upperCodes (eq_of_beq hkeeps)

/-- What upper-casing makes is in upper case, or neither conversion changes it. -/
theorem isUppercase_or_uncased {c d : Char} (h : d ∈ upperChars c) :
    isUppercase d = true ∨ upperChars d = [d] ∧ lowerChars d = [d] := by
  -- What upper-casing leaves alone is in upper case already, or lower-casing leaves it alone too.
  have hself : ∀ n, upperCodes n = [n] →
      (isUppercaseCode n || (upperCodes n == [n] && lowerCodes n == [n])) = true := by
    intro n hn
    have hstays := staysUncased_all n
    rw [staysUncased, hn, bne_self_eq_false, Bool.or_false] at hstays
    rwa [hn, beq_self_eq_true, Bool.true_and]
  have hcased := of_mem_upperChars
    (p := fun _ m => isUppercaseCode m || (upperCodes m == [m] && lowerCodes m == [m]))
    (by decide +kernel) (by decide +kernel) hself h
  rw [← isUppercase_eq, Bool.or_eq_true, Bool.and_eq_true] at hcased
  exact hcased.imp_right fun ⟨hupper, hlower⟩ =>
    ⟨upperChars_of_upperCodes (eq_of_beq hupper), lowerChars_of_lowerCodes (eq_of_beq hlower)⟩

/-- Upper-casing keeps what it has made. -/
theorem upperChars_of_mem {c d : Char} (h : d ∈ upperChars c) : upperChars d = [d] :=
  (isUppercase_or_uncased h).elim upperChars_of_isUppercase And.left

/-! ## Dividers -/

/-- A code point that some run covers lies within the bounds of one. -/
theorem CodeRun.within_of_anyCovers {runs : List CodeRun} {n : Nat} (h : anyCovers runs n = true) :
    ∃ r ∈ runs, r.first ≤ n ∧ n ≤ r.last := by
  induction runs with
  | nil => cases h
  | cons r rest ih =>
      unfold anyCovers at h
      split at h
      · cases h
      · rcases Bool.or_eq_true_iff.mp h with hcovers | hrest
        · simp only [covers, Bool.and_eq_true, decide_eq_true_eq] at hcovers
          exact ⟨r, List.mem_cons_self, hcovers.1⟩
        · obtain ⟨s, hs, hbounds⟩ := ih hrest
          exact ⟨s, List.mem_cons_of_mem _ hs, hbounds⟩

/-- Signs that stand between words, names, folders or quoted texts. -/
def dividerSigns : List Char := ['"', ',', '-', '.', '/', '_', '\x7d']

/-- White space, and the signs that stand between texts. -/
def isDivider (c : Char) : Bool := isBlank c || dividerSigns.contains c

/-- Runs within which all dividers are. -/
def dividerRuns : List CodeRun :=
  blankRuns ++ dividerSigns.map fun c => ⟨c.toNat, c.toNat, 1⟩

theorem within_of_isDivider {c : Char} (h : isDivider c = true) :
    ∃ s ∈ dividerRuns, s.first ≤ c.toNat ∧ c.toNat ≤ s.last := by
  rcases Bool.or_eq_true_iff.mp h with hblank | hsign
  · obtain ⟨s, hs, hbounds⟩ := CodeRun.within_of_anyCovers hblank
    exact ⟨s, List.mem_append_left _ hs, hbounds⟩
  · have hs : ⟨c.toNat, c.toNat, 1⟩ ∈ dividerRuns :=
      List.mem_append_right _ (List.mem_map_of_mem (List.contains_iff_mem.mp hsign))
    exact ⟨_, hs, Nat.le_refl _, Nat.le_refl _⟩

/-- None of the code points from one to another is within the bounds of a divider's run. -/
def dividesNone (first last : Nat) : Bool :=
  dividerRuns.all fun s => Nat.blt s.last first || Nat.blt last s.first

theorem isDivider_of_dividesNone {first last : Nat} {c : Char}
    (h : dividesNone first last = true) (hfirst : first ≤ c.toNat) (hlast : c.toNat ≤ last) :
    isDivider c = false := by
  refine Bool.eq_false_iff.mpr fun hdivider => ?_
  obtain ⟨s, hs, hbounds⟩ := within_of_isDivider hdivider
  have houtside := List.all_eq_true.mp h s hs
  simp only [Bool.or_eq_true, Nat.blt_eq] at houtside
  omega

/-- The images of a run have no divider among them, nor between them. -/
def CaseRun.dividesNone (r : CaseRun) : Bool :=
  Text.dividesNone r.target (r.target + (r.source.last - r.source.first))

theorem CaseRun.isDivider_of_image? {runs : List CaseRun} {n : Nat} {c : Char}
    (hruns : runs.all CaseRun.dividesNone = true) (h : image? runs n = some c.toNat) :
    isDivider c = false := by
  induction runs with
  | nil => cases h
  | cons r rest ih =>
      obtain ⟨hr, hrest⟩ := Bool.and_eq_true_iff.mp hruns
      unfold image? at h
      split at h
      · cases h
      · split at h
        · rename_i hcovers
          simp only [CodeRun.covers, Bool.and_eq_true, decide_eq_true_eq] at hcovers
          have himage := Option.some.inj h
          exact isDivider_of_dividesNone hr (by omega) (by omega)
        · exact ih hrest h

theorem toNat_of_isDivider {n : Nat} (h : isDivider (Char.ofNat n) = true) :
    (Char.ofNat n).toNat = n := by
  by_cases hvalid : n.isValidChar
  · rw [Char.ofNat, dif_pos hvalid]
    rfl
  · rw [Char.ofNat, dif_neg hvalid] at h
    exact absurd h (by decide)

/-- A table whose images are no dividers makes a divider of itself only. -/
theorem eq_of_mem_caseImage {expansions : List (Nat × List Nat)} {runs : List CaseRun}
    (hruns : runs.all CaseRun.dividesNone = true)
    (hexpansions : expansions.all (fun e => e.2.all fun m => dividesNone m m) = true) {c d : Char}
    (h : d ∈ caseImage expansions runs c) (hd : isDivider d = true) : d = c := by
  unfold caseImage at h
  split at h
  · rename_i n himage
    obtain rfl := List.mem_singleton.mp h
    rw [← toNat_of_isDivider hd] at himage
    rw [CaseRun.isDivider_of_image? hruns himage] at hd
    cases hd
  · split at h
    · rename_i ns hlookup
      obtain ⟨n, hn, rfl⟩ := List.mem_map.mp h
      obtain ⟨before, after, happend, -⟩ := List.lookup_eq_some_iff.mp hlookup
      have hentry : (c.toNat, ns) ∈ expansions :=
        happend ▸ List.mem_append_right _ List.mem_cons_self
      have hn := List.all_eq_true.mp (List.all_eq_true.mp hexpansions _ hentry) n hn
      have hcode := (toNat_of_isDivider hd).symm
      rw [isDivider_of_dividesNone hn (Nat.le_of_eq hcode) (Nat.le_of_eq hcode.symm)] at hd
      cases hd
    · exact List.mem_singleton.mp h

/-- Upper-casing makes no divider of another character. -/
theorem eq_of_mem_upperChars {c d : Char} (h : d ∈ upperChars c) (hd : isDivider d = true) :
    d = c :=
  eq_of_mem_caseImage (by decide +kernel) (by decide +kernel) h hd

/-- Lower-casing makes no divider of another character. -/
theorem eq_of_mem_lowerChars {c d : Char} (h : d ∈ lowerChars c) (hd : isDivider d = true) :
    d = c :=
  eq_of_mem_caseImage (by decide +kernel) (by decide +kernel) h hd

end FormScaffold.Text
