import FormScaffold.Text.Casing
import Mathlib.Algebra.Group.Nat.Defs
import Mathlib.Data.List.Basic

/-!
# Folding case

Upper-casing what was lower-cased folds the case of a text away: neither changing a character of
the text to upper case nor changing it to lower case has any effect on the result.
-/

namespace FormScaffold.Text

/-!
## Case tables as search trees

The runs of a case table are in order, so the run of a code point can be searched for by halves.
What holds of every code point that a table maps is thus checked in a time that does not grow with
the square of the table.
-/

namespace CaseRun

/-- The run ends before another one starts. -/
def Before (r s : CaseRun) : Prop :=
  r.source.first ≤ r.source.last ∧ r.source.last < s.source.first

instance : DecidableRel Before := fun _ _ => inferInstanceAs (Decidable (_ ∧ _))

theorem before_trans {r s t : CaseRun} (h : r.Before s) (h' : s.Before t) : r.Before t :=
  ⟨h.1, Nat.lt_of_lt_of_le h.2 (Nat.le_trans h'.1 (Nat.le_of_lt h'.2))⟩

variable {l rest : List CaseRun} {r : CaseRun} {n : Nat}

/-- Runs that start above a code point do not map it. -/
theorem image?_of_lt (h : ∀ s ∈ l, n < s.source.first) : image? l n = none := by
  cases l with
  | nil => rfl
  | cons s l =>
      unfold image?
      rw [if_pos (h s List.mem_cons_self)]

/-- The search stops before a run that starts above the code point. -/
theorem image?_append_of_lt (h : n < r.source.first) : image? (l ++ r :: rest) n = image? l n := by
  induction l with
  | nil => exact if_pos h
  | cons s l ih =>
      rw [List.cons_append, image?, image?]
      split
      · rfl
      · rw [ih]

/-- Runs that end below a code point are passed over. -/
theorem image?_append_of_gt (h : ∀ s ∈ l, s.source.first ≤ s.source.last ∧ s.source.last < n) :
    image? (l ++ rest) n = image? rest n := by
  induction l with
  | nil => rfl
  | cons s l ih =>
      obtain ⟨hrun, hlast⟩ := h s List.mem_cons_self
      have hcovers : s.source.covers n = false := by
        unfold CodeRun.covers
        rw [decide_eq_false (p := n ≤ s.source.last) (by omega), Bool.and_false, Bool.false_and]
      rw [List.cons_append, image?, if_neg (by omega), hcovers,
        ih fun s hs => h s (List.mem_cons_of_mem _ hs)]
      rfl

/-- What the table maps lies in one of its runs. -/
theorem exists_covers {m : Nat} (h : image? l n = some m) : ∃ r ∈ l, r.source.covers n = true := by
  induction l with
  | nil => cases h
  | cons s l ih =>
      unfold image? at h
      split at h
      · cases h
      · split at h
        · rename_i hcovers
          exact ⟨s, List.mem_cons_self, hcovers⟩
        · obtain ⟨r, hr, hcovers⟩ := ih h
          exact ⟨r, List.mem_cons_of_mem _ hr, hcovers⟩

end CaseRun

/-- A search tree of runs. -/
inductive CaseTree where
  | tip
  | node (run : CaseRun) (left right : CaseTree)

namespace CaseTree

/-- The runs of a tree, in order. -/
def runs : CaseTree → List CaseRun
  | tip => []
  | node r left right => left.runs ++ r :: right.runs

/-- The tree of runs that are halved `depth` times. -/
def ofRuns : Nat → List CaseRun → CaseTree
  | 0, _ => tip
  | depth + 1, runs =>
      match runs.drop (runs.length / 2) with
      | [] => tip
      | r :: rest => node r (ofRuns depth (runs.take (runs.length / 2))) (ofRuns depth rest)

/-- The image of a code point under the run that is found for it. -/
def image? : CaseTree → Nat → Option Nat
  | tip, _ => none
  | node r left right, n =>
      bif Nat.blt n r.source.first then left.image? n
      else bif Nat.blt r.source.last n then right.image? n
      else bif (n - r.source.first) % r.source.stride == 0 then
        some (r.target + (n - r.source.first))
      else none

theorem runs_ofRuns {depth : Nat} {runs : List CaseRun} (h : runs.length < 2 ^ depth) :
    (ofRuns depth runs).runs = runs := by
  induction depth generalizing runs with
  | zero => rw [List.eq_nil_of_length_eq_zero (by omega : runs.length = 0)]; rfl
  | succ depth ih =>
      have hhalves := List.take_append_drop (runs.length / 2) runs
      have hlength := congrArg List.length hhalves
      rw [List.length_append, List.length_take] at hlength
      unfold ofRuns
      rw [Nat.pow_succ] at h
      split
      · rename_i hnil
        rw [List.drop_eq_nil_iff] at hnil
        rw [List.eq_nil_of_length_eq_zero (by omega : runs.length = 0)]
        rfl
      · rename_i r rest hdrop
        rw [hdrop, List.length_cons] at hlength
        have hleft : (runs.take (runs.length / 2)).length < 2 ^ depth := by
          rw [List.length_take]
          omega
        change (ofRuns depth (runs.take _)).runs ++ r :: (ofRuns depth rest).runs = runs
        rw [ih hleft, ih (by omega : rest.length < 2 ^ depth), ← hdrop, hhalves]

/-- A tree of runs in order finds what a search from the first run on finds. -/
theorem image?_runs {t : CaseTree} (h : t.runs.Pairwise CaseRun.Before) (n : Nat) :
    CaseRun.image? t.runs n = t.image? n := by
  induction t with
  | tip => rfl
  | node r left right ihleft ihright =>
      unfold runs at h ⊢
      obtain ⟨hleft, hright, hbefore⟩ := List.pairwise_append.mp h
      obtain ⟨hafter, hright⟩ := List.pairwise_cons.mp hright
      unfold image?
      by_cases hlow : n < r.source.first
      · rw [CaseRun.image?_append_of_lt hlow, ihleft hleft, Nat.blt_eq.mpr hlow]
        rfl
      have hpassed : ∀ s ∈ left.runs, s.source.first ≤ s.source.last ∧ s.source.last < n := by
        intro s hs
        obtain ⟨hrun, hend⟩ := hbefore s hs r List.mem_cons_self
        exact ⟨hrun, by omega⟩
      have hnotLow : Nat.blt n r.source.first = false := by
        rw [Bool.eq_false_iff, ne_eq, Nat.blt_eq]
        exact hlow
      rw [CaseRun.image?_append_of_gt hpassed, hnotLow, cond_false, CaseRun.image?, if_neg hlow]
      by_cases hhigh : r.source.last < n
      · have hcovers : r.source.covers n = false := by
          unfold CodeRun.covers
          rw [decide_eq_false (p := n ≤ r.source.last) (by omega), Bool.and_false, Bool.false_and]
        rw [hcovers, Nat.blt_eq.mpr hhigh, ihright hright]
        rfl
      · have hnotHigh : Nat.blt r.source.last n = false := by
          rw [Bool.eq_false_iff, ne_eq, Nat.blt_eq]
          exact hhigh
        have hcovers : r.source.covers n = ((n - r.source.first) % r.source.stride == 0) := by
          unfold CodeRun.covers
          rw [decide_eq_true (by omega : r.source.first ≤ n),
            decide_eq_true (by omega : n ≤ r.source.last), Bool.true_and, Bool.true_and]
        have hrest : CaseRun.image? right.runs n = none :=
          CaseRun.image?_of_lt fun s hs => by
            have := (hafter s hs).2
            omega
        rw [hcovers, hnotHigh, cond_false, hrest]
        cases (n - r.source.first) % r.source.stride == 0 <;> rfl

end CaseTree

/-! ## The tables -/

/-- The search tree of the upper-case table. -/
def upperTree : CaseTree := .ofRuns 8 upperRuns

/-- The search tree of the lower-case table. -/
def lowerTree : CaseTree := .ofRuns 8 lowerRuns

theorem pairwise_of_isChain {runs : List CaseRun} (h : runs.IsChain CaseRun.Before) :
    runs.Pairwise CaseRun.Before :=
  haveI : Trans CaseRun.Before CaseRun.Before CaseRun.Before := ⟨CaseRun.before_trans⟩
  List.isChain_iff_pairwise.mp h

set_option maxRecDepth 100000 in
theorem image?_upperRuns (n : Nat) : CaseRun.image? upperRuns n = upperTree.image? n := by
  have hruns : upperTree.runs = upperRuns := CaseTree.runs_ofRuns (by decide)
  have hordered : upperRuns.IsChain CaseRun.Before := by decide
  rw [← CaseTree.image?_runs (hruns.symm ▸ pairwise_of_isChain hordered), hruns]

set_option maxRecDepth 100000 in
theorem image?_lowerRuns (n : Nat) : CaseRun.image? lowerRuns n = lowerTree.image? n := by
  have hruns : lowerTree.runs = lowerRuns := CaseTree.runs_ofRuns (by decide)
  have hordered : lowerRuns.IsChain CaseRun.Before := by decide
  rw [← CaseTree.image?_runs (hruns.symm ▸ pairwise_of_isChain hordered), hruns]

/-! ## Checks of a table -/

/-- A check holds of `first` and of the `count` code points after it, a stride apart. -/
def checksEach (p : Nat → Bool) (first stride : Nat) : Nat → Bool
  | 0 => p first
  | count + 1 => p first && checksEach p (first + stride) stride count

/-- A check holds of every code point that runs map. -/
def checksRuns (p : Nat → Bool) (runs : List CaseRun) : Bool :=
  runs.all fun r => checksEach p r.source.first r.source.stride
    ((r.source.last - r.source.first) / r.source.stride)

theorem of_checksEach {p : Nat → Bool} {first stride count i : Nat}
    (h : checksEach p first stride count = true) (hi : i ≤ count) :
    p (first + i * stride) = true := by
  induction count generalizing first i with
  | zero =>
      obtain rfl := Nat.le_zero.mp hi
      rw [Nat.zero_mul, Nat.add_zero]
      exact h
  | succ count ih =>
      obtain ⟨hfirst, hrest⟩ := Bool.and_eq_true_iff.mp h
      cases i with
      | zero =>
          rw [Nat.zero_mul, Nat.add_zero]
          exact hfirst
      | succ i =>
          rw [Nat.succ_mul, Nat.add_comm (i * stride), ← Nat.add_assoc]
          exact ih hrest (Nat.le_of_succ_le_succ hi)

theorem of_checksRuns {p : Nat → Bool} {runs : List CaseRun} (h : checksRuns p runs = true)
    {n m : Nat} (himage : CaseRun.image? runs n = some m) : p n = true := by
  obtain ⟨r, hr, hcovers⟩ := CaseRun.exists_covers himage
  have heach := List.all_eq_true.mp h r hr
  unfold CodeRun.covers at hcovers
  simp only [Bool.and_eq_true, decide_eq_true_eq, beq_iff_eq] at hcovers
  obtain ⟨⟨hfirst, hlast⟩, hstride⟩ := hcovers
  have hn : r.source.first + (n - r.source.first) / r.source.stride * r.source.stride = n := by
    rw [Nat.div_mul_cancel (Nat.dvd_of_mod_eq_zero hstride)]
    omega
  have hcount : (n - r.source.first) / r.source.stride ≤
      (r.source.last - r.source.first) / r.source.stride :=
    Nat.div_le_div_right (by omega)
  exact hn ▸ of_checksEach heach hcount

/-! ## Code points -/

/-- The number is a code point of a character. -/
def isCode (n : Nat) : Bool := Nat.blt n 0xD800 || (Nat.blt 0xDFFF n && Nat.blt n 0x110000)

/-- The code points of an image under a case table. -/
def caseCodes (tree : CaseTree) (expansions : List (Nat × List Nat)) (n : Nat) : List Nat :=
  match tree.image? n with
  | some m => [m]
  | none => (expansions.lookup n).getD [n]

/-- The code points of an upper-case form. -/
def upperCodes : Nat → List Nat := caseCodes upperTree upperExpansions

/-- The code points of a lower-case form. -/
def lowerCodes : Nat → List Nat := caseCodes lowerTree lowerExpansions

/-- The code points of a folded character. -/
def foldedCodes (n : Nat) : List Nat := (lowerCodes n).flatMap upperCodes

theorem toNat_ofNat {n : Nat} (h : isCode n = true) : (Char.ofNat n).toNat = n := by
  have hvalid : n.isValidChar := by
    unfold isCode at h
    simp only [Bool.or_eq_true, Bool.and_eq_true, Nat.blt_eq] at h
    unfold Nat.isValidChar
    omega
  unfold Char.ofNat
  rw [dif_pos hvalid]
  rfl

theorem isCode_toNat (c : Char) : isCode c.toNat = true := by
  have hvalid : c.toNat.isValidChar := c.valid
  unfold isCode
  unfold Nat.isValidChar at hvalid
  simp only [Bool.or_eq_true, Bool.and_eq_true, Nat.blt_eq]
  omega

theorem caseImage_eq {runs : List CaseRun} {tree : CaseTree} {expansions : List (Nat × List Nat)}
    (h : ∀ n, CaseRun.image? runs n = tree.image? n) (c : Char) :
    caseImage expansions runs c = (caseCodes tree expansions c.toNat).map Char.ofNat := by
  unfold caseImage caseCodes
  rw [h]
  cases tree.image? c.toNat with
  | some m => rfl
  | none =>
      cases expansions.lookup c.toNat with
      | some ns => rfl
      | none => exact congrArg (fun d => [d]) (Char.ofNat_toNat c).symm

theorem upperChars_eq (c : Char) : upperChars c = (upperCodes c.toNat).map Char.ofNat :=
  caseImage_eq image?_upperRuns c

theorem lowerChars_eq (c : Char) : lowerChars c = (lowerCodes c.toNat).map Char.ofNat :=
  caseImage_eq image?_lowerRuns c

/-! ## Checks of the tables -/

/-- What holds of all that a table maps, and of what no table maps, holds of everything. -/
theorem of_mapped {runs : List CaseRun} {tree : CaseTree} {expansions : List (Nat × List Nat)}
    {p : Nat → Bool} (himage : ∀ n, CaseRun.image? runs n = tree.image? n)
    (hruns : checksRuns p runs = true) (hexpansions : expansions.all (fun e => p e.1) = true)
    {n : Nat} (hself : caseCodes tree expansions n = [n] → p n = true) : p n = true := by
  cases hn : tree.image? n with
  | some m => exact of_checksRuns hruns ((himage n).trans hn)
  | none =>
      cases hlookup : expansions.lookup n with
      | some ns =>
          obtain ⟨before, after, happend, -⟩ := List.lookup_eq_some_iff.mp hlookup
          exact List.all_eq_true.mp hexpansions (n, ns)
            (happend ▸ List.mem_append_right _ List.mem_cons_self)
      | none =>
          refine hself ?_
          unfold caseCodes
          rw [hn, hlookup]
          rfl

/-- The lower-case form of a code point is in lower case. -/
def lowersOnce (n : Nat) : Bool := (lowerCodes n).all fun m => isCode m && lowerCodes m == [m]

/-- The upper-case form of a code point folds as the code point does. -/
def foldsBack (n : Nat) : Bool :=
  (upperCodes n).all isCode && (upperCodes n).flatMap foldedCodes == foldedCodes n

theorem lowersOnce_of_isCode {n : Nat} (h : isCode n = true) : lowersOnce n = true := by
  have hruns : checksRuns lowersOnce lowerRuns = true := by decide +kernel
  have hexpansions : lowerExpansions.all (fun e => lowersOnce e.1) = true := by decide +kernel
  refine of_mapped image?_lowerRuns hruns hexpansions fun hself => ?_
  have hself : lowerCodes n = [n] := hself
  unfold lowersOnce
  rw [hself, List.all_cons, List.all_nil, h, hself, beq_self_eq_true]
  rfl

theorem foldsBack_of_isCode {n : Nat} (h : isCode n = true) : foldsBack n = true := by
  have hruns : checksRuns foldsBack upperRuns = true := by decide +kernel
  have hexpansions : upperExpansions.all (fun e => foldsBack e.1) = true := by decide +kernel
  refine of_mapped image?_upperRuns hruns hexpansions fun hself => ?_
  have hself : upperCodes n = [n] := hself
  unfold foldsBack
  rw [hself, List.all_cons, List.all_nil, h, List.flatMap_singleton, beq_self_eq_true]
  rfl

/-! ## Characters -/

/-- The upper-case form of what a character is lower-cased to. -/
def folded (c : Char) : List Char := (lowerChars c).flatMap upperChars

/-- A lower-case form is in lower case. -/
theorem lowerChars_of_mem {c d : Char} (h : d ∈ lowerChars c) : lowerChars d = [d] := by
  rw [lowerChars_eq] at h
  obtain ⟨m, hm, rfl⟩ := List.mem_map.mp h
  have hcheck := List.all_eq_true.mp (lowersOnce_of_isCode (isCode_toNat c)) m hm
  obtain ⟨hcode, hself⟩ := Bool.and_eq_true_iff.mp hcheck
  rw [lowerChars_eq, toNat_ofNat hcode, eq_of_beq hself]
  rfl

/-- Lower-casing has no effect on what a character folds to. -/
theorem folded_lowerChars (c : Char) : (lowerChars c).flatMap folded = folded c := by
  unfold folded
  refine List.flatMap_congr fun d hd => ?_
  rw [lowerChars_of_mem hd, List.flatMap_singleton]

theorem isCode_of_mem_lowerCodes {n m : Nat} (h : isCode n = true) (hm : m ∈ lowerCodes n) :
    isCode m = true :=
  (Bool.and_eq_true_iff.mp (List.all_eq_true.mp (lowersOnce_of_isCode h) m hm)).1

theorem folded_ofNat {n : Nat} (h : isCode n = true) :
    folded (Char.ofNat n) = (foldedCodes n).map Char.ofNat := by
  unfold folded foldedCodes
  rw [lowerChars_eq, toNat_ofNat h, List.flatMap_map, List.map_flatMap]
  refine List.flatMap_congr fun m hm => ?_
  rw [upperChars_eq, toNat_ofNat (isCode_of_mem_lowerCodes h hm)]

/-- Upper-casing has no effect on what a character folds to. -/
theorem folded_upperChars (c : Char) : (upperChars c).flatMap folded = folded c := by
  obtain ⟨hcodes, hback⟩ := Bool.and_eq_true_iff.mp (foldsBack_of_isCode (isCode_toNat c))
  rw [← Char.ofNat_toNat c, folded_ofNat (isCode_toNat c), ← eq_of_beq hback, upperChars_eq,
    toNat_ofNat (isCode_toNat c), List.flatMap_map, List.map_flatMap]
  exact List.flatMap_congr fun m hm => folded_ofNat (List.all_eq_true.mp hcodes m hm)

theorem upperChars_ne_nil (c : Char) : upperChars c ≠ [] := by
  have hexpansions : ∀ e ∈ upperExpansions, e.2 ≠ [] := by decide
  unfold upperChars caseImage
  cases CaseRun.image? upperRuns c.toNat with
  | some m => exact List.cons_ne_nil _ _
  | none =>
      cases hlookup : upperExpansions.lookup c.toNat with
      | some ns =>
          obtain ⟨before, after, happend, -⟩ := List.lookup_eq_some_iff.mp hlookup
          have hgiven := hexpansions (c.toNat, ns)
            (happend ▸ List.mem_append_right _ List.mem_cons_self)
          exact fun hnil => hgiven (List.map_eq_nil_iff.mp hnil)
      | none => exact List.cons_ne_nil _ _

/-! ## Texts -/

/-- The capital sigma and both of its lower-case forms fold to one character. -/
theorem folded_sigma : folded 'Σ' = ['Σ'] ∧ folded 'σ' = ['Σ'] ∧ folded 'ς' = ['Σ'] ∧
    upperChars 'σ' = ['Σ'] ∧ upperChars 'ς' = ['Σ'] := by
  decide

/-- Upper-casing a lower-cased text folds each of its characters. -/
theorem upper_lowerFrom (before cs : List Char) :
    upper (lowerFrom before cs) = cs.flatMap folded := by
  induction cs generalizing before with
  | nil => rfl
  | cons c rest ih =>
      unfold lowerFrom
      unfold upper at ih ⊢
      rw [List.flatMap_append, ih, List.flatMap_cons]
      congr 1
      split
      · rename_i hsigma
        obtain ⟨hfolded, -, -, hmiddle, hfinal⟩ := folded_sigma
        rw [eq_of_beq hsigma, hfolded, List.flatMap_singleton]
        unfold lowerSigma
        split
        · exact hfinal
        · exact hmiddle
      · rfl

theorem upper_lower (cs : List Char) : upper (lower cs) = cs.flatMap folded := upper_lowerFrom [] cs

/-- Lower-casing a text has no effect on what it folds to. -/
theorem folded_lowerFrom (before cs : List Char) :
    (lowerFrom before cs).flatMap folded = cs.flatMap folded := by
  induction cs generalizing before with
  | nil => rfl
  | cons c rest ih =>
      unfold lowerFrom
      rw [List.flatMap_append, ih, List.flatMap_cons]
      congr 1
      split
      · rename_i hsigma
        obtain ⟨hfolded, hmiddle, hfinal, -⟩ := folded_sigma
        rw [eq_of_beq hsigma, hfolded, List.flatMap_singleton]
        unfold lowerSigma
        split
        · exact hfinal
        · exact hmiddle
      · exact folded_lowerChars c

/-- Capitalising a word has no effect on what it folds to. -/
theorem folded_capitalize (cs : List Char) :
    (capitalize cs).flatMap folded = cs.flatMap folded := by
  cases cs with
  | nil => rfl
  | cons c rest =>
      unfold capitalize lower
      rw [List.flatMap_append, folded_upperChars, folded_lowerFrom, List.flatMap_cons]

/-! ## Characters of ASCII -/

/-- A text in ASCII. -/
def isAscii (s : String) : Bool := s.toList.all fun c => decide (c.toNat < 128)

set_option maxRecDepth 100000 in
/-- The lower-case form of a character of ASCII is that of what it folds to. -/
theorem lowerChars_ascii {c : Char} (h : c.toNat < 128) :
    lowerChars c = (folded c).flatMap lowerChars := by
  have hcodes : ∀ n ∈ List.range 128,
      lowerCodes n = (foldedCodes n).flatMap lowerCodes ∧ (foldedCodes n).all isCode = true := by
    decide
  obtain ⟨hlower, hvalid⟩ := hcodes c.toNat (List.mem_range.mpr h)
  rw [← Char.ofNat_toNat c, folded_ofNat (isCode_toNat c), lowerChars_eq,
    toNat_ofNat (isCode_toNat c), hlower, List.flatMap_map, List.map_flatMap]
  refine List.flatMap_congr fun m hm => ?_
  rw [lowerChars_eq, toNat_ofNat (List.all_eq_true.mp hvalid m hm)]

/-- A text in ASCII is lower-cased to what its folded form is lower-cased to. -/
theorem lowerFrom_ascii {before cs : List Char} (h : ∀ c ∈ cs, c.toNat < 128) :
    lowerFrom before cs = (cs.flatMap folded).flatMap lowerChars := by
  induction cs generalizing before with
  | nil => rfl
  | cons c rest ih =>
      have hc := h c List.mem_cons_self
      have hsigma : (c == 'Σ') = false := by
        rw [beq_eq_false_iff_ne]
        rintro rfl
        exact absurd hc (by decide)
      unfold lowerFrom
      rw [hsigma, ih fun d hd => h d (List.mem_cons_of_mem _ hd), List.flatMap_cons,
        List.flatMap_append, ← lowerChars_ascii hc]
      rfl

end FormScaffold.Text
