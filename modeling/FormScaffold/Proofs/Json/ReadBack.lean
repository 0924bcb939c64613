import FormScaffold.Proofs.Json.Scalars
import Mathlib.Tactic.Ring

/-!
# Values that are read back from their text

A value without doubles whose nesting the reader bears is read back from its compact text.
-/

namespace FormScaffold.Json

open FormScaffold.Decimal

/-- The number is an integer of the 64-bit ranges. -/
def Number.isWord : Number → Bool
  | .int n => decide (-2 ^ 63 ≤ n) && decide (n < 2 ^ 64)
  | .float _ => false

namespace Value

mutual

/-- All numbers are integers of the 64-bit ranges, and the nesting stays below a depth. -/
def isPlain (depth : Nat) : Value → Bool
  | .null | .bool _ | .string _ => true
  | .number n => n.isWord
  | .array items => decide (1 < depth) && arePlain (depth - 1) items
  | .object members => decide (1 < depth) && memberArePlain (depth - 1) members

/-- All items are plain. -/
def arePlain (depth : Nat) : List Value → Bool
  | [] => true
  | v :: vs => v.isPlain depth && arePlain depth vs

/-- The values of all members are plain. -/
def memberArePlain (depth : Nat) : List (String × Value) → Bool
  | [] => true
  | (_, v) :: ms => v.isPlain depth && memberArePlain depth ms

end

theorem arePlain_iff {depth : Nat} {vs : List Value} :
    arePlain depth vs = true ↔ ∀ v ∈ vs, v.isPlain depth = true := by
  induction vs with
  | nil => simp [arePlain]
  | cons v vs ih => simp [arePlain, ih]

theorem memberArePlain_iff {depth : Nat} {ms : List (String × Value)} :
    memberArePlain depth ms = true ↔ ∀ m ∈ ms, m.2.isPlain depth = true := by
  induction ms with
  | nil => simp [memberArePlain]
  | cons m ms ih =>
      obtain ⟨k, v⟩ := m
      simp only [memberArePlain, Bool.and_eq_true, ih, List.forall_mem_cons]

theorem isPlain_array {depth : Nat} {items : List Value} (hdepth : 1 < depth)
    (h : ∀ v ∈ items, v.isPlain (depth - 1) = true) : (array items).isPlain depth = true := by
  rw [isPlain, Bool.and_eq_true, decide_eq_true_eq, arePlain_iff]
  exact ⟨hdepth, h⟩

theorem isPlain_object {depth : Nat} {members : List (String × Value)} (hdepth : 1 < depth)
    (h : ∀ m ∈ members, m.2.isPlain (depth - 1) = true) :
    (object members).isPlain depth = true := by
  rw [isPlain, Bool.and_eq_true, decide_eq_true_eq, memberArePlain_iff]
  exact ⟨hdepth, h⟩

@[simp] theorem isPlain_string (depth : Nat) (s : String) : (string s).isPlain depth = true := by
  rw [isPlain]

@[simp] theorem isPlain_bool (depth : Nat) (b : Bool) : (bool b).isPlain depth = true := by
  rw [isPlain]

theorem isPlain_ofNat {depth n : Nat} (h : n < 2 ^ 64) : (ofNat n).isPlain depth = true := by
  have hlow : (-2 ^ 63 : Int) ≤ n := by omega
  have hhigh : (n : Int) < 2 ^ 64 := by omega
  rw [ofNat, isPlain, Number.isWord]
  simp only [hlow, hhigh, decide_true, Bool.and_true]

theorem isPlain_ofOption {α : Type} {depth : Nat} {f : α → Value} {o : Option α}
    (h : ∀ a, o = some a → (f a).isPlain depth = true) : (ofOption f o).isPlain depth = true := by
  cases o with
  | none => rw [ofOption, isPlain]
  | some a => exact h a rfl

theorem isPlain_ofStringMap {depth : Nat} (hdepth : 1 < depth) (m : Keyed String) :
    (ofStringMap m).isPlain depth = true := by
  refine isPlain_object hdepth fun p hp => ?_
  obtain ⟨q, -, rfl⟩ := List.mem_map.mp hp
  exact isPlain_string _ q.2

end Value

/-! ## Single steps of the reader -/

-- The equations of the readers are made here, once for all lemmas that unfold one of them.
attribute [local simp] readValue readItems readMembers

theorem skipSpace_cons {c : Char} (h : isSpace c = false) (cs : List Char) :
    skipSpace (c :: cs) = c :: cs := by
  unfold skipSpace
  rw [List.dropWhile_cons_of_neg]
  simp [h]

theorem readValue_array {fuel depth : Nat} {c : Char} {cs : List Char} (hdepth : 1 < depth)
    (hspace : isSpace c = false) (hclose : c ≠ ']') :
    readValue (fuel + 1) depth ('[' :: c :: cs) = readItems fuel (depth - 1) [] (c :: cs) := by
  have hdeep : ¬ depth ≤ 1 := Nat.not_le.mpr hdepth
  rw [readValue, skipSpace_cons (by decide)]
  simp only [hdeep, if_false, skipSpace_cons hspace]
  split
  · rename_i heq
    cases heq
    exact absurd rfl hclose
  · rfl

theorem readValue_object {fuel depth : Nat} {c : Char} {cs : List Char} (hdepth : 1 < depth)
    (hspace : isSpace c = false) (hclose : c ≠ '\x7d') :
    readValue (fuel + 1) depth ('\x7b' :: c :: cs) =
      readMembers fuel (depth - 1) [] (c :: cs) := by
  have hdeep : ¬ depth ≤ 1 := Nat.not_le.mpr hdepth
  rw [readValue, skipSpace_cons (by decide)]
  simp only [hdeep, if_false, skipSpace_cons hspace]
  split
  · rename_i heq
    cases heq
    exact absurd rfl hclose
  · rfl

theorem readValue_noItems {fuel depth : Nat} (hdepth : 1 < depth) (rest : List Char) :
    readValue (fuel + 1) depth ('[' :: ']' :: rest) = .ok (.array [], rest) := by
  have hdeep : ¬ depth ≤ 1 := Nat.not_le.mpr hdepth
  rw [readValue, skipSpace_cons (by decide)]
  simp only [hdeep, if_false, skipSpace_cons (show isSpace ']' = false by decide)]

theorem readValue_noMembers {fuel depth : Nat} (hdepth : 1 < depth) (rest : List Char) :
    readValue (fuel + 1) depth ('\x7b' :: '\x7d' :: rest) = .ok (.object [], rest) := by
  have hdeep : ¬ depth ≤ 1 := Nat.not_le.mpr hdepth
  rw [readValue, skipSpace_cons (by decide)]
  simp only [hdeep, if_false, skipSpace_cons (show isSpace '\x7d' = false by decide)]

theorem readItems_last {fuel depth : Nat} {acc : List Value} {cs rest : List Char} {v : Value}
    (h : readValue fuel depth cs = .ok (v, ']' :: rest)) :
    readItems (fuel + 1) depth acc cs = .ok (.array (v :: acc).reverse, rest) := by
  rw [readItems, h]
  rfl

theorem readItems_more {fuel depth : Nat} {acc : List Value} {cs rest : List Char} {v : Value}
    (h : readValue fuel depth cs = .ok (v, ',' :: rest)) :
    readItems (fuel + 1) depth acc cs = readItems fuel depth (v :: acc) rest := by
  rw [readItems, h]
  rfl

theorem readString_key (k : String) (rest : List Char) :
    readString (k.toList.flatMap escapeChar ++ ['"'] ++ rest) = .ok (k, rest) := by
  rw [List.append_assoc]
  exact readString_quoted k rest

theorem readMembers_last {fuel depth : Nat} {acc : List (String × Value)} {k : String}
    {cs rest : List Char} {v : Value} (h : readValue fuel depth cs = .ok (v, '\x7d' :: rest)) :
    readMembers (fuel + 1) depth acc (quoted k ++ ':' :: cs) =
      .ok (.object ((k, v) :: acc).reverse, rest) := by
  rw [readMembers, quoted, List.cons_append, skipSpace_cons (by decide)]
  simp only [readString_key, skipSpace_cons (show isSpace ':' = false by decide), h]
  rfl

theorem readMembers_more {fuel depth : Nat} {acc : List (String × Value)} {k : String}
    {cs rest : List Char} {v : Value} (h : readValue fuel depth cs = .ok (v, ',' :: rest)) :
    readMembers (fuel + 1) depth acc (quoted k ++ ':' :: cs) =
      readMembers fuel depth ((k, v) :: acc) rest := by
  rw [readMembers, quoted, List.cons_append, skipSpace_cons (by decide)]
  simp only [readString_key, skipSpace_cons (show isSpace ':' = false by decide), h]
  rfl

theorem readValue_string (fuel depth : Nat) (s : String) (rest : List Char) :
    readValue (fuel + 1) depth (quoted s ++ rest) = .ok (.string s, rest) := by
  rw [readValue, quoted, List.cons_append, skipSpace_cons (by decide)]
  simp only [readString_key]

theorem ne_of_isDigit {c d : Char} (h : c.isDigit = true) (hd : d.isDigit = false) : c ≠ d := by
  rintro rfl
  rw [h] at hd
  cases hd

theorem isSpace_of_isDigit {c : Char} (h : c.isDigit = true) : isSpace c = false := by
  unfold isSpace
  simp only [Bool.or_eq_false_iff, beq_eq_false_iff_ne]
  exact ⟨⟨⟨ne_of_isDigit h (by decide), ne_of_isDigit h (by decide)⟩,
    ne_of_isDigit h (by decide)⟩, ne_of_isDigit h (by decide)⟩

theorem readValue_digit {fuel depth : Nat} {c : Char} {cs : List Char} (h : c.isDigit = true) :
    readValue (fuel + 1) depth (c :: cs) =
      match readUnsigned false (c :: cs) with
      | .ok (n, rest) => .ok (.number n, rest)
      | .error e => .error e := by
  have hdigit : (digit? c).isSome = true := by
    rw [digit?_of_isDigit h]
    rfl
  rw [readValue, skipSpace_cons (isSpace_of_isDigit h)]
  -- No other branch of the reader starts with a digit.
  split
  all_goals rename_i heq; cases heq
  · exact absurd rfl (ne_of_isDigit h (by decide))
  · exact absurd rfl (ne_of_isDigit h (by decide))
  · exact absurd rfl (ne_of_isDigit h (by decide))
  · exact absurd rfl (ne_of_isDigit h (by decide))
  · exact if_pos hdigit

theorem digitsOf_cons (n : Nat) : ∃ c ds, digitsOf n = c :: ds ∧ c.isDigit = true := by
  cases hdigits : digitsOf n with
  | nil => exact absurd hdigits Nat.toDigits_ne_nil
  | cons c ds =>
      refine ⟨c, ds, rfl, Nat.isDigit_of_mem_toDigits (b := 10) (n := n) (by decide) (by decide) ?_⟩
      change c ∈ digitsOf n
      rw [hdigits]
      exact List.mem_cons_self

/-- An integer is read back where its digits end. -/
theorem readValue_integer {fuel depth : Nat} {n : Int} (h : (Number.int n).isWord = true)
    {rest : List Char} (hrest : NumberEnds rest) :
    readValue (fuel + 1) depth (Binary64.integerText n ++ rest) = .ok (.number (.int n), rest) := by
  unfold Number.isWord at h
  simp only [Bool.and_eq_true, decide_eq_true_eq] at h
  obtain ⟨hlow, hhigh⟩ := h
  cases n with
  | ofNat n =>
      have hlimit : n < significandLimit := by
        have hword : (n : Int) < 2 ^ 64 := hhigh
        unfold significandLimit
        rw [Nat.pow_eq]
        omega
      have hread := readUnsigned_digitsOf false hlimit hrest
      obtain ⟨c, ds, hdigits, hfirst⟩ := digitsOf_cons n
      rw [hdigits] at hread
      change readValue (fuel + 1) depth (digitsOf n ++ rest) = _
      rw [hdigits, List.cons_append, readValue_digit hfirst, ← List.cons_append, hread]
      rfl
  | negSucc n =>
      have hlimit : n + 1 < significandLimit := by
        unfold significandLimit
        rw [Nat.pow_eq]
        omega
      have hread := readUnsigned_digitsOf true hlimit hrest
      -- A negative number that fits stays an integer.
      have hnumber : integerOf true (n + 1) = .int (Int.negSucc n) := by
        have hsmall : ¬ Nat.pow 2 63 < n + 1 := by
          rw [Nat.pow_eq]
          omega
        have htest : (n + 1 == 0 || decide (Nat.pow 2 63 < n + 1)) = false :=
          Bool.or_eq_false_iff.mpr ⟨rfl, decide_eq_false hsmall⟩
        unfold integerOf
        rw [if_pos rfl, htest]
        rfl
      change readValue (fuel + 1) depth ('-' :: (digitsOf (n + 1) ++ rest)) = _
      rw [readValue, skipSpace_cons (by decide)]
      simp only [hread, hnumber]

/-! ## Whole values -/

/-- The text of a plain value starts with what neither is a blank nor closes a list. -/
theorem compact_starts {depth : Nat} {v : Value} (h : v.isPlain depth = true) :
    ∃ c cs, v.compact = c :: cs ∧ isSpace c = false ∧ c ≠ ']' := by
  cases v with
  | null => exact ⟨'n', ['u', 'l', 'l'], rfl, by decide, by decide⟩
  | bool b =>
      cases b with
      | false => exact ⟨'f', ['a', 'l', 's', 'e'], rfl, by decide, by decide⟩
      | true => exact ⟨'t', ['r', 'u', 'e'], rfl, by decide, by decide⟩
  | number n =>
      cases n with
      | int n =>
          cases n with
          | ofNat n =>
              obtain ⟨c, ds, hdigits, hfirst⟩ := digitsOf_cons n
              exact ⟨c, ds, hdigits, isSpace_of_isDigit hfirst, ne_of_isDigit hfirst (by decide)⟩
          | negSucc n => exact ⟨'-', digitsOf (n + 1), rfl, by decide, by decide⟩
      | float x => simp [Value.isPlain, Number.isWord] at h
  | string s => exact ⟨'"', s.toList.flatMap escapeChar ++ ['"'], rfl, by decide, by decide⟩
  | array items => exact ⟨'[', Value.compactItems items ++ [']'], rfl, by decide, by decide⟩
  | object members =>
      exact ⟨'\x7b', Value.compactMembers members ++ ['\x7d'], rfl, by decide, by decide⟩

theorem compactItems_starts {depth : Nat} {v : Value} {vs : List Value}
    (h : Value.arePlain depth (v :: vs) = true) :
    ∃ c cs, Value.compactItems (v :: vs) = c :: cs ∧ isSpace c = false ∧ c ≠ ']' := by
  rw [Value.arePlain, Bool.and_eq_true] at h
  obtain ⟨c, cs, hstart, hends⟩ := compact_starts h.1
  cases vs with
  | nil => exact ⟨c, cs, hstart, hends⟩
  | cons w vs =>
      refine ⟨c, cs ++ ',' :: Value.compactItems (w :: vs), ?_, hends⟩
      rw [Value.compactItems, hstart, List.cons_append]
      exact List.cons_ne_nil w vs

theorem compactMembers_starts (m : String × Value) (ms : List (String × Value)) :
    ∃ cs, Value.compactMembers (m :: ms) = '"' :: cs := by
  obtain ⟨k, v⟩ := m
  cases ms with
  | nil => exact ⟨_, rfl⟩
  | cons n ms =>
      rw [Value.compactMembers]
      · exact ⟨_, rfl⟩
      · exact List.cons_ne_nil n ms

theorem numberEnds_close (rest : List Char) :
    NumberEnds (',' :: rest) ∧ NumberEnds (']' :: rest) ∧ NumberEnds ('\x7d' :: rest) := by
  refine ⟨?_, ?_, ?_⟩ <;>
    exact numberEnds_cons (by decide) (by decide) (by decide) (by decide) rest

/-- With such fuel, plain values are read back from the start of a text. -/
def ReadsValues (fuel : Nat) : Prop :=
  ∀ (depth : Nat) (v : Value) (rest : List Char), v.isPlain depth = true →
    v.compact.length < fuel → NumberEnds rest →
      readValue fuel depth (v.compact ++ rest) = .ok (v, rest)

/-- With such fuel, plain items are read back up to their closing bracket. -/
def ReadsItems (fuel : Nat) : Prop :=
  ∀ (depth : Nat) (v : Value) (vs acc : List Value) (rest : List Char),
    Value.arePlain depth (v :: vs) = true → (Value.compactItems (v :: vs)).length + 1 < fuel →
      readItems fuel depth acc (Value.compactItems (v :: vs) ++ ']' :: rest) =
        .ok (.array (acc.reverse ++ v :: vs), rest)

/-- With such fuel, plain members are read back up to their closing brace. -/
def ReadsMembers (fuel : Nat) : Prop :=
  ∀ (depth : Nat) (m : String × Value) (ms acc : List (String × Value)) (rest : List Char),
    Value.memberArePlain depth (m :: ms) = true →
    (Value.compactMembers (m :: ms)).length + 1 < fuel →
      readMembers fuel depth acc (Value.compactMembers (m :: ms) ++ '\x7d' :: rest) =
        .ok (.object (acc.reverse ++ m :: ms), rest)

theorem readsValues_succ {fuel : Nat} (hitems : ReadsItems fuel) (hmembers : ReadsMembers fuel) :
    ReadsValues (fuel + 1) := by
  intro depth v rest hplain hfuel hrest
  cases v with
  | null => rfl
  | bool b => cases b <;> rfl
  | number n =>
      cases n with
      | int n => exact readValue_integer hplain hrest
      | float x => cases hplain
  | string s => exact readValue_string fuel depth s rest
  | array items =>
      rw [Value.isPlain, Bool.and_eq_true, decide_eq_true_eq] at hplain
      obtain ⟨hdepth, hplain⟩ := hplain
      cases items with
      | nil => exact readValue_noItems hdepth rest
      | cons v vs =>
          simp only [Value.compact, List.length_cons, List.length_append, List.length_nil] at hfuel
          obtain ⟨c, cs, hstart, hspace, hclose⟩ := compactItems_starts hplain
          have hread := hitems (depth - 1) v vs [] rest hplain (by omega)
          rw [hstart, List.cons_append] at hread
          rw [Value.compact, hstart]
          simp only [List.cons_append, List.append_assoc, List.nil_append]
          rw [readValue_array hdepth hspace hclose, hread]
          rfl
  | object members =>
      rw [Value.isPlain, Bool.and_eq_true, decide_eq_true_eq] at hplain
      obtain ⟨hdepth, hplain⟩ := hplain
      cases members with
      | nil => exact readValue_noMembers hdepth rest
      | cons m ms =>
          simp only [Value.compact, List.length_cons, List.length_append, List.length_nil] at hfuel
          obtain ⟨cs, hstart⟩ := compactMembers_starts m ms
          have hread := hmembers (depth - 1) m ms [] rest hplain (by omega)
          rw [hstart, List.cons_append] at hread
          rw [Value.compact, hstart]
          simp only [List.cons_append, List.append_assoc, List.nil_append]
          rw [readValue_object hdepth (by decide) (by decide), hread]
          rfl

theorem readsItems_succ {fuel : Nat} (hvalues : ReadsValues fuel) (hitems : ReadsItems fuel) :
    ReadsItems (fuel + 1) := by
  intro depth v vs acc rest hplain hfuel
  rw [Value.arePlain, Bool.and_eq_true] at hplain
  obtain ⟨hfirst, hothers⟩ := hplain
  obtain ⟨hcomma, hbracket, -⟩ := numberEnds_close rest
  cases vs with
  | nil =>
      rw [Value.compactItems] at hfuel ⊢
      have hvalue := hvalues depth v (']' :: rest) hfirst (by omega) hbracket
      rw [readItems_last hvalue, List.reverse_cons]
  | cons w vs =>
      simp only [Value.compactItems, List.length_append, List.length_cons] at hfuel
      have hvalue := hvalues depth v (',' :: (Value.compactItems (w :: vs) ++ ']' :: rest)) hfirst
        (by omega) (numberEnds_close _).1
      have hrest := hitems depth w vs (v :: acc) rest hothers (by omega)
      rw [Value.compactItems, List.append_assoc, List.cons_append, readItems_more hvalue, hrest]
      · simp
      · exact List.cons_ne_nil w vs

theorem readsMembers_succ {fuel : Nat} (hvalues : ReadsValues fuel)
    (hmembers : ReadsMembers fuel) : ReadsMembers (fuel + 1) := by
  intro depth m ms acc rest hplain hfuel
  obtain ⟨k, v⟩ := m
  rw [Value.memberArePlain, Bool.and_eq_true] at hplain
  obtain ⟨hfirst, hothers⟩ := hplain
  obtain ⟨hcomma, -, hbrace⟩ := numberEnds_close rest
  cases ms with
  | nil =>
      simp only [Value.compactMembers, List.length_append, List.length_cons] at hfuel
      have hvalue := hvalues depth v ('\x7d' :: rest) hfirst (by omega) hbrace
      rw [Value.compactMembers, List.append_assoc, List.cons_append, readMembers_last hvalue,
        List.reverse_cons]
  | cons n ms =>
      simp only [Value.compactMembers, List.length_append, List.length_cons] at hfuel
      have hvalue := hvalues depth v
        (',' :: (Value.compactMembers (n :: ms) ++ '\x7d' :: rest)) hfirst (by omega)
        (numberEnds_close _).1
      have hrest := hmembers depth n ms ((k, v) :: acc) rest hothers (by omega)
      rw [Value.compactMembers, List.append_assoc, List.cons_append, List.append_assoc,
        List.cons_append, readMembers_more hvalue, hrest]
      · simp
      · exact List.cons_ne_nil n ms

/-- All readers read back what was written, by induction on their fuel. -/
theorem reads_back (fuel : Nat) : ReadsValues fuel ∧ ReadsItems fuel ∧ ReadsMembers fuel := by
  induction fuel with
  | zero =>
      refine ⟨fun _ _ _ _ h => ?_, fun _ _ _ _ _ _ h => ?_, fun _ _ _ _ _ _ h => ?_⟩ <;> cases h
  | succ fuel ih =>
      obtain ⟨hvalues, hitems, hmembers⟩ := ih
      exact ⟨readsValues_succ hitems hmembers, readsItems_succ hvalues hitems,
        readsMembers_succ hvalues hmembers⟩

/-- A plain value is read back from its text. -/
theorem read_text {v : Value} (h : v.isPlain depthLimit = true) : read v.text = .ok v := by
  have hvalue := (reads_back (2 * v.compact.length + 2)).1 depthLimit v [] h (by omega)
    numberEnds_nil
  unfold read Value.text
  rw [List.append_nil] at hvalue
  rw [String.toList_ofList]
  simp only [hvalue]
  rfl

end FormScaffold.Json
