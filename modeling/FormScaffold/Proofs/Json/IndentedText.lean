import FormScaffold.Proofs.Json.ReadBack

/-!
# Values that are read back from their indented text

The reader takes blanks before every token, so a plain value is read back from its indented text as
it is from its compact text.  The induction is on the fuel, as for the compact text; what is neither
a list nor an object with entries is written in the same way in both.
-/

namespace FormScaffold.Json

/-! ## Blanks -/

/-- All characters are blanks. -/
def IsBlank (ws : List Char) : Prop := ∀ c ∈ ws, isSpace c = true

theorem isBlank_lineBreak (level : Nat) : IsBlank (Value.lineBreak level) := by
  intro c hc
  rcases List.mem_cons.mp hc with rfl | hc
  · decide
  · rw [List.eq_of_mem_replicate hc]
    decide

theorem skipSpace_append {ws : List Char} (h : IsBlank ws) (cs : List Char) :
    skipSpace (ws ++ cs) = skipSpace cs :=
  List.dropWhile_append_of_pos h

theorem skipSpace_blank {ws : List Char} (h : IsBlank ws) {c : Char} (hc : isSpace c = false)
    (cs : List Char) : skipSpace (ws ++ c :: cs) = c :: cs := by
  rw [skipSpace_append h, skipSpace_cons hc]

theorem numberEnds_blank {ws : List Char} (h : IsBlank ws) {cs : List Char} (hcs : NumberEnds cs) :
    NumberEnds (ws ++ cs) := by
  cases ws with
  | nil => exact hcs
  | cons c ws =>
      have hspace := h c List.mem_cons_self
      unfold isSpace at hspace
      simp only [Bool.or_eq_true, beq_iff_eq] at hspace
      obtain ((rfl | rfl) | rfl) | rfl := hspace <;>
        exact numberEnds_cons (by decide) (by decide) (by decide) (by decide) _

section

-- The equations of the readers are made here, once for the lemmas that unfold one of them.
attribute [local simp] readValue readItems readMembers

variable {fuel depth : Nat} {ws : List Char} (hws : IsBlank ws)
include hws

theorem readValue_blank (cs : List Char) :
    readValue fuel depth (ws ++ cs) = readValue fuel depth cs := by
  cases fuel with
  | zero => rw [readValue, readValue]
  | succ fuel => rw [readValue, readValue, skipSpace_append hws]

theorem readItems_blank (acc : List Value) (cs : List Char) :
    readItems fuel depth acc (ws ++ cs) = readItems fuel depth acc cs := by
  cases fuel with
  | zero => rw [readItems, readItems]
  | succ fuel => rw [readItems, readItems, readValue_blank hws]

theorem readMembers_blank (acc : List (String × Value)) (cs : List Char) :
    readMembers fuel depth acc (ws ++ cs) = readMembers fuel depth acc cs := by
  cases fuel with
  | zero => rw [readMembers, readMembers]
  | succ fuel => rw [readMembers, readMembers, skipSpace_append hws]

theorem readValue_arrayBlank {c : Char} {cs : List Char} (hdepth : 1 < depth)
    (hspace : isSpace c = false) (hclose : c ≠ ']') :
    readValue (fuel + 1) depth ('[' :: (ws ++ c :: cs)) =
      readItems fuel (depth - 1) [] (ws ++ c :: cs) := by
  rw [readItems_blank hws, ← readValue_array hdepth hspace hclose, readValue, readValue,
    skipSpace_cons (by decide), skipSpace_cons (by decide)]
  simp only [skipSpace_blank hws hspace, skipSpace_cons hspace]

theorem readValue_objectBlank {c : Char} {cs : List Char} (hdepth : 1 < depth)
    (hspace : isSpace c = false) (hclose : c ≠ '\x7d') :
    readValue (fuel + 1) depth ('\x7b' :: (ws ++ c :: cs)) =
      readMembers fuel (depth - 1) [] (ws ++ c :: cs) := by
  rw [readMembers_blank hws, ← readValue_object hdepth hspace hclose, readValue,
    readValue, skipSpace_cons (by decide), skipSpace_cons (by decide)]
  simp only [skipSpace_blank hws hspace, skipSpace_cons hspace]

theorem readItems_lastBlank {acc : List Value} {cs rest : List Char} {v : Value}
    (h : readValue fuel depth cs = .ok (v, ws ++ ']' :: rest)) :
    readItems (fuel + 1) depth acc cs = .ok (.array (v :: acc).reverse, rest) := by
  rw [readItems, h]
  simp only [skipSpace_blank hws (show isSpace ']' = false by decide)]

theorem readMembers_lastBlank {acc : List (String × Value)} {k : String} {cs rest : List Char}
    {v : Value} (h : readValue fuel depth cs = .ok (v, ws ++ '\x7d' :: rest)) :
    readMembers (fuel + 1) depth acc (quoted k ++ ':' :: cs) =
      .ok (.object ((k, v) :: acc).reverse, rest) := by
  rw [readMembers, quoted, List.cons_append, skipSpace_cons (by decide)]
  simp only [readString_key, skipSpace_cons (show isSpace ':' = false by decide), h,
    skipSpace_blank hws (show isSpace '\x7d' = false by decide)]

end

/-! ## Indented texts -/

namespace Value

variable (level : Nat)

theorem indented_array (v : Value) (vs : List Value) : (array (v :: vs)).indented level =
    '[' :: (indentedItems (level + 1) (v :: vs) ++ lineBreak level ++ [']']) := by
  rw [indented]
  exact List.cons_ne_nil v vs

theorem indented_object (m : String × Value) (ms : List (String × Value)) :
    (object (m :: ms)).indented level =
      '\x7b' :: (indentedMembers (level + 1) (m :: ms) ++ lineBreak level ++ ['\x7d']) := by
  rw [indented]
  exact List.cons_ne_nil m ms

theorem indentedItems_one (v : Value) :
    indentedItems level [v] = lineBreak level ++ v.indented level := by rw [indentedItems]

theorem indentedItems_more (v w : Value) (vs : List Value) : indentedItems level (v :: w :: vs) =
    lineBreak level ++ v.indented level ++ ',' :: indentedItems level (w :: vs) := by
  rw [indentedItems]
  exact List.cons_ne_nil w vs

theorem indentedMembers_one (k : String) (v : Value) : indentedMembers level [(k, v)] =
    lineBreak level ++ quoted k ++ ':' :: ' ' :: v.indented level := by rw [indentedMembers]

theorem indentedMembers_more (k : String) (v : Value) (m : String × Value)
    (ms : List (String × Value)) : indentedMembers level ((k, v) :: m :: ms) =
      lineBreak level ++ quoted k ++ ':' :: ' ' ::
        (v.indented level ++ ',' :: indentedMembers level (m :: ms)) := by
  rw [indentedMembers]
  exact List.cons_ne_nil m ms

/-- Nothing but lists and objects with entries is written differently. -/
theorem indented_or_compact (v : Value) : v.indented level = v.compact ∨
    (∃ w vs, v = array (w :: vs)) ∨ ∃ m ms, v = object (m :: ms) := by
  cases v with
  | null | bool _ | number _ | string _ => exact Or.inl (by rw [indented] <;> nofun)
  | array items =>
      cases items with
      | nil => exact Or.inl (by rw [indented]; rfl)
      | cons w vs => exact Or.inr (Or.inl ⟨w, vs, rfl⟩)
  | object members =>
      cases members with
      | nil => exact Or.inl (by rw [indented]; rfl)
      | cons m ms => exact Or.inr (Or.inr ⟨m, ms, rfl⟩)

end Value

theorem indented_starts {depth : Nat} {v : Value} (h : v.isPlain depth = true) (level : Nat) :
    ∃ c cs, v.indented level = c :: cs ∧ isSpace c = false ∧ c ≠ ']' := by
  obtain hcompact | ⟨w, vs, rfl⟩ | ⟨m, ms, rfl⟩ := v.indented_or_compact level
  · rw [hcompact]
    exact compact_starts h
  · exact ⟨'[', _, Value.indented_array level w vs, by decide, by decide⟩
  · exact ⟨'\x7b', _, Value.indented_object level m ms, by decide, by decide⟩

theorem indentedItems_starts {depth : Nat} {v : Value} {vs : List Value}
    (h : Value.arePlain depth (v :: vs) = true) (level : Nat) :
    ∃ c cs, Value.indentedItems level (v :: vs) = Value.lineBreak level ++ c :: cs ∧
      isSpace c = false ∧ c ≠ ']' := by
  rw [Value.arePlain, Bool.and_eq_true] at h
  obtain ⟨c, cs, hstart, hends⟩ := indented_starts h.1 level
  cases vs with
  | nil => exact ⟨c, cs, by rw [Value.indentedItems_one, hstart], hends⟩
  | cons w vs =>
      refine ⟨c, cs ++ ',' :: Value.indentedItems level (w :: vs), ?_, hends⟩
      rw [Value.indentedItems_more, hstart, List.append_assoc, List.cons_append]

theorem indentedMembers_starts (m : String × Value) (ms : List (String × Value)) (level : Nat) :
    ∃ cs, Value.indentedMembers level (m :: ms) = Value.lineBreak level ++ '"' :: cs := by
  obtain ⟨k, v⟩ := m
  cases ms with
  | nil => exact ⟨_, by rw [Value.indentedMembers_one, List.append_assoc]; rfl⟩
  | cons n ms => exact ⟨_, by rw [Value.indentedMembers_more, List.append_assoc]; rfl⟩

/-! ## Reading back -/

/-- With such fuel, plain values are read back from the start of an indented text. -/
def ReadsIndented (fuel : Nat) : Prop :=
  ∀ (depth level : Nat) (v : Value) (rest : List Char), v.isPlain depth = true →
    (v.indented level).length < fuel → NumberEnds rest →
      readValue fuel depth (v.indented level ++ rest) = .ok (v, rest)

/-- With such fuel, plain items are read back up to their closing bracket. -/
def ReadsIndentedItems (fuel : Nat) : Prop :=
  ∀ (depth level : Nat) (v : Value) (vs acc : List Value) (ws rest : List Char), IsBlank ws →
    Value.arePlain depth (v :: vs) = true →
    (Value.indentedItems level (v :: vs)).length + 1 < fuel →
      readItems fuel depth acc (Value.indentedItems level (v :: vs) ++ (ws ++ ']' :: rest)) =
        .ok (.array (acc.reverse ++ v :: vs), rest)

/-- With such fuel, plain members are read back up to their closing brace. -/
def ReadsIndentedMembers (fuel : Nat) : Prop :=
  ∀ (depth level : Nat) (m : String × Value) (ms acc : List (String × Value))
    (ws rest : List Char), IsBlank ws → Value.memberArePlain depth (m :: ms) = true →
    (Value.indentedMembers level (m :: ms)).length + 1 < fuel →
      readMembers fuel depth acc (Value.indentedMembers level (m :: ms) ++ (ws ++ '\x7d' :: rest)) =
        .ok (.object (acc.reverse ++ m :: ms), rest)

theorem readsIndented_succ {fuel : Nat} (hitems : ReadsIndentedItems fuel)
    (hmembers : ReadsIndentedMembers fuel) : ReadsIndented (fuel + 1) := by
  intro depth level v rest hplain hfuel hrest
  have hbreak := isBlank_lineBreak (level + 1)
  obtain hcompact | ⟨w, vs, rfl⟩ | ⟨m, ms, rfl⟩ := v.indented_or_compact level
  · rw [hcompact] at hfuel ⊢
    exact (reads_back (fuel + 1)).1 depth v rest hplain hfuel hrest
  · rw [Value.isPlain, Bool.and_eq_true, decide_eq_true_eq] at hplain
    obtain ⟨hdepth, hplain⟩ := hplain
    rw [Value.indented_array] at hfuel ⊢
    simp only [List.length_cons, List.length_append, List.length_nil] at hfuel
    have hread := hitems (depth - 1) (level + 1) w vs [] _ rest (isBlank_lineBreak level) hplain
      (by omega)
    obtain ⟨c, cs, hstart, hspace, hclose⟩ := indentedItems_starts hplain (level + 1)
    rw [hstart] at hread ⊢
    simp only [List.cons_append, List.append_assoc, List.nil_append] at hread ⊢
    rw [readValue_arrayBlank hbreak hdepth hspace hclose, hread]
    rfl
  · rw [Value.isPlain, Bool.and_eq_true, decide_eq_true_eq] at hplain
    obtain ⟨hdepth, hplain⟩ := hplain
    rw [Value.indented_object] at hfuel ⊢
    simp only [List.length_cons, List.length_append, List.length_nil] at hfuel
    have hread := hmembers (depth - 1) (level + 1) m ms [] _ rest (isBlank_lineBreak level) hplain
      (by omega)
    obtain ⟨cs, hstart⟩ := indentedMembers_starts m ms (level + 1)
    rw [hstart] at hread ⊢
    simp only [List.cons_append, List.append_assoc, List.nil_append] at hread ⊢
    rw [readValue_objectBlank hbreak hdepth (by decide) (by decide), hread]
    rfl

theorem readsIndentedItems_succ {fuel : Nat} (hvalues : ReadsIndented fuel)
    (hitems : ReadsIndentedItems fuel) : ReadsIndentedItems (fuel + 1) := by
  intro depth level v vs acc ws rest hws hplain hfuel
  rw [Value.arePlain, Bool.and_eq_true] at hplain
  obtain ⟨hfirst, hothers⟩ := hplain
  obtain ⟨-, hbracket, -⟩ := numberEnds_close rest
  cases vs with
  | nil =>
      rw [Value.indentedItems_one] at hfuel ⊢
      rw [List.length_append] at hfuel
      have hvalue := hvalues depth level v _ hfirst (by omega) (numberEnds_blank hws hbracket)
      rw [List.append_assoc, readItems_blank (isBlank_lineBreak level),
        readItems_lastBlank hws hvalue, List.reverse_cons]
  | cons w vs =>
      rw [Value.indentedItems_more] at hfuel ⊢
      simp only [List.length_append, List.length_cons] at hfuel
      have hvalue := hvalues depth level v
        (',' :: (Value.indentedItems level (w :: vs) ++ (ws ++ ']' :: rest))) hfirst (by omega)
        (numberEnds_close _).1
      have hrest := hitems depth level w vs (v :: acc) ws rest hws hothers (by omega)
      rw [List.append_assoc, List.append_assoc, readItems_blank (isBlank_lineBreak level),
        List.cons_append, readItems_more hvalue, hrest]
      simp

theorem readsIndentedMembers_succ {fuel : Nat} (hvalues : ReadsIndented fuel)
    (hmembers : ReadsIndentedMembers fuel) : ReadsIndentedMembers (fuel + 1) := by
  intro depth level m ms acc ws rest hws hplain hfuel
  obtain ⟨k, v⟩ := m
  rw [Value.memberArePlain, Bool.and_eq_true] at hplain
  obtain ⟨hfirst, hothers⟩ := hplain
  obtain ⟨-, -, hbrace⟩ := numberEnds_close rest
  have hspace : IsBlank [' '] := by
    intro c hc
    rw [List.mem_singleton.mp hc]
    decide
  cases ms with
  | nil =>
      rw [Value.indentedMembers_one] at hfuel ⊢
      simp only [List.length_append, List.length_cons] at hfuel
      have hvalue := hvalues depth level v _ hfirst (by omega) (numberEnds_blank hws hbrace)
      rw [← readValue_blank hspace] at hvalue
      rw [List.append_assoc, List.append_assoc, readMembers_blank (isBlank_lineBreak level),
        List.cons_append, List.cons_append, ← List.singleton_append (x := ' '),
        readMembers_lastBlank hws hvalue, List.reverse_cons]
  | cons n ms =>
      rw [Value.indentedMembers_more] at hfuel ⊢
      simp only [List.length_append, List.length_cons] at hfuel
      have hvalue := hvalues depth level v
        (',' :: (Value.indentedMembers level (n :: ms) ++ (ws ++ '\x7d' :: rest))) hfirst (by omega)
        (numberEnds_close _).1
      rw [← readValue_blank hspace] at hvalue
      have hrest := hmembers depth level n ms ((k, v) :: acc) ws rest hws hothers (by omega)
      rw [List.append_assoc, List.append_assoc, readMembers_blank (isBlank_lineBreak level),
        List.cons_append, List.cons_append, List.append_assoc, List.cons_append,
        ← List.singleton_append (x := ' '), readMembers_more hvalue, hrest]
      simp

/-- All readers read back what was written with indentation, by induction on their fuel. -/
theorem reads_indented (fuel : Nat) :
    ReadsIndented fuel ∧ ReadsIndentedItems fuel ∧ ReadsIndentedMembers fuel := by
  induction fuel with
  | zero =>
      refine ⟨fun _ _ _ _ _ h => ?_, fun _ _ _ _ _ _ _ _ _ h => ?_,
        fun _ _ _ _ _ _ _ _ _ h => ?_⟩ <;> cases h
  | succ fuel ih =>
      obtain ⟨hvalues, hitems, hmembers⟩ := ih
      exact ⟨readsIndented_succ hitems hmembers, readsIndentedItems_succ hvalues hitems,
        readsIndentedMembers_succ hvalues hmembers⟩

/-- A plain value is read back from its indented text, with blanks behind it. -/
theorem read_prettyText {v : Value} (h : v.isPlain depthLimit = true) {ws : List Char}
    (hws : IsBlank ws) : read (v.prettyText ++ String.ofList ws) = .ok v := by
  have hends : NumberEnds ws := by
    rw [← List.append_nil ws]
    exact numberEnds_blank hws numberEnds_nil
  have hvalue := (reads_indented (2 * (v.indented 0 ++ ws).length + 2)).1 depthLimit 0 v ws h
    (by rw [List.length_append]; omega) hends
  have hrest : skipSpace ws = [] := by
    rw [← List.append_nil ws, skipSpace_append hws]
    rfl
  unfold read Value.prettyText
  rw [String.toList_append, String.toList_ofList, String.toList_ofList]
  simp only [hvalue, hrest]
  rfl

/-- A document is a value with blanks behind it. -/
theorem readValue_of_read {text : String} {v : Value} (h : read text = .ok v) :
    ∃ rest, readValue (2 * text.toList.length + 2) depthLimit text.toList = .ok (v, rest) := by
  unfold read at h
  dsimp only at h
  split at h
  · cases h
  · rename_i w rest hvalue
    split at h
    · cases h
      exact ⟨rest, hvalue⟩
    · cases h

end FormScaffold.Json
