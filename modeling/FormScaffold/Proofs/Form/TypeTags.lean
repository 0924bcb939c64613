import FormScaffold.Model.Basic
import FormScaffold.Proofs.Text.LoweredEndings
import FormScaffold.Proofs.Text.SettledCase
import FormScaffold.Proofs.Text.Cutting

/-!
# Tags of types

The name under which a logical type is looked up is looked up under itself: lower-casing changes
nothing of a text that was lower-cased, and makes no blanks that could be trimmed.  So the tag of a
field stands for the field's types as well as the type that was given for it, and the row of the
table that has the tag is the only one that has a say in them.
-/

namespace FormScaffold.Text

/-! ## Lower-casing twice -/

/-- What a character has become in lower case stays as it is. -/
theorem LowersTo.settled {c d : Char} {image : List Char} (h : LowersTo c image) (hd : d ∈ image) :
    lowerChars d = [d] := by
  rcases h with rfl | ⟨-, rfl⟩
  · exact lowerChars_of_mem hd
  · rw [List.mem_singleton.mp hd]
    decide +kernel

/-- No character becomes blank in lower case. -/
theorem LowersTo.isBlank {c d : Char} {image : List Char} (h : LowersTo c image) (hd : d ∈ image)
    (hc : isBlank c = false) : isBlank d = false := by
  rcases h with rfl | ⟨-, rfl⟩
  · refine Bool.eq_false_iff.mpr fun hblank => ?_
    have hdivider : isDivider d = true := by rw [isDivider, hblank, Bool.true_or]
    rw [eq_of_mem_lowerChars hd hdivider, hc] at hblank
    cases hblank
  · rw [List.mem_singleton.mp hd]
    decide

theorem lowerFrom_eq_self {before cs : List Char} (h : ∀ c ∈ cs, lowerChars c = [c]) :
    lowerFrom before cs = cs := by
  induction cs generalizing before with
  | nil => rfl
  | cons c rest ih =>
      obtain ⟨hc, hrest⟩ := List.forall_mem_cons.mp h
      have hsigma : (c == 'Σ') = false := by
        refine beq_eq_false_iff_ne.mpr fun heq => ?_
        rw [heq, lowerChars_sigma] at hc
        exact absurd hc (by decide)
      rw [lowerFrom, hsigma, if_neg Bool.false_ne_true, hc, ih hrest]
      rfl

theorem Lowering.settled {cs ls : List Char} (h : Lowering cs ls) :
    ∀ d ∈ ls, lowerChars d = [d] := by
  induction h with
  | nil => exact nofun
  | snoc _ hc ih => exact List.forall_mem_append.mpr ⟨ih, fun _ => hc.settled⟩

/-- Lower-casing changes nothing of a text that was lower-cased. -/
theorem lower_lower (cs : List Char) : lower (lower cs) = lower cs :=
  lowerFrom_eq_self (Lowering.lower cs).settled

/-- A text that does not start or end with a blank is not blank at its ends in lower case either. -/
theorem trim_lower {cs : List Char} (hstart : ∀ c, cs.head? = some c → isBlank c = false)
    (hstop : ∀ c, cs.getLast? = some c → isBlank c = false) : trim (lower cs) = lower cs := by
  refine trimBoth_eq_self (fun d hd => ?_) fun d hd => ?_
  · cases cs with
    | nil => cases hd
    | cons c rest =>
        have himage := LowersTo.inContext [] rest c
        rw [lower, lowerFrom, List.head?_append_of_ne_nil _ himage.ne_nil] at hd
        exact himage.isBlank (List.mem_of_head? hd) (hstart c rfl)
  · rcases List.eq_nil_or_concat cs with rfl | ⟨before, c, rfl⟩
    · cases hd
    · rw [List.concat_eq_append] at hstop hd
      obtain ⟨ls, image, hlower, -, himage⟩ := (Lowering.lower (before ++ [c])).of_snoc
      rw [hlower, List.getLast?_append_of_ne_nil _ himage.ne_nil] at hd
      exact himage.isBlank (List.mem_of_getLast? hd) (hstop c List.getLast?_concat)

end FormScaffold.Text

namespace FormScaffold

open Text

/-! ## Tags -/

/-- A tag is looked up under itself. -/
theorem typeTag_typeTag (logicalType : String) :
    typeTag (typeTag logicalType) = typeTag logicalType := by
  have htrim : trim (lower (trim logicalType.toList)) = lower (trim logicalType.toList) :=
    trim_lower (fun _ => head?_trimBoth) fun _ => getLast?_dropEndWhile
  unfold typeTag
  rw [String.toList_ofList, htrim, lower_lower]

theorem mapFieldType_typeTag (logicalType : String) (required : Bool) (maxLength : Option Nat) :
    mapFieldType (typeTag logicalType) required maxLength =
      mapFieldType logicalType required maxLength := by
  unfold mapFieldType typeRule?
  rw [typeTag_typeTag]

/-! ## Rows of the table -/

/-- A tag of some row is found in this row. -/
theorem find?_logicalTypes : ∀ rule ∈ typeRules, ∀ tag ∈ rule.logicalTypes,
    typeRules.find? (fun other => other.logicalTypes.contains tag) = some rule := by
  decide

/-- A type has the row that has the type's tag, and no other. -/
theorem typeRule?_eq_some_iff {logicalType : String} {rule : TypeRule} :
    typeRule? logicalType = some rule ↔
      rule ∈ typeRules ∧ typeTag logicalType ∈ rule.logicalTypes := by
  unfold typeRule?
  constructor
  · intro h
    have htag := List.find?_some h
    exact ⟨List.mem_of_find?_eq_some h, List.contains_iff_mem.mp htag⟩
  · rintro ⟨hrule, htag⟩
    exact find?_logicalTypes rule hrule _ htag

theorem typeRule?_eq_none_iff {logicalType : String} :
    typeRule? logicalType = none ↔ ∀ rule ∈ typeRules, typeTag logicalType ∉ rule.logicalTypes := by
  simp only [Option.eq_none_iff_forall_ne_some, ne_eq, typeRule?_eq_some_iff, not_and]

theorem getD_typeRule?_mem (logicalType : String) :
    (typeRule? logicalType).getD fallbackRule ∈ fallbackRule :: typeRules := by
  cases h : typeRule? logicalType with
  | none => exact List.mem_cons_self
  | some rule => exact List.mem_cons_of_mem _ (typeRule?_eq_some_iff.mp h).1

/-! ## Lengths of columns -/

/-- Different lengths make different columns. -/
theorem textColumn_inj {j k : Nat} (h : textColumn (toString j) = textColumn (toString k)) :
    j = k := by
  have htexts : toString j = toString k := by
    unfold textColumn at h
    simpa [← String.toList_inj] using h
  have hdigits : (Nat.toDigits 10 j) = Nat.toDigits 10 k := by
    rw [← Nat.toList_repr, ← Nat.toList_repr]
    exact congrArg String.toList htexts
  rw [← Nat.ofDigitChars_ten_toDigits (n := j), hdigits, Nat.ofDigitChars_ten_toDigits]

/-- A column has the length zero only if its row says so. -/
theorem columnName_ne_zero {column : ColumnType} (maxLength : Option Nat)
    (hfixed : column ≠ .fixedText 0) (hliteral : column ≠ .literal (textColumn (toString 0))) :
    column.name maxLength ≠ textColumn (toString 0) := by
  have hlength : ∀ n, textColumn (toString (n + 1)) ≠ textColumn (toString 0) :=
    fun n h => Nat.succ_ne_zero n (textColumn_inj h)
  cases column with
  | sizedText =>
      match maxLength with
      | none => exact hlength 254
      | some 0 => exact hlength 254
      | some (n + 1) => exact hlength n
  | fixedText length =>
      cases length with
      | zero => exact absurd rfl hfixed
      | succ n => exact hlength n
  | unboundedText =>
      change textColumn "MAX" ≠ _
      decide
  | literal name => exact fun h => hliteral (congrArg _ h)

/-! ## Types of fields -/

/-- The model of a field has the types of its own tag.  The tag is one of the table's exactly if the
field's type has a row, which is then the only one with the tag and alone makes the types; without
a row the field is a short text, whatever its greatest length is.  No column has the length zero. -/
theorem tag_settles_types (f : FormField) :
    (FieldModel.ofField f).types = mapFieldType (FieldModel.ofField f).typeTag
      (FieldModel.ofField f).required (FieldModel.ofField f).maxLength ∧
    ((∃ rule ∈ typeRules, (FieldModel.ofField f).typeTag ∈ rule.logicalTypes) ↔
      (typeRule? f.fieldType).isSome) ∧
    (∀ rule ∈ typeRules, (FieldModel.ofField f).typeTag ∈ rule.logicalTypes →
      typeRule? f.fieldType = some rule ∧
        (FieldModel.ofField f).types = rule.mapping f.required f.maxLength) ∧
    (typeRule? f.fieldType = none → ∀ maxLength,
      (FieldModel.ofField { f with maxLength := maxLength }).types =
        ⟨"string", "NVARCHAR(255)", "string"⟩) ∧
    ∀ n, (FieldModel.ofField f).types.columnType = textColumn (toString n) → 0 < n := by
  refine ⟨(mapFieldType_typeTag ..).symm, ?_, ?_, ?_, ?_⟩
  · rw [Option.isSome_iff_exists]
    exact exists_congr fun rule => typeRule?_eq_some_iff.symm
  · intro rule hrule htag
    have hfound : typeRule? f.fieldType = some rule := typeRule?_eq_some_iff.mpr ⟨hrule, htag⟩
    refine ⟨hfound, ?_⟩
    change mapFieldType f.fieldType f.required f.maxLength = _
    rw [mapFieldType, hfound]
    rfl
  · intro hnone maxLength
    change mapFieldType f.fieldType f.required maxLength = _
    rw [mapFieldType, hnone]
    cases f.required <;> rfl
  · intro n hlength
    refine Nat.pos_of_ne_zero fun hzero => ?_
    rw [hzero] at hlength
    have hrules : ∀ rule ∈ fallbackRule :: typeRules, rule.column ≠ .fixedText 0 ∧
        rule.column ≠ .literal (textColumn (toString 0)) := by decide
    obtain ⟨hfixed, hliteral⟩ := hrules _ (getD_typeRule?_mem f.fieldType)
    exact columnName_ne_zero f.maxLength hfixed hliteral hlength

/-- A check box that is spelled with the sign of the unit kelvin, between blanks. -/
def kelvinField : FormField :=
  ⟨"agreed", "\u00A0CHEC\u212ABOX ", false, none, none, none, some 0, none, none, []⟩

/-- A field of a type that the table does not hold. -/
def colorField : FormField := ⟨"shade", "Color", true, none, none, none, some 7, none, none, []⟩

theorem kelvinField_types :
    (FieldModel.ofField kelvinField).typeTag = "checkbox" ∧
    (FieldModel.ofField kelvinField).types = ⟨"bool?", "BIT", "boolean"⟩ ∧
    typeRule? colorField.fieldType = none ∧
    (∀ maxLength, (FieldModel.ofField { colorField with maxLength := maxLength }).types =
      ⟨"string", "NVARCHAR(255)", "string"⟩) ∧
    (FieldModel.ofField colorField).types.columnType = textColumn (toString 255) ∧ 0 < 255 := by
  have htag : (FieldModel.ofField kelvinField).typeTag = "checkbox" := by decide +kernel
  have htypes := (tag_settles_types kelvinField).2.2.1
    ⟨["boolean", "checkbox"], .bool, .literal "BIT", "boolean"⟩ (by decide) (by rw [htag]; decide)
  have hnone : typeRule? colorField.fieldType = none := by decide +kernel
  have hcolumn : (FieldModel.ofField colorField).types.columnType = textColumn (toString 255) := by
    decide +kernel
  exact ⟨htag, htypes.2, hnone, (tag_settles_types colorField).2.2.2.1 hnone, hcolumn,
    (tag_settles_types colorField).2.2.2.2 255 hcolumn⟩

end FormScaffold
