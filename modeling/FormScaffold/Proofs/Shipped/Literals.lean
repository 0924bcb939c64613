import FormScaffold.Json.Reader
import FormScaffold.Proofs.Text.Replacing

/-!
# Texts between quotes

The generated files put texts between double quotes.  What stands there is read as UTF-16 units,
up to the quote that closes it.  The language of the classes (C#) and that of the frontend
(ECMAScript) differ in what ends a line, which no such text may hold, and in what a backslash does.
A text without a quote, a backslash or the end of a line stands for itself, and no other text does:
what is written with a backslash has more characters than it stands for.
-/

namespace FormScaffold.Literals

open Json

/-! ## Units -/

/-- The UTF-16 units of a code point. -/
def unitsOfCode (n : Nat) : List Nat :=
  if n < 0x10000 then [n] else [0xD800 + (n - 0x10000) / 0x400, 0xDC00 + (n - 0x10000) % 0x400]

/-- The UTF-16 units of a text. -/
def unitsOf (cs : List Char) : List Nat := cs.flatMap fun c => unitsOfCode c.toNat

theorem one_le_unitsOfCode (n : Nat) : 1 ≤ (unitsOfCode n).length := by
  unfold unitsOfCode
  split <;> simp

theorem unitsOfCode_le_two (n : Nat) : (unitsOfCode n).length ≤ 2 := by
  unfold unitsOfCode
  split <;> simp

theorem unitsOf_cons (c : Char) (cs : List Char) :
    unitsOf (c :: cs) = unitsOfCode c.toNat ++ unitsOf cs := List.flatMap_cons

theorem unitsOf_append (cs ds : List Char) : unitsOf (cs ++ ds) = unitsOf cs ++ unitsOf ds :=
  List.flatMap_append

theorem length_le_unitsOf (cs : List Char) : cs.length ≤ (unitsOf cs).length := by
  induction cs with
  | nil => exact Nat.le_refl _
  | cons c cs ih =>
      have hfirst := one_le_unitsOfCode c.toNat
      rw [unitsOf_cons, List.length_append, List.length_cons]
      omega

/-! ## Dialects -/

/-- What follows a backslash has no more units than the characters that are read. -/
def IsShort (escape? : List Char → Option (List Nat × List Char)) : Prop :=
  ∀ ⦃cs us rest⦄, escape? cs = some (us, rest) →
    ∃ body, cs = body ++ rest ∧ us.length ≤ (unitsOf body).length

/-- How a language reads a text between quotes: which characters end a line, and which units what
follows a backslash stands for. -/
structure Dialect where
  lineEnds : List Char
  escape? : List Char → Option (List Nat × List Char)
  short : IsShort escape?

namespace Dialect

variable (d : Dialect)

/-- The units of a text from after its opening quote, and what follows its closing quote. -/
def readFrom : Nat → List Char → Option (List Nat × List Char)
  | 0, _ => none
  | _ + 1, [] => none
  | _ + 1, '"' :: rest => some ([], rest)
  | fuel + 1, '\\' :: rest =>
      match d.escape? rest with
      | some (us, rest) => (readFrom fuel rest).map fun p => (us ++ p.1, p.2)
      | none => none
  | fuel + 1, c :: rest =>
      if d.lineEnds.contains c then none
      else (readFrom fuel rest).map fun p => (unitsOfCode c.toNat ++ p.1, p.2)

/-- `readFrom` with as many steps as there are characters. -/
def read (cs : List Char) : Option (List Nat × List Char) := d.readFrom (cs.length + 1) cs

/-- A character stands for itself between quotes. -/
def IsPlain (c : Char) : Prop := c ≠ '"' ∧ c ≠ '\\' ∧ c ∉ d.lineEnds

instance (c : Char) : Decidable (d.IsPlain c) :=
  inferInstanceAs (Decidable (c ≠ '"' ∧ c ≠ '\\' ∧ c ∉ d.lineEnds))

/-- Between quotes, with a text behind them, a text is read as its own units. -/
def StandsForItself (t behind : String) : Prop :=
  d.read (t ++ "\"" ++ behind).toList = some (unitsOf t.toList, behind.toList)

variable {d}

theorem readFrom_plain {c : Char} (hc : d.IsPlain c) (fuel : Nat) (rest : List Char) :
    d.readFrom (fuel + 1) (c :: rest) =
      (d.readFrom fuel rest).map fun p => (unitsOfCode c.toNat ++ p.1, p.2) := by
  obtain ⟨hquote, hslash, hline⟩ := hc
  rw [readFrom.eq_5 d fuel c rest hquote hslash, if_neg (by simpa using hline)]

/-- Plain characters are read as their own units, up to the closing quote. -/
theorem readFrom_eq {cs : List Char} (h : ∀ c ∈ cs, d.IsPlain c) (behind : List Char) {fuel : Nat}
    (hfuel : cs.length < fuel) :
    d.readFrom fuel (cs ++ '"' :: behind) = some (unitsOf cs, behind) := by
  induction cs generalizing fuel with
  | nil =>
      obtain ⟨fuel, rfl⟩ := Nat.exists_eq_succ_of_ne_zero (Nat.ne_of_gt hfuel)
      rfl
  | cons c cs ih =>
      obtain ⟨fuel, rfl⟩ := Nat.exists_eq_succ_of_ne_zero (Nat.ne_of_gt (Nat.zero_lt_of_lt hfuel))
      rw [List.cons_append, readFrom_plain (h c List.mem_cons_self),
        ih (fun c hc => h c (List.mem_cons_of_mem _ hc)) (Nat.lt_of_succ_lt_succ hfuel)]
      rfl

/-- What is read ends with a quote, and has no more units than the characters before it.  If it has
as many, all of these are plain. -/
theorem readFrom_sound {fuel : Nat} {cs behind : List Char} {us : List Nat}
    (h : d.readFrom fuel cs = some (us, behind)) :
    ∃ body, cs = body ++ '"' :: behind ∧ us.length ≤ (unitsOf body).length ∧
      (us.length = (unitsOf body).length → ∀ c ∈ body, d.IsPlain c) := by
  induction fuel generalizing cs us with
  | zero => cases h
  | succ fuel ih =>
      unfold readFrom at h
      split at h
      · cases h
      · cases h
      · cases h
        exact ⟨[], rfl, Nat.le_refl _, fun _ c hc => nomatch hc⟩
      · rename_i hfuel
        cases hfuel
        split at h
        · rename_i rest us₁ rest₁ hescape
          obtain ⟨⟨us₂, after⟩, hrest, hpair⟩ := Option.map_eq_some_iff.mp h
          cases hpair
          obtain ⟨written, rfl, hshort⟩ := d.short hescape
          obtain ⟨body, rfl, hbody, -⟩ := ih hrest
          refine ⟨'\\' :: (written ++ body), by simp, ?_, fun hlength => ?_⟩
          all_goals
            rw [unitsOf_cons, unitsOf_append] at *
            simp only [List.length_append] at *
            have hslash := one_le_unitsOfCode '\\'.toNat
            omega
        · cases h
      · rename_i c rest hquote hslash hfuel
        cases hfuel
        split at h
        · cases h
        · rename_i hline
          obtain ⟨⟨us₂, after⟩, hrest, hpair⟩ := Option.map_eq_some_iff.mp h
          cases hpair
          obtain ⟨body, rfl, hbody, hplain⟩ := ih hrest
          refine ⟨c :: body, rfl, ?_, fun hlength => ?_⟩
          · rw [unitsOf_cons, List.length_append, List.length_append]
            exact Nat.add_le_add_left hbody _
          · rw [unitsOf_cons, List.length_append, List.length_append] at hlength
            exact List.forall_mem_cons.mpr ⟨⟨hquote, hslash, by simpa using hline⟩,
              hplain (Nat.add_left_cancel hlength)⟩

/-- A text stands for itself between quotes exactly if all its characters do. -/
theorem standsForItself_iff {t behind : String} :
    d.StandsForItself t behind ↔ ∀ c ∈ t.toList, d.IsPlain c := by
  have hchars : (t ++ "\"" ++ behind).toList = t.toList ++ '"' :: behind.toList := by
    simp [String.toList_append]
  unfold StandsForItself read
  rw [hchars]
  constructor
  · intro h
    obtain ⟨body, hbody, -, hplain⟩ := readFrom_sound h
    obtain rfl := List.append_cancel_right hbody
    exact hplain rfl
  · intro h
    exact readFrom_eq h behind.toList (by rw [List.length_append]; omega)

theorem standsForItself_append_iff {s t behind : String} (ht : ∀ c ∈ t.toList, d.IsPlain c) :
    d.StandsForItself (s ++ t) behind ↔ ∀ c ∈ s.toList, d.IsPlain c := by
  rw [standsForItself_iff, String.toList_append]
  exact ⟨fun h c hc => h c (List.mem_append_left _ hc),
    fun h c hc => (List.mem_append.mp hc).elim (h c) (ht c)⟩

end Dialect

/-! ## Escapes -/

/-- The hexadecimal digits at the start of a text, up to a number of them. -/
def hexPrefix (limit : Nat) (cs : List Char) : List Char :=
  (cs.take limit).takeWhile fun c => (hexValue? c).isSome

/-- The number that hexadecimal digits stand for. -/
def hexNumber (ds : List Char) : Nat := ds.foldl (fun n c => n * 16 + (hexValue? c).getD 0) 0

theorem hexPrefix_append_drop (limit : Nat) (cs : List Char) :
    hexPrefix limit cs ++ cs.drop (hexPrefix limit cs).length = cs :=
  List.prefix_iff_eq_append.mp ((List.takeWhile_prefix _).trans (List.take_prefix limit cs))

/-- An escape by one letter. -/
def letterEscape (letters : List (Char × Nat)) : List Char → Option (List Nat × List Char)
  | c :: rest => (letters.lookup c).map fun n => ([n], rest)
  | [] => none

/-- The units that so many hexadecimal digits stand for, at least one and perhaps fewer. -/
def hexEscape (least most : Nat) (cs : List Char) : Option (List Nat × List Char) :=
  let ds := hexPrefix most cs
  if least ≤ ds.length ∧ 0 < ds.length ∧ hexNumber ds ≤ 0x10FFFF then
    some (unitsOfCode (hexNumber ds), cs.drop ds.length)
  else none

/-- What follows a backslash in a class: a letter, `x` with one to four digits, `u` with four, or
`U` with eight. -/
def classEscape : List Char → Option (List Nat × List Char)
  | 'x' :: rest => hexEscape 1 4 rest
  | 'u' :: rest => hexEscape 4 4 rest
  | 'U' :: rest => hexEscape 8 8 rest
  | cs =>
      letterEscape [('\'', 39), ('"', 34), ('\\', 92), ('0', 0), ('a', 7), ('b', 8), ('f', 12),
        ('n', 10), ('r', 13), ('t', 9), ('v', 11)] cs

/-- The digits of a code point in braces, from after the opening brace. -/
def bracedEscape (cs : List Char) : Option (List Nat × List Char) :=
  match hexEscape 1 cs.length cs with
  | some (us, '\x7d' :: rest) => some (us, rest)
  | _ => none

/-- What follows a backslash in a script: a letter, `x` with two digits, `u` with four or with
some in braces, the end of a line, which stands for nothing, or any other character but a digit,
which stands for itself. -/
def scriptEscape : List Char → Option (List Nat × List Char)
  | 'x' :: rest => hexEscape 2 2 rest
  | 'u' :: '\x7b' :: rest => bracedEscape rest
  | 'u' :: rest => hexEscape 4 4 rest
  | '\r' :: '\n' :: rest => some ([], rest)
  | '0' :: rest => if (rest.head?.any Char.isDigit) then none else some ([0], rest)
  | c :: rest =>
      if ['\n', '\r', '\u2028', '\u2029'].contains c then some ([], rest)
      else if c.isDigit then none
      else
        some ((([('b', 8), ('f', 12), ('n', 10), ('r', 13), ('t', 9), ('v', 11)].lookup c).map
          fun n => [n]).getD (unitsOfCode c.toNat), rest)
  | [] => none

theorem isShort_letter (letters : List (Char × Nat)) : IsShort (letterEscape letters) := by
  intro cs us rest h
  cases cs with
  | nil => cases h
  | cons c cs =>
      obtain ⟨n, -, hpair⟩ := Option.map_eq_some_iff.mp h
      cases hpair
      exact ⟨[c], rfl, length_le_unitsOf [c]⟩

theorem hexEscape_eq {least most : Nat} {cs rest : List Char} {us : List Nat}
    (h : hexEscape least most cs = some (us, rest)) :
    ∃ ds, cs = ds ++ rest ∧ us.length ≤ ds.length + 1 ∧ 0 < ds.length := by
  unfold hexEscape at h
  obtain ⟨⟨-, hsome, -⟩, hpair⟩ := Option.ite_none_right_eq_some.mp h
  cases hpair
  have htwo := unitsOfCode_le_two (hexNumber (hexPrefix most cs))
  exact ⟨_, (hexPrefix_append_drop most cs).symm, by omega, hsome⟩

/-- A letter before hexadecimal digits makes up for a second unit. -/
theorem hexEscape_short (c : Char) (least most : Nat) (cs : List Char) {us : List Nat}
    {rest : List Char} (h : hexEscape least most cs = some (us, rest)) :
    ∃ body, c :: cs = body ++ rest ∧ us.length ≤ (unitsOf body).length := by
  obtain ⟨ds, rfl, hlength, -⟩ := hexEscape_eq h
  have hunits := length_le_unitsOf (c :: ds)
  rw [List.length_cons] at hunits
  exact ⟨c :: ds, rfl, by omega⟩

theorem isShort_class : IsShort classEscape := by
  intro cs us rest h
  unfold classEscape at h
  split at h
  · exact hexEscape_short _ _ _ _ h
  · exact hexEscape_short _ _ _ _ h
  · exact hexEscape_short _ _ _ _ h
  · exact isShort_letter _ h

theorem isShort_script : IsShort scriptEscape := by
  intro cs us rest h
  unfold scriptEscape at h
  split at h
  · exact hexEscape_short _ _ _ _ h
  · rename_i more
    unfold bracedEscape at h
    split at h
    · rename_i us' rest' hdigits
      cases h
      obtain ⟨ds, rfl, hlength, -⟩ := hexEscape_eq hdigits
      have hunits := length_le_unitsOf ('u' :: '\x7b' :: (ds ++ ['\x7d']))
      simp only [List.length_cons, List.length_append, List.length_nil] at hunits
      exact ⟨'u' :: '\x7b' :: (ds ++ ['\x7d']), by simp, by omega⟩
    · cases h
  · exact hexEscape_short _ _ _ _ h
  · cases h
    exact ⟨['\r', '\n'], rfl, Nat.zero_le _⟩
  · obtain ⟨-, hpair⟩ := Option.ite_none_left_eq_some.mp h
    cases hpair
    exact ⟨['0'], rfl, length_le_unitsOf ['0']⟩
  · rename_i c more _ _ _ _ _
    split at h
    · cases h
      exact ⟨[c], rfl, Nat.zero_le _⟩
    · obtain ⟨-, hpair⟩ := Option.ite_none_left_eq_some.mp h
      cases hpair
      refine ⟨[c], rfl, ?_⟩
      cases [('b', 8), ('f', 12), ('n', 10), ('r', 13), ('t', 9), ('v', 11)].lookup c with
      | none => simp [unitsOf]
      | some n => exact length_le_unitsOf [c]
  · cases h

/-- Texts between quotes in the classes. -/
def Dialect.ofClasses : Dialect where
  lineEnds := ['\n', '\r', '\u0085', '\u2028', '\u2029']
  escape? := classEscape
  short := isShort_class

/-- Texts between quotes in the scripts. -/
def Dialect.ofScripts : Dialect where
  lineEnds := ['\n', '\r']
  escape? := scriptEscape
  short := isShort_script

example : Dialect.ofClasses.read "\\x41\\n\" b".toList = some ([65, 10], " b".toList) := by decide

example : Dialect.ofScripts.read "\\x41\\q\" b".toList = some ([65, 113], " b".toList) := by decide

/-! ## Texts without escapes -/

/-- A text with all quotes doubled, from after its opening quote, and what follows its closing
quote. -/
def readVerbatim : List Char → Option (List Char × List Char)
  | '"' :: '"' :: rest => (readVerbatim rest).map fun p => ('"' :: p.1, p.2)
  | '"' :: rest => some ([], rest)
  | c :: rest => (readVerbatim rest).map fun p => (c :: p.1, p.2)
  | [] => none

/-- A character with quotes doubled. -/
def doubledQuote (c : Char) : List Char := if c = '"' then ['"', '"'] else [c]

/-- A text whose quotes are doubled is read back, if no quote follows the closing one. -/
theorem readVerbatim_doubled (cs : List Char) {behind : List Char} (h : behind.head? ≠ some '"') :
    readVerbatim (cs.flatMap doubledQuote ++ '"' :: behind) = some (cs, behind) := by
  induction cs with
  | nil =>
      cases behind with
      | nil => rfl
      | cons c behind =>
          have hc : c ≠ '"' := fun heq => h (congrArg some heq)
          rw [List.flatMap_nil, List.nil_append, readVerbatim]
          intro rest hrest
          exact hc (List.cons.inj hrest).1
  | cons c cs ih =>
      rw [List.flatMap_cons, List.append_assoc]
      by_cases hc : c = '"'
      · have hdoubled : doubledQuote c = ['"', '"'] := if_pos hc
        rw [hdoubled, hc, List.cons_append, List.cons_append, List.nil_append, readVerbatim, ih]
        rfl
      · have hsame : doubledQuote c = [c] := if_neg hc
        rw [hsame, List.singleton_append, readVerbatim, ih]
        · rfl
        · exact fun _ hquote _ => hc hquote
        · exact hc

/-- A text with its quotes doubled is read back from after its opening quote. -/
theorem readVerbatim_replaced (s : String) {behind : String} (h : behind.toList.head? ≠ some '"') :
    readVerbatim (Text.replaced "\"" "\"\"" s ++ "\"" ++ behind).toList =
      some (s.toList, behind.toList) := by
  have hchars : (Text.replaced "\"" "\"\"" s ++ "\"" ++ behind).toList =
      s.toList.flatMap doubledQuote ++ '"' :: behind.toList := by
    unfold Text.replaced
    rw [String.toList_append, String.toList_append, String.toList_ofList, List.append_assoc]
    exact congrArg (· ++ '"' :: behind.toList) (Text.replaceAll_char '"' ['"', '"'] s.toList)
  rw [hchars, readVerbatim_doubled _ h]

end FormScaffold.Literals
