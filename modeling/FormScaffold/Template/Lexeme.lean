import FormScaffold.Decimal.Binary64
import FormScaffold.Template.Tree
import FormScaffold.Text.Search

/-!
# Small parts of template text

Readers of identifiers, names, numbers and quoted texts.  A reader gives what it
read and the rest of the text, or nothing if the text does not start with such a part.
Parts inside a tag may have blanks, tabs and line breaks before them.
-/

namespace FormScaffold.Template

open FormScaffold.Decimal FormScaffold.Text

/-- Space between the parts of a tag. -/
def isGap (c : Char) : Bool := c == ' ' || c == '\t' || c == '\r' || c == '\n'

/-- Drop the space before a part of a tag. -/
def skipGap (cs : List Char) : List Char := cs.dropWhile isGap

/-- The rest after a fixed part, with space before it. -/
def after? (part : String) (cs : List Char) : Option (List Char) :=
  afterPrefix? part.toList (skipGap cs)

/-- A letter or an underscore. -/
def startsIdent (c : Char) : Bool := c.isAlpha || c == '_'

/-- A letter, a digit or an underscore. -/
def isWordChar (c : Char) : Bool := c.isAlphanum || c == '_'

/-- An identifier at the very start of the text. -/
def identHere? (cs : List Char) : Option ((List Char) × List Char) :=
  match cs with
  | c :: _ => if startsIdent c then some (cs.takeWhile isWordChar, cs.dropWhile isWordChar) else none
  | [] => none

/-- An identifier, with space before it. -/
def ident? (cs : List Char) : Option (String × List Char) :=
  (identHere? (skipGap cs)).map fun (w, rest) => (String.ofList w, rest)

/-- Further members of a name, each after a point, with a bound on their number. -/
def membersHere : Nat → List Char → List Char × List Char
  | 0, cs => ([], cs)
  | n + 1, '.' :: cs =>
      let word := cs.takeWhile isWordChar
      if word.isEmpty then ([], '.' :: cs)
      else
        let (more, rest) := membersHere n (cs.dropWhile isWordChar)
        ('.' :: word ++ more, rest)
  | _ + 1, cs => ([], cs)

/-- An identifier with its members. -/
def dottedHere? (cs : List Char) : Option ((List Char) × List Char) :=
  (identHere? cs).map fun (w, rest) =>
    let (more, rest) := membersHere rest.length rest
    (w ++ more, rest)

/-- Digits of a number without leading zeros. -/
def wholeDigits? (cs : List Char) : Option ((List Char) × List Char) :=
  match cs with
  | '0' :: rest => some (['0'], rest)
  | c :: _ => if c.isDigit then some (cs.takeWhile Char.isDigit, cs.dropWhile Char.isDigit) else none
  | [] => none

/-- The sign of a number and the rest. -/
def signOf (cs : List Char) : Bool × List Char :=
  match cs with
  | '-' :: rest => (true, rest)
  | _ => (false, cs)

/-- The text of an integer literal. -/
def intHere? (cs : List Char) : Option ((Bool × List Char) × List Char) :=
  let (negative, rest) := signOf cs
  (wholeDigits? rest).map fun (ds, rest) => ((negative, ds), rest)

/-- An integer of 64 bits. -/
def int? (cs : List Char) : Option (Int × List Char) :=
  match intHere? (skipGap cs) with
  | none => none
  | some ((negative, ds), rest) =>
      let n : Int := digitsValue ds
      let n := if negative then -n else n
      if -(Nat.pow 2 63 : Int) ≤ n && n < Nat.pow 2 63 then some (n, rest) else none

/-- A number with a point and decimals. -/
def float? (cs : List Char) : Option (Binary64 × List Char) :=
  match intHere? (skipGap cs) with
  | some ((negative, whole), '.' :: rest) =>
      let decimals := rest.takeWhile Char.isDigit
      if decimals.isEmpty then none
      else
        (Binary64.ofDecimal? negative (digitsValue (whole ++ decimals)) (-(decimals.length : Int))).map
          fun x => (x, rest.dropWhile Char.isDigit)
  | _ => none

/-- The marks that may enclose a text. -/
def isQuote (c : Char) : Bool := c == '"' || c == '\'' || c == Char.ofNat 96

/-- A quoted text at the very start: the mark, the content, and the rest. -/
def quotedHere? (cs : List Char) : Option ((Char × List Char) × List Char) :=
  match cs with
  | q :: rest =>
      if isQuote q then
        match rest.dropWhile (· != q) with
        | _ :: after => some ((q, rest.takeWhile (· != q)), after)
        | [] => none
      else none
  | [] => none

/-- A quoted text; nothing is escaped in it. -/
def quoted? (cs : List Char) : Option (String × List Char) :=
  (quotedHere? (skipGap cs)).map fun ((_, w), rest) => (String.ofList w, rest)

/-- A name with members and brackets, as it is written.  The number bounds the depth
of brackets and the number of parts. -/
def nameHere? : Nat → List Char → Option ((List Char) × List Char)
  | 0, _ => none
  | n + 1, cs =>
      (dottedHere? cs).map fun (w, rest) =>
        let (more, rest) := partsHere n rest
        (w ++ more, rest)
where
  /-- Members and brackets that follow. -/
  partsHere : Nat → List Char → List Char × List Char
    | 0, cs => ([], cs)
    | n + 1, '.' :: cs =>
        match dottedHere? cs with
        | none => ([], '.' :: cs)
        | some (w, rest) =>
            let (more, rest) := partsHere n rest
            ('.' :: w ++ more, rest)
    | n + 1, '[' :: cs =>
        match indexHere? n cs with
        | some (w, ']' :: rest) =>
            let (more, rest) := partsHere n rest
            ('[' :: w ++ ']' :: more, rest)
        | _ => ([], '[' :: cs)
    | _ + 1, cs => ([], cs)
  /-- What may stand in brackets: an integer, a quoted text or a name. -/
  indexHere? : Nat → List Char → Option ((List Char) × List Char)
    | 0, _ => none
    | n + 1, cs =>
        match intHere? cs with
        | some ((negative, ds), rest) => some (if negative then '-' :: ds else ds, rest)
        | none =>
            match quotedHere? cs with
            | some ((q, w), rest) => some (q :: w ++ [q], rest)
            | none => nameHere? n cs

/-- A name with members and brackets. -/
def name? (cs : List Char) : Option (String × List Char) :=
  let cs := skipGap cs
  (nameHere? (2 * cs.length + 2) cs).map fun (w, rest) => (String.ofList w, rest)

/-- A truth value; any word that starts like one is taken for it. -/
def truthValue? (cs : List Char) : Option (Bool × List Char) :=
  match after? "true" cs, after? "false" cs, after? "True" cs, after? "False" cs with
  | some rest, _, _, _ => some (true, rest)
  | _, some rest, _, _ => some (false, rest)
  | _, _, some rest, _ => some (true, rest)
  | _, _, _, some rest => some (false, rest)
  | _, _, _, _ => none

/-- A word that has space after it, such as a logical operator. -/
def spacedWord? (word : String) (cs : List Char) : Option (List Char) :=
  match after? word cs with
  | some (c :: rest) => if isGap c then some rest else none
  | _ => none

end FormScaffold.Template
