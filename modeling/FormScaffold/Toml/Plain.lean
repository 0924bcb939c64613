import FormScaffold.Decimal.Binary64
import FormScaffold.Yaml.Plain

/-!
# Items and words of TOML

What a document holds, and the values in it that stand without quotes.
-/

namespace FormScaffold.Toml

/-!
## TOML items

A document is a table.  A table knows how it came about, which decides whether later
parts of the document may add to it: a table with a header of its own is complete after
its section, one that a dotted key made is added to by dotted keys only, and one that
stands only in the header of another may still get its own.
-/

open FormScaffold.Decimal

/-- How a table came about. -/
inductive Made where
  | header
  | implied
  | dotted
  | inline
  deriving DecidableEq, Repr

/-- What a key stands for.  A number that is infinite or none has no double. -/
inductive Item where
  | text (s : String)
  | integer (n : Int)
  | float (x : Option Binary64)
  | bool (b : Bool)
  | moment (s : String)
  | array (items : List Item)
  | table (made : Made) (entries : List (String × Item))
  | tables (each : List (List (String × Item)))
  deriving Repr

/-- A table while the document is read. -/
structure Table where
  made : Made
  entries : List (String × Item)

namespace Table

/-- A table without entries. -/
def new (made : Made) : Table := ⟨made, []⟩

/-- Set a key. -/
def put (t : Table) (key : String) (item : Item) : Table :=
  if (t.entries.lookup key).isSome then
    { t with entries := t.entries.map fun p => if p.1 == key then (key, item) else p }
  else { t with entries := t.entries ++ [(key, item)] }

/-- Change the table that a list of keys leads to; tables that are not there are made.
Dotted keys do not lead into tables with a header; headers lead into the last table of a
list. -/
def within (dotted : Bool) (change : Table → Option Table) : List String → Table → Option Table
  | [], t => change t
  | key :: path, t =>
      match t.entries.lookup key with
      | none =>
          (within dotted change path (new (if dotted then .dotted else .implied))).map fun inner =>
            t.put key (.table inner.made inner.entries)
      | some (.table made entries) =>
          if made == .inline || (dotted && made == .header) then none
          else
            (within dotted change path ⟨made, entries⟩).map fun inner =>
              t.put key (.table inner.made inner.entries)
      | some (.tables each) =>
          (within dotted change path ⟨.header, each.getLast?.getD []⟩).map fun inner =>
            t.put key (.tables (each.dropLast ++ [inner.entries]))
      | some _ => none

/-- Set a dotted key that is not set yet.  It may add to tables that dotted keys made. -/
def assign (path : List String) (key : String) (item : Item) (t : Table) : Option Table :=
  within true
    (fun t =>
      if (t.made == .dotted) == path.isEmpty || (t.entries.lookup key).isSome then none
      else some (t.put key item))
    path t

/-- Open the section of a table. -/
def openTable (path : List String) (key : String) (t : Table) : Option Table :=
  within false
    (fun t =>
      match t.entries.lookup key with
      | none => some (t.put key (.table .header []))
      | some (.table .implied entries) => some (t.put key (.table .header entries))
      | some _ => none)
    path t

/-- Open the section of a further table of a list. -/
def openFurther (path : List String) (key : String) (t : Table) : Option Table :=
  within false
    (fun t =>
      match t.entries.lookup key with
      | none => some (t.put key (.tables [[]]))
      | some (.tables each) => some (t.put key (.tables (each ++ [[]])))
      | some _ => none)
    path t

end Table

/-!
## Words of TOML

Values without quotes: truth values, integers of 64 bits in four bases, numbers with a
fraction, dates and times.
-/

open FormScaffold.Decimal

/-- Digits of a base, with single low lines between them. -/
def digits? (base : Nat) (cs : List Char) : Option (List Char) :=
  let parts := (String.ofList cs).splitOn "_"
  let isDigit := fun c => (Yaml.digitValue? c).any (· < base)
  if parts.all fun p => p != "" && p.toList.all isDigit then some (String.join parts).toList
  else none

/-- Decimal digits without a leading zero. -/
def wholeDigits? (cs : List Char) : Option (List Char) :=
  (digits? 10 cs).bind fun ds => if 1 < ds.length && ds.head? == some '0' then none else some ds

/-- An integer of 64 bits. -/
def integer? (cs : List Char) : Option Int :=
  let read : Option Int :=
    match cs with
    | '0' :: 'x' :: ds => ((digits? 16 ds).bind (Yaml.valueInBase? 16)).map fun n => (n : Int)
    | '0' :: 'o' :: ds => ((digits? 8 ds).bind (Yaml.valueInBase? 8)).map fun n => (n : Int)
    | '0' :: 'b' :: ds => ((digits? 2 ds).bind (Yaml.valueInBase? 2)).map fun n => (n : Int)
    | _ =>
        let (negative, ds) := takeSign cs
        (wholeDigits? ds).map fun ds =>
          let n : Int := digitsValue ds
          if negative then -n else n
  read.bind fun n => if -(Nat.pow 2 63 : Int) ≤ n && n < Nat.pow 2 63 then some n else none

/-- A number with a fraction or an exponent.  One that is too great is refused; one that is
too small counts as infinite. -/
def float? (cs : List Char) : Option (Option Binary64) :=
  let (negative, rest) := takeSign cs
  if ["inf".toList, "nan".toList].contains rest then some none
  else
    let isMark := fun c => c == 'e' || c == 'E'
    let mantissa := rest.takeWhile fun c => !isMark c
    let exponent := rest.dropWhile fun c => !isMark c
    let whole := mantissa.takeWhile (· != '.')
    let decimals := mantissa.dropWhile (· != '.')
    let wholeOk := (wholeDigits? whole).isSome
    let decimalsOk := decimals.isEmpty || (digits? 10 (decimals.drop 1)).isSome
    let exponentOk := exponent.isEmpty || (digits? 10 (takeSign (exponent.drop 1)).2).isSome
    if !wholeOk || !decimalsOk || !exponentOk || (decimals.isEmpty && exponent.isEmpty) then none
    else
      match floatOfText? (cs.filter (· != '_')) with
      | some (some x) => some (some x)
      | some none => if negative then some none else none
      | none => none

/-- The text has the form of a pattern, where `d` stands for a digit. -/
def hasForm (pattern : String) (cs : List Char) : Bool :=
  pattern.length == cs.length
    && (pattern.toList.zip cs).all fun (p, c) => if p == 'd' then c.isDigit else p == c

/-- Number of days of a month. -/
def daysOf (year month : Nat) : Nat :=
  if month == 2 then if year % 4 == 0 && (year % 100 != 0 || year % 400 == 0) then 29 else 28
  else if [4, 6, 9, 11].contains month then 30
  else 31

/-- A date. -/
def isDate (cs : List Char) : Bool :=
  hasForm "dddd-dd-dd" cs &&
    let year := digitsValue (cs.take 4)
    let month := digitsValue ((cs.drop 5).take 2)
    let day := digitsValue (cs.drop 8)
    1 ≤ month && month ≤ 12 && 1 ≤ day && day ≤ daysOf year month

/-- A time of day, perhaps with decimals of the second. -/
def isClock (cs : List Char) : Bool :=
  let decimals := cs.drop 8
  hasForm "dd:dd:dd" (cs.take 8)
    && digitsValue (cs.take 2) ≤ 23
    && digitsValue ((cs.drop 3).take 2) ≤ 59
    && digitsValue ((cs.drop 6).take 2) ≤ 60
    && (decimals.isEmpty
      || (decimals.head? == some '.' && 1 < decimals.length && (decimals.drop 1).all Char.isDigit))

/-- An offset from universal time. -/
def isOffset (cs : List Char) : Bool :=
  cs == ['Z'] || cs == ['z']
    || (hasForm "dd:dd" (cs.drop 1) && (cs.head? == some '+' || cs.head? == some '-')
      && digitsValue ((cs.drop 1).take 2) ≤ 23 && digitsValue (cs.drop 4) ≤ 59)

/-- A date, a time or both. -/
def isMoment (cs : List Char) : Bool :=
  if isDate cs || isClock cs then true
  else
    let between := (cs.drop 10).head?
    let time := cs.drop 11
    let clock := time.takeWhile fun c => c.isDigit || c == ':' || c == '.'
    let offset := time.drop clock.length
    isDate (cs.take 10) && [some 'T', some 't', some ' '].contains between && isClock clock
      && (offset.isEmpty || isOffset offset)

/-- A character of a word. -/
def isWordChar (c : Char) : Bool := c.isAlphanum || ['_', '-', '+', '.', ':'].contains c

/-- The word at the start of a text.  A blank may part a date from a time. -/
def wordAt (cs : List Char) : List Char × List Char :=
  let word := cs.takeWhile isWordChar
  let rest := cs.dropWhile isWordChar
  match rest with
  | ' ' :: a :: b :: ':' :: _ =>
      if isDate word && a.isDigit && b.isDigit then
        let time := (rest.drop 1).takeWhile isWordChar
        (word ++ ' ' :: time, (rest.drop 1).dropWhile isWordChar)
      else (word, rest)
  | _ => (word, rest)

/-- The value of a word. -/
def ofWord? (cs : List Char) : Option Item :=
  if cs == "true".toList then some (.bool true)
  else if cs == "false".toList then some (.bool false)
  else
    match integer? cs, float? cs with
    | some n, _ => some (.integer n)
    | none, some x => some (.float x)
    | none, none => if isMoment cs then some (.moment (String.ofList cs)) else none

end FormScaffold.Toml
