import FormScaffold.Json.Value

/-!
# Reading JSON

A recursive reader on the rest of the text.  It gives a value and what follows it,
or the cause of failure.  Members of objects are kept in the order of the text,
repeated keys included.  Decimal numbers are read by one product or quotient of two
doubles: the leading digits that fit into 64 bits, and a power of ten.
-/

namespace FormScaffold.Json

open FormScaffold.Decimal

/-- Why a text is not a JSON document. -/
inductive ReadError where
  | endOfText
  | unexpected
  | invalidNumber
  | numberOutOfRange
  | invalidEscape
  | controlCharacter
  | tooDeep
  | trailing
  deriving DecidableEq, Repr

/-- A result of reading: a value and the rest of the text. -/
abbrev Reading (α : Type) := Except ReadError (α × List Char)

/-- The blanks of JSON. -/
def isSpace (c : Char) : Bool := c == ' ' || c == '\n' || c == '\t' || c == '\r'

/-- Skip blanks. -/
def skipSpace (cs : List Char) : List Char := cs.dropWhile isSpace

/-- Value of a decimal digit. -/
def digit? (c : Char) : Option Nat :=
  if '0' ≤ c && c ≤ '9' then some (c.toNat - 48) else none

/-- Value of a hexadecimal digit. -/
def hexValue? (c : Char) : Option Nat :=
  if '0' ≤ c && c ≤ '9' then some (c.toNat - 48)
  else if 'a' ≤ c && c ≤ 'f' then some (c.toNat - 87)
  else if 'A' ≤ c && c ≤ 'F' then some (c.toNat - 55)
  else none

/-- Four hexadecimal digits. -/
def readHex4 : List Char → Reading Nat
  | a :: b :: c :: d :: rest =>
      match hexValue? a, hexValue? b, hexValue? c, hexValue? d with
      | some a, some b, some c, some d => .ok (((a * 16 + b) * 16 + c) * 16 + d, rest)
      | _, _, _, _ => .error .invalidEscape
  | _ => .error .endOfText

/-- The unit is the first of a surrogate pair. -/
def isHighSurrogate (n : Nat) : Bool := decide (0xD800 ≤ n) && decide (n ≤ 0xDBFF)

/-- The unit is the second of a surrogate pair. -/
def isLowSurrogate (n : Nat) : Bool := decide (0xDC00 ≤ n) && decide (n ≤ 0xDFFF)

/-- The character after `\u`; a pair of surrogates stands for one character. -/
def readUnicode (cs : List Char) : Except ReadError (Char × List Char) := do
  let (high, rest) ← readHex4 cs
  if isLowSurrogate high then .error .invalidEscape
  else if isHighSurrogate high then
    match rest with
    | '\\' :: 'u' :: rest => do
        let (low, rest) ← readHex4 rest
        if isLowSurrogate low then
          .ok (Char.ofNat (0x10000 + (high - 0xD800) * 0x400 + (low - 0xDC00)), rest)
        else .error .invalidEscape
    | _ => .error .invalidEscape
  else .ok (Char.ofNat high, rest)

/-- The character that an escape stands for, from after its backslash. -/
def readEscape : List Char → Reading Char
  | '"' :: rest => .ok ('"', rest)
  | '\\' :: rest => .ok ('\\', rest)
  | '/' :: rest => .ok ('/', rest)
  | 'b' :: rest => .ok (Char.ofNat 8, rest)
  | 'f' :: rest => .ok (Char.ofNat 12, rest)
  | 'n' :: rest => .ok ('\n', rest)
  | 'r' :: rest => .ok ('\r', rest)
  | 't' :: rest => .ok ('\t', rest)
  | 'u' :: rest => readUnicode rest
  | [] => .error .endOfText
  | _ => .error .invalidEscape

/-- The rest of a text after its opening quote, with the characters so far reversed. -/
def readStringFrom : Nat → List Char → List Char → Reading String
  | 0, _, _ => .error .endOfText
  | fuel + 1, acc, cs =>
      match cs with
      | [] => .error .endOfText
      | '"' :: rest => .ok (String.ofList acc.reverse, rest)
      | '\\' :: rest =>
          match readEscape rest with
          | .ok (c, rest) => readStringFrom fuel (c :: acc) rest
          | .error e => .error e
      | c :: rest =>
          if c.toNat < 32 then .error .controlCharacter else readStringFrom fuel (c :: acc) rest

/-- A text from after its opening quote. -/
def readString (cs : List Char) : Reading String := readStringFrom (cs.length + 1) [] cs

/-- Bound of the significand that a number's digits are gathered in. -/
def significandLimit : Nat := Nat.pow 2 64

/-- Largest exponent text that is read to its end. -/
def exponentLimit : Nat := Nat.pow 2 31

/-- Gather digits while the significand stays below its limit: the significand, the
number of digits taken, and the rest. -/
def takeDigits (significand count : Nat) : List Char → Nat × Nat × List Char
  | [] => (significand, count, [])
  | c :: rest =>
      match digit? c with
      | none => (significand, count, c :: rest)
      | some d =>
          if significand * 10 + d < significandLimit then
            takeDigits (significand * 10 + d) (count + 1) rest
          else (significand, count, c :: rest)

/-- The digits at the start of a text: how many, and the rest. -/
def skipDigits (cs : List Char) : Nat × List Char :=
  ((cs.takeWhile fun c => (digit? c).isSome).length, cs.dropWhile fun c => (digit? c).isSome)

/-- The double nearest to a power of ten. -/
def powerOfTen (e : Nat) : Option Binary64 := Binary64.ofDecimal? false 1 e

/-- Scale a double by a negative power of ten, in steps the doubles can hold. -/
def scaleDown : Nat → Binary64 → Nat → Option Binary64
  | 0, x, _ => some x
  | fuel + 1, x, e =>
      if e ≤ 308 then (powerOfTen e).bind x.div?
      else if x.isZero then some x
      else
        match (powerOfTen 308).bind x.div? with
        | some y => scaleDown fuel y (e - 308)
        | none => none

/-- The double of a significand and a power of ten. -/
def scaled (negative : Bool) (significand : Nat) (exponent : Int) : Except ReadError Number :=
  let x := Binary64.ofInt significand
  let result : Option Binary64 :=
    match exponent with
    | .ofNat e =>
        if e ≤ 308 then (powerOfTen e).bind x.mul?
        else if x.isZero then some x
        else none
    | .negSucc e => scaleDown (e / 308 + 2) x (e + 1)
  match result with
  | some y => .ok (.float ⟨negative, y.code⟩)
  | none => .error .numberOutOfRange

/-- The exponent part, from after its `e`. -/
def readExponent (negative : Bool) (significand : Nat) (start : Int) (cs : List Char) :
    Reading Number :=
  let (down, cs) :=
    match cs with
    | '+' :: rest => (false, rest)
    | '-' :: rest => (true, rest)
    | _ => (false, cs)
  let (count, rest) := skipDigits cs
  if count == 0 then .error (if cs.isEmpty then .endOfText else .invalidNumber)
  else
    let e := (cs.take count).foldl (fun n c => n * 10 + (c.toNat - 48)) 0
    if exponentLimit ≤ e then
      if significand != 0 && !down then .error .numberOutOfRange
      else .ok (.float ⟨negative, 0⟩, rest)
    else
      match scaled negative significand (if down then start - e else start + e) with
      | .ok n => .ok (n, rest)
      | .error err => .error err

/-- What follows the digits of a number that is not an integer. -/
def readScale (negative : Bool) (significand : Nat) (exponent : Int) (cs : List Char) :
    Reading Number :=
  match cs with
  | 'e' :: rest => readExponent negative significand exponent rest
  | 'E' :: rest => readExponent negative significand exponent rest
  | _ =>
      match scaled negative significand exponent with
      | .ok n => .ok (n, cs)
      | .error err => .error err

/-- The digits after a decimal point. -/
def readFraction (negative : Bool) (significand : Nat) (exponent : Int) (cs : List Char) :
    Reading Number :=
  let (significand, count, rest) := takeDigits significand 0 cs
  let (more, rest) := skipDigits rest
  if count == 0 && more == 0 then .error (if rest.isEmpty then .endOfText else .invalidNumber)
  else readScale negative significand (exponent - count) rest

/-- The integer value of digits without point and exponent; what does not fit into
64 bits becomes a double, and so does a negative zero. -/
def integerOf (negative : Bool) (significand : Nat) : Number :=
  if negative then
    if significand == 0 || Nat.pow 2 63 < significand then
      .float ⟨true, (Binary64.ofInt significand).code⟩
    else .int (-significand)
  else .int significand

/-- A number from after its sign. -/
def readUnsigned (negative : Bool) (cs : List Char) : Reading Number :=
  match cs with
  | '0' :: rest =>
      match rest with
      | c :: _ =>
          if (digit? c).isSome then .error .invalidNumber
          else if c == '.' then readFraction negative 0 0 (rest.drop 1)
          else if c == 'e' || c == 'E' then readScale negative 0 0 rest
          else .ok (integerOf negative 0, rest)
      | [] => .ok (integerOf negative 0, [])
  | c :: _ =>
      if (digit? c).isSome then
        let (significand, _, rest) := takeDigits 0 0 cs
        let (extra, rest) := skipDigits rest
        match rest with
        | '.' :: tail => readFraction negative significand extra tail
        | _ =>
            if extra == 0 && !(rest.head? == some 'e' || rest.head? == some 'E') then
              .ok (integerOf negative significand, rest)
            else readScale negative significand extra rest
      else .error .invalidNumber
  | [] => .error .endOfText

/-- Depth of nesting that is refused. -/
def depthLimit : Nat := 128

/-- The text starts with a word; gives what follows it. -/
def stripWord? (word cs : List Char) : Option (List Char) :=
  if word.isPrefixOf cs then some (cs.drop word.length) else none

mutual

/-- A value at the start of the text.  `depth` is what remains of the nesting. -/
def readValue : Nat → Nat → List Char → Reading Value
  | 0, _, _ => .error .endOfText
  | fuel + 1, depth, cs =>
      match skipSpace cs with
      | [] => .error .endOfText
      | '"' :: rest =>
          match readString rest with
          | .ok (s, rest) => .ok (.string s, rest)
          | .error e => .error e
      | '[' :: rest =>
          if depth ≤ 1 then .error .tooDeep
          else
            match skipSpace rest with
            | ']' :: rest => .ok (.array [], rest)
            | rest => readItems fuel (depth - 1) [] rest
      | '{' :: rest =>
          if depth ≤ 1 then .error .tooDeep
          else
            match skipSpace rest with
            | '}' :: rest => .ok (.object [], rest)
            | rest => readMembers fuel (depth - 1) [] rest
      | '-' :: rest =>
          match readUnsigned true rest with
          | .ok (n, rest) => .ok (.number n, rest)
          | .error e => .error e
      | c :: rest =>
          if (digit? c).isSome then
            match readUnsigned false (c :: rest) with
            | .ok (n, rest) => .ok (.number n, rest)
            | .error e => .error e
          else
            match stripWord? ['n', 'u', 'l', 'l'] (c :: rest) with
            | some rest => .ok (.null, rest)
            | none =>
                match stripWord? ['t', 'r', 'u', 'e'] (c :: rest) with
                | some rest => .ok (.bool true, rest)
                | none =>
                    match stripWord? ['f', 'a', 'l', 's', 'e'] (c :: rest) with
                    | some rest => .ok (.bool false, rest)
                    | none => .error .unexpected

/-- The items of an array after its bracket, and its closing bracket. -/
def readItems : Nat → Nat → List Value → List Char → Reading Value
  | 0, _, _, _ => .error .endOfText
  | fuel + 1, depth, acc, cs =>
      match readValue fuel depth cs with
      | .error e => .error e
      | .ok (v, rest) =>
          match skipSpace rest with
          | ',' :: rest => readItems fuel depth (v :: acc) rest
          | ']' :: rest => .ok (.array (v :: acc).reverse, rest)
          | [] => .error .endOfText
          | _ => .error .unexpected

/-- The members of an object after its brace, and its closing brace. -/
def readMembers : Nat → Nat → List (String × Value) → List Char → Reading Value
  | 0, _, _, _ => .error .endOfText
  | fuel + 1, depth, acc, cs =>
      match skipSpace cs with
      | '"' :: rest =>
          match readString rest with
          | .error e => .error e
          | .ok (key, rest) =>
              match skipSpace rest with
              | ':' :: rest =>
                  match readValue fuel depth rest with
                  | .error e => .error e
                  | .ok (v, rest) =>
                      match skipSpace rest with
                      | ',' :: rest => readMembers fuel depth ((key, v) :: acc) rest
                      | '}' :: rest => .ok (.object ((key, v) :: acc).reverse, rest)
                      | [] => .error .endOfText
                      | _ => .error .unexpected
              | [] => .error .endOfText
              | _ => .error .unexpected
      | [] => .error .endOfText
      | _ => .error .unexpected

end

/-- Read a whole document. -/
def read (text : String) : Except ReadError Value :=
  let cs := text.toList
  match readValue (2 * cs.length + 2) depthLimit cs with
  | .error e => .error e
  | .ok (v, rest) => if (skipSpace rest).isEmpty then .ok v else .error .trailing

end FormScaffold.Json
