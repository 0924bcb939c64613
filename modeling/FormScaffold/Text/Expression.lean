import FormScaffold.Text.Casing
import FormScaffold.Text.ClusterTable
import FormScaffold.Text.Letter
import FormScaffold.Text.Blank

/-!
# Regular expressions

An expression is read from its usual notation.  Matching follows all ways at once: from
a set of positions of a text, an expression leads to the set of positions where a match
may end.
-/

namespace FormScaffold.Text

/-- A class of characters. -/
abbrev CharClass := Char → Bool

/-- A condition on a position. -/
inductive Anchor where
  | textStart
  | textEnd
  | lineStart
  | lineEnd
  | wordEdge
  | noWordEdge
  deriving DecidableEq

/-- A regular expression. -/
inductive Expression where
  | empty
  | one (p : CharClass)
  | anchor (a : Anchor)
  | both (first second : Expression)
  | either (first second : Expression)
  | many (e : Expression)

/-- A position in a text: the character before it, and the rest. -/
structure Position where
  before : Option Char
  rest : List Char

/-- A character of words. -/
def isWordLetter (c : Char) : Bool :=
  isAlphanumeric c || c == '_' || CodeRun.anyCovers extendRuns c.toNat

/-- A decimal digit of ASCII. -/
def isDecimalDigit (c : Char) : Bool := c.isDigit

namespace Anchor

/-- The condition holds at a position. -/
def holds (a : Anchor) (p : Position) : Bool :=
  let wordBefore := (p.before.map isWordLetter).getD false
  let wordAfter := (p.rest.head?.map isWordLetter).getD false
  match a with
  | .textStart => p.before.isNone
  | .textEnd => p.rest.isEmpty
  | .lineStart => p.before.isNone || p.before == some '\n'
  | .lineEnd => p.rest.isEmpty || p.rest.head? == some '\n'
  | .wordEdge => wordBefore != wordAfter
  | .noWordEdge => wordBefore == wordAfter

end Anchor

/-- Positions without those whose rest is as long as that of one before. -/
def distinctPositions (ps : List Position) : List Position :=
  ps.foldl (fun seen p =>
    if seen.any fun q => q.rest.length == p.rest.length then seen else seen ++ [p]) []

/-- The positions that repeated steps lead to, with a bound on the number of steps. -/
def closure (step : List Position → List Position) : Nat → List Position → List Position
  | 0, ps => ps
  | n + 1, ps =>
      let next := distinctPositions (ps ++ step ps)
      if next.length == ps.length then ps else closure step n next

namespace Expression

/-- The positions at which a match from one of some positions may end. -/
def ends : Expression → List Position → List Position
  | .empty, ps => ps
  | .one p, ps =>
      ps.filterMap fun q =>
        match q.rest with
        | c :: rest => if p c then some ⟨some c, rest⟩ else none
        | [] => none
  | .anchor a, ps => ps.filter a.holds
  | .both e f, ps => f.ends (distinctPositions (e.ends ps))
  | .either e f, ps => distinctPositions (e.ends ps ++ f.ends ps)
  | .many e, ps =>
      closure e.ends (ps.foldl (fun n p => max n p.rest.length) 0 + 1) (distinctPositions ps)

/-- All positions of a text. -/
def positionsFrom (before : Option Char) : List Char → List Position
  | [] => [⟨before, []⟩]
  | c :: cs => ⟨before, c :: cs⟩ :: positionsFrom (some c) cs

/-- A match occurs somewhere in a text. -/
def occursIn (e : Expression) (cs : List Char) : Bool := !(e.ends (positionsFrom none cs)).isEmpty

/-- An expression a number of times in a row. -/
def times (e : Expression) : Nat → Expression
  | 0 => .empty
  | n + 1 => .both e (e.times n)

/-- An expression at most a number of times in a row. -/
def upTo (e : Expression) : Nat → Expression
  | 0 => .empty
  | n + 1 => .either .empty (.both e (e.upTo n))

/-- What changes the meaning of the notation. -/
structure Flags where
  anyCase : Bool
  dotAll : Bool
  multiLine : Bool

/-- A class, also for the other case of a character if the case does not count. -/
def folded (f : Flags) (p : CharClass) : CharClass := fun c =>
  if f.anyCase then p c || (lowerChars c).any p || (upperChars c).any p else p c

/-- The class that a letter after a backslash stands for. -/
def classEscape? : Char → Option CharClass
  | 'd' => some isDecimalDigit
  | 'D' => some fun c => !isDecimalDigit c
  | 'w' => some isWordLetter
  | 'W' => some fun c => !isWordLetter c
  | 's' => some isBlank
  | 'S' => some fun c => !isBlank c
  | _ => none

/-- The character that a letter after a backslash stands for. -/
def charEscape? : Char → Option Char
  | 'n' => some '\n'
  | 't' => some '\t'
  | 'r' => some '\r'
  | 'f' => some (Char.ofNat 12)
  | 'v' => some (Char.ofNat 11)
  | 'a' => some (Char.ofNat 7)
  | c => if c.isAlphanum || 128 ≤ c.toNat || isBlank c then none else some c

/-- The condition that a letter after a backslash stands for. -/
def anchorEscape? : Char → Option Anchor
  | 'b' => some .wordEdge
  | 'B' => some .noWordEdge
  | 'A' => some .textStart
  | 'z' => some .textEnd
  | _ => none

/-- A class by its name between colons. -/
def namedClass? (name : String) : Option CharClass :=
  match name with
  | "alpha" => some Char.isAlpha
  | "digit" => some Char.isDigit
  | "alnum" => some Char.isAlphanum
  | "upper" => some Char.isUpper
  | "lower" => some Char.isLower
  | "space" => some fun c => c == ' ' || decide (9 ≤ c.toNat && c.toNat ≤ 13)
  | "punct" => some fun c =>
      decide (33 ≤ c.toNat && c.toNat ≤ 126) && !c.isAlphanum
  | "xdigit" => some fun c =>
      c.isDigit || decide ('a' ≤ c && c ≤ 'f') || decide ('A' ≤ c && c ≤ 'F')
  | "word" => some fun c => c.isAlphanum || c == '_'
  | _ => none

/-- One character of a class in brackets. -/
def bracketChar? : List Char → Option (Char × List Char)
  | '\\' :: c :: rest => (charEscape? c).map fun d => (d, rest)
  | c :: rest => some (c, rest)
  | [] => none

/-- The members of a class in brackets, up to its end, with a bound on their number. -/
def bracketFrom : Nat → Bool → CharClass → List Char → Option (CharClass × List Char)
  | 0, _, _, _ => none
  | _ + 1, false, p, ']' :: rest => some (p, rest)
  | n + 1, _, p, '[' :: ':' :: rest =>
      let name := rest.takeWhile (· != ':')
      match rest.dropWhile (· != ':') with
      | ':' :: ']' :: rest =>
          match namedClass? (String.ofList name) with
          | some q => bracketFrom n false (fun c => p c || q c) rest
          | none => none
      | _ => none
  | n + 1, _, p, cs =>
      match (match cs with
        | '\\' :: c :: rest => (classEscape? c).map fun q => (q, rest)
        | _ => none) with
      | some (q, rest) => bracketFrom n false (fun c => p c || q c) rest
      | none =>
          match bracketChar? cs with
          | none => none
          | some (low, '-' :: rest) =>
              match rest with
              | ']' :: _ => bracketFrom n false (fun c => p c || c == low) ('-' :: rest)
              | _ =>
                  match bracketChar? rest with
                  | none => none
                  | some (high, rest) =>
                      if high < low then none
                      else bracketFrom n false (fun c => p c || decide (low ≤ c && c ≤ high)) rest
          | some (low, rest) => bracketFrom n false (fun c => p c || c == low) rest

/-- A class in brackets, after the opening one. -/
def bracket? (cs : List Char) : Option (CharClass × List Char) :=
  let (negated, cs) :=
    match cs with
    | '^' :: rest => (true, rest)
    | _ => (false, cs)
  (bracketFrom (cs.length + 1) true (fun _ => false) cs).map fun (p, rest) =>
    (if negated then fun c => !p c else p, rest)

/-- A natural number. -/
def count? (cs : List Char) : Option (Nat × List Char) :=
  let ds := cs.takeWhile Char.isDigit
  if ds.isEmpty then none
  else some (ds.foldl (fun n c => n * 10 + (c.toNat - 48)) 0, cs.dropWhile Char.isDigit)

/-- Most repetitions that a count may ask for. -/
def mostRepeats : Nat := 1000

/-- What a repetition sign makes of an expression. -/
def repeated? (e : Expression) (cs : List Char) : Option (Option Expression × List Char) :=
  match cs with
  | '*' :: rest => some (some (.many e), rest)
  | '+' :: rest => some (some (.both e (.many e)), rest)
  | '?' :: rest => some (some (.either .empty e), rest)
  | '{' :: rest =>
      match count? rest with
      | none => some (none, rest)
      | some (low, '}' :: rest) => some (if low ≤ mostRepeats then some (e.times low) else none, rest)
      | some (low, ',' :: '}' :: rest) =>
          some (if low ≤ mostRepeats then some (.both (e.times low) (.many e)) else none, rest)
      | some (low, ',' :: rest) =>
          match count? rest with
          | some (high, '}' :: rest) =>
              some (if low ≤ high && high ≤ mostRepeats then
                  some (.both (e.times low) (e.upTo (high - low)))
                else none, rest)
          | _ => some (none, rest)
      | some (_, rest) => some (none, rest)
  | _ => none

/-- Repetition signs after an expression, with a bound on their number. -/
def repeatedFrom : Nat → Expression → List Char → Option (Expression × List Char)
  | 0, e, cs => some (e, cs)
  | n + 1, e, cs =>
      match repeated? e cs with
      | none => some (e, cs)
      | some (none, _) => none
      | some (some e, '?' :: rest) => repeatedFrom n e rest
      | some (some e, rest) => repeatedFrom n e rest

/-- Flags by their letters, up to a colon or a closing parenthesis. -/
def flagsFrom (on : Bool) (f : Flags) : List Char → Option (Flags × Bool × List Char)
  | ')' :: rest => some (f, false, rest)
  | ':' :: rest => some (f, true, rest)
  | '-' :: rest => flagsFrom false f rest
  | 'i' :: rest => flagsFrom on { f with anyCase := on } rest
  | 's' :: rest => flagsFrom on { f with dotAll := on } rest
  | 'm' :: rest => flagsFrom on { f with multiLine := on } rest
  | _ => none

/-- The rest after a closing angle. -/
def afterAngle? (cs : List Char) : Option (List Char) :=
  match cs.dropWhile (· != '>') with
  | _ :: rest => some rest
  | [] => none

/-- The rest after the name of a group, or after the colon of a group without flags. -/
def afterGroupName? (cs : List Char) : Option (List Char) :=
  match cs with
  | ':' :: rest => some rest
  | 'P' :: '<' :: rest => afterAngle? rest
  | '<' :: rest => afterAngle? rest
  | _ => none

/-- An expression of one character or condition. -/
def atom? (f : Flags) (cs : List Char) : Option (Expression × List Char) :=
  match cs with
  | [] => none
  | '.' :: rest => some (.one fun c => f.dotAll || c != '\n', rest)
  | '^' :: rest => some (.anchor (if f.multiLine then .lineStart else .textStart), rest)
  | '$' :: rest => some (.anchor (if f.multiLine then .lineEnd else .textEnd), rest)
  | '[' :: rest => (bracket? rest).map fun (p, rest) => (.one (folded f p), rest)
  | '\\' :: c :: rest =>
      match classEscape? c, anchorEscape? c, charEscape? c with
      | some p, _, _ => some (.one p, rest)
      | none, some a, _ => some (.anchor a, rest)
      | none, none, some d => some (.one (folded f (· == d)), rest)
      | none, none, none => none
  | c :: rest =>
      if ['*', '+', '?', '{', '\\'].contains c then none
      else some (.one (folded f (· == c)), rest)

mutual

/-- Alternatives between bars. -/
def alternatives? : Nat → Flags → List Char → Option (Expression × List Char)
  | 0, _, _ => none
  | n + 1, f, cs =>
      match sequence? n f .empty cs with
      | none => none
      | some (e, '|' :: rest) =>
          (alternatives? n f rest).map fun (more, rest) => (.either e more, rest)
      | some (e, rest) => some (e, rest)

/-- Expressions in a row, after those read so far. -/
def sequence? : Nat → Flags → Expression → List Char → Option (Expression × List Char)
  | 0, _, _, _ => none
  | _ + 1, _, e, [] => some (e, [])
  | _ + 1, _, e, '|' :: rest => some (e, '|' :: rest)
  | _ + 1, _, e, ')' :: rest => some (e, ')' :: rest)
  | n + 1, f, e, '(' :: '?' :: rest =>
      match afterGroupName? rest with
      | some rest => group? n f f e rest
      | none =>
          match flagsFrom true f rest with
          | some (g, true, rest) => group? n f g e rest
          | some (g, false, rest) => sequence? n g e rest
          | none => none
  | n + 1, f, e, '(' :: rest => group? n f f e rest
  | n + 1, f, e, cs =>
      match atom? f cs with
      | none => none
      | some (a, rest) =>
          match repeatedFrom rest.length a rest with
          | none => none
          | some (a, rest) => sequence? n f (.both e a) rest

/-- A group, after its opening, and what follows it. -/
def group? : Nat → Flags → Flags → Expression → List Char → Option (Expression × List Char)
  | 0, _, _, _, _ => none
  | n + 1, f, inner, e, cs =>
      match alternatives? n inner cs with
      | some (a, ')' :: rest) =>
          match repeatedFrom rest.length a rest with
          | none => none
          | some (a, rest) => sequence? n f (.both e a) rest
      | _ => none

end

/-- Read an expression. -/
def ofText? (cs : List Char) : Option Expression :=
  match alternatives? (4 * (cs.length + 1)) ⟨false, false, false⟩ cs with
  | some (e, []) => some e
  | _ => none

end Expression

end FormScaffold.Text
