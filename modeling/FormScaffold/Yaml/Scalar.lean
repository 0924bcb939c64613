import FormScaffold.Json.Reader

/-!
# Scalars of YAML

A scalar is plain, in quotes, or a block of lines.  Line breaks in plain and quoted
scalars fold: one becomes a blank, and of several the first is dropped.
-/

namespace FormScaffold.Yaml

/-!
## Positions in a YAML text

A cursor is the rest of a text with the column at which it starts.  Between the parts
of a text there may be gaps of blanks, line breaks and comments.  All line breaks are
single characters here.
-/

/-- The rest of a text and its column. -/
structure Cursor where
  col : Nat
  rest : List Char

/-- A blank within a line. -/
def isBlank (c : Char) : Bool := c == ' ' || c == '\t'

/-- The text ends here, or goes on with a blank or a line break. -/
def atBlank : List Char → Bool
  | [] => true
  | c :: _ => isBlank c || c == '\n'

/-- Line breaks of two characters and of the other kind as single ones. -/
def unifiedBreaks : List Char → List Char
  | [] => []
  | '\r' :: '\n' :: cs => '\n' :: unifiedBreaks cs
  | '\r' :: cs => '\n' :: unifiedBreaks cs
  | c :: cs => c :: unifiedBreaks cs

/-- A character that may stand in a text. -/
def isAllowed (c : Char) : Bool :=
  let n := c.toNat
  n == 0x9 || n == 0xA || n == 0xD || n == 0x85 || (decide (0x20 ≤ n) && decide (n ≤ 0x7E))
    || (decide (0xA0 ≤ n) && decide (n ≤ 0xFFFD) && n != 0xFEFF) || decide (0x10000 ≤ n)

namespace Cursor

/-- The column after a character. -/
def columnAfter (col : Nat) (c : Char) : Nat := if c == '\n' then 0 else col + 1

/-- Move on to a later rest of the same text. -/
def moveTo (c : Cursor) (rest : List Char) : Cursor :=
  ⟨(c.rest.take (c.rest.length - rest.length)).foldl columnAfter c.col, rest⟩

/-- Move over one character. -/
def step (c : Cursor) : Cursor := c.moveTo (c.rest.drop 1)

/-- Move over blanks. -/
def skipBlanks (c : Cursor) : Cursor := c.moveTo (c.rest.dropWhile isBlank)

/-- A line break lies between the cursor and a later one. -/
def breaksBefore (c : Cursor) (later : Cursor) : Bool :=
  (c.rest.take (c.rest.length - later.rest.length)).contains '\n'

/-- The line of the cursor starts with a mark of three characters. -/
def atMark (mark : Char) (c : Cursor) : Bool :=
  c.col == 0 &&
    match c.rest with
    | x :: y :: z :: rest => x == mark && y == mark && z == mark && atBlank rest
    | _ => false

/-- A mark of the start or the end of a document stands here. -/
def atDocumentMark (c : Cursor) : Bool := c.atMark '-' || c.atMark '.'

/-- Nothing of the document is left. -/
def atEnd (c : Cursor) : Bool := c.rest.isEmpty || c.atDocumentMark

/-- An entry of a block sequence starts here. -/
def atDash (c : Cursor) : Bool :=
  match c.rest with
  | '-' :: rest => atBlank rest
  | _ => false

end Cursor

/-- A gap: where it ends, and whether it has a line break and a tab after one. -/
structure Gap where
  cursor : Cursor
  crossed : Bool
  tabbed : Bool

/-- The gap that starts here, with the parts that a line break was met, that a tab
followed one, and that a comment runs. -/
def gapFrom (crossed tabbed inComment : Bool) (col : Nat) : List Char → Gap
  | [] => ⟨⟨col, []⟩, crossed, tabbed⟩
  | c :: cs =>
      if c == '\n' then gapFrom true tabbed false 0 cs
      else if inComment then gapFrom crossed tabbed true (col + 1) cs
      else if isBlank c then gapFrom crossed (tabbed || (crossed && c == '\t')) false (col + 1) cs
      else if c == '#' then gapFrom crossed tabbed true (col + 1) cs
      else ⟨⟨col, c :: cs⟩, crossed, tabbed⟩

/-- The gap after a part of a text. -/
def Cursor.gap (c : Cursor) : Gap := gapFrom false false false c.col c.rest

/-! ## Scalars of YAML -/

/-- What a number of line breaks in a row folds to. -/
def foldedBreaks (n : Nat) : List Char := if n ≤ 1 then [' '] else List.replicate (n - 1) '\n'

/-- Blanks and line breaks at the start of a text: how many breaks, and the rest. -/
def breaksAtStart : List Char → Nat × List Char
  | [] => (0, [])
  | c :: cs =>
      if c == '\n' then
        let (n, rest) := breaksAtStart cs
        (n + 1, rest)
      else if isBlank c then
        let (n, rest) := breaksAtStart cs
        (n, rest)
      else (0, c :: cs)

/-- Characters that end a plain scalar in a flow collection. -/
def isFlowMark (c : Char) : Bool := [',', '[', ']', '{', '}'].contains c

/-- A character that may not follow a colon within a plain scalar of a flow collection. -/
def isColonEnd (c : Char) : Bool := isFlowMark c || c == '?'

/-- The characters of a plain scalar on one line, with blanks at the end. -/
def plainChars (inFlow afterBlank : Bool) : List Char → List Char × List Char
  | [] => ([], [])
  | c :: cs =>
      let stops :=
        c == '\n' || (c == '#' && afterBlank) || (inFlow && isFlowMark c)
          || (c == ':' && (atBlank cs || (inFlow && cs.head?.any isColonEnd)))
      if stops then ([], c :: cs)
      else
        let (more, rest) := plainChars inFlow (isBlank c) cs
        (c :: more, rest)

/-- Drop the blanks at the end. -/
def withoutBlanksAtEnd (cs : List Char) : List Char := (cs.reverse.dropWhile isBlank).reverse

/-- Characters that start no plain scalar. -/
def isIndicator (c : Char) : Bool :=
  isFlowMark c
    || ['-', '?', ':', '#', '&', '*', '!', '|', '>', '\'', '"', '%', '@', Char.ofNat 96].contains c

/-- A plain scalar may start here. -/
def startsPlain (inFlow : Bool) (cs : List Char) : Bool :=
  match cs with
  | [] => false
  | c :: rest =>
      if c == '-' then !atBlank rest
      else if c == '?' || c == ':' then !inFlow && !atBlank rest
      else !isIndicator c && !isBlank c && c != '\n'

/-- Further lines of a plain scalar whose lines start at a least column. -/
def plainLines (inFlow : Bool) (least : Nat) : Nat → Cursor → List Char × Cursor
  | 0, c => ([], c)
  | n + 1, c =>
      let (breaks, rest) := breaksAtStart c.rest
      let next := c.moveTo rest
      match rest with
      | [] => ([], c)
      | x :: _ =>
          if breaks == 0 || x == '#' || next.atDocumentMark || (!inFlow && next.col < least) then
            ([], c)
          else
            match plainChars inFlow false rest with
            | ([], _) => ([], c)
            | (word, after) =>
                let (more, final) := plainLines inFlow least n (next.moveTo after)
                (foldedBreaks breaks ++ withoutBlanksAtEnd word ++ more, final)

/-- A plain scalar. -/
def plain? (inFlow : Bool) (least : Nat) (c : Cursor) : Option (String × Cursor) :=
  if startsPlain inFlow c.rest then
    let (word, rest) := plainChars inFlow false c.rest
    let (more, final) := plainLines inFlow least c.rest.length (c.moveTo rest)
    some (String.ofList (withoutBlanksAtEnd word ++ more), final)
  else none

/-- A plain scalar on one line. -/
def plainKey? (inFlow : Bool) (c : Cursor) : Option (String × Cursor) :=
  if startsPlain inFlow c.rest then
    let (word, rest) := plainChars inFlow false c.rest
    some (String.ofList (withoutBlanksAtEnd word), c.moveTo rest)
  else none

/-- The rest of a scalar in single quotes, with a bound on its length.  Blanks are held
back until it is known that no line break follows them. -/
def singleQuoted : Nat → List Char → List Char → Option (List Char × List Char)
  | 0, _, _ => none
  | _ + 1, _, [] => none
  | n + 1, held, '\'' :: '\'' :: cs =>
      (singleQuoted n [] cs).map fun (more, rest) => (held ++ '\'' :: more, rest)
  | _ + 1, held, '\'' :: cs => some (held, cs)
  | n + 1, held, c :: cs =>
      if c == '\n' then
        let (breaks, rest) := breaksAtStart (c :: cs)
        (singleQuoted n [] rest).map fun (more, rest) => (foldedBreaks breaks ++ more, rest)
      else if isBlank c then singleQuoted n (held ++ [c]) cs
      else (singleQuoted n [] cs).map fun (more, rest) => (held ++ c :: more, rest)

/-- The character that a letter after a backslash stands for. -/
def escape? : Char → Option Char
  | '0' => some (Char.ofNat 0)
  | 'a' => some (Char.ofNat 7)
  | 'b' => some (Char.ofNat 8)
  | 't' => some '\t'
  | '\t' => some '\t'
  | 'n' => some '\n'
  | 'v' => some (Char.ofNat 11)
  | 'f' => some (Char.ofNat 12)
  | 'r' => some '\r'
  | 'e' => some (Char.ofNat 27)
  | ' ' => some ' '
  | '"' => some '"'
  | '/' => some '/'
  | '\\' => some '\\'
  | 'N' => some (Char.ofNat 0x85)
  | '_' => some (Char.ofNat 0xA0)
  | 'L' => some (Char.ofNat 0x2028)
  | 'P' => some (Char.ofNat 0x2029)
  | _ => none

/-- How many hexadecimal digits follow a letter after a backslash. -/
def escapeDigits? : Char → Option Nat
  | 'x' => some 2
  | 'u' => some 4
  | 'U' => some 8
  | _ => none

/-- The character with a code point in hexadecimal digits. -/
def codeChar? (digits : List Char) : Option Char :=
  match digits.foldlM (fun n d => (Json.hexValue? d).map fun v => n * 16 + v) 0 with
  | none => none
  | some n => if n < 0x110000 && !(0xD800 ≤ n && n < 0xE000) then some (Char.ofNat n) else none

/-- The rest of a scalar in double quotes, with a bound on its length. -/
def doubleQuoted : Nat → List Char → List Char → Option (List Char × List Char)
  | 0, _, _ => none
  | _ + 1, _, [] => none
  | _ + 1, held, '"' :: cs => some (held, cs)
  | n + 1, held, '\\' :: '\n' :: cs =>
      let (breaks, rest) := breaksAtStart cs
      (doubleQuoted n [] rest).map fun (more, rest) =>
        (held ++ List.replicate breaks '\n' ++ more, rest)
  | n + 1, held, '\\' :: e :: cs =>
      match escape? e, escapeDigits? e with
      | some c, _ => (doubleQuoted n [] cs).map fun (more, rest) => (held ++ c :: more, rest)
      | none, some k =>
          if (cs.take k).length < k then none
          else
            match codeChar? (cs.take k) with
            | none => none
            | some c =>
                (doubleQuoted n [] (cs.drop k)).map fun (more, rest) => (held ++ c :: more, rest)
      | none, none => none
  | n + 1, held, c :: cs =>
      if c == '\n' then
        let (breaks, rest) := breaksAtStart (c :: cs)
        (doubleQuoted n [] rest).map fun (more, rest) => (foldedBreaks breaks ++ more, rest)
      else if isBlank c then doubleQuoted n (held ++ [c]) cs
      else (doubleQuoted n [] cs).map fun (more, rest) => (held ++ c :: more, rest)

/-- A scalar in quotes. -/
def quoted? (c : Cursor) : Option (String × Cursor) :=
  match c.rest with
  | '\'' :: cs =>
      (singleQuoted (cs.length + 1) [] cs).map fun (w, rest) => (String.ofList w, c.moveTo rest)
  | '"' :: cs =>
      (doubleQuoted (cs.length + 1) [] cs).map fun (w, rest) => (String.ofList w, c.moveTo rest)
  | _ => none

/-- What happens to the line breaks at the end of a block scalar. -/
inductive Chomping where
  | strip
  | clip
  | keep
  deriving DecidableEq

/-- The head of a block scalar: its chomping and the depth of its indentation. -/
structure BlockHead where
  folded : Bool
  chomping : Chomping
  depth : Option Nat

/-- A sign of the chomping of a block scalar. -/
def chomping? : Char → Option Chomping
  | '-' => some .strip
  | '+' => some .keep
  | _ => none

/-- A sign of the depth of a block scalar. -/
def depth? (c : Char) : Option Nat := if '1' ≤ c && c ≤ '9' then some (c.toNat - 48) else none

/-- The head of a block scalar from the signs after its first character: one for the
chomping and one for the depth, in any order. -/
def blockHead (folded : Bool) (cs : List Char) : BlockHead × List Char :=
  match cs with
  | [] => (⟨folded, .clip, none⟩, [])
  | c :: rest =>
      match chomping? c, depth? c with
      | some h, _ =>
          match rest with
          | d :: more =>
              match depth? d with
              | some n => (⟨folded, h, some n⟩, more)
              | none => (⟨folded, h, none⟩, rest)
          | [] => (⟨folded, h, none⟩, [])
      | none, some n =>
          match rest with
          | d :: more =>
              match chomping? d with
              | some h => (⟨folded, h, some n⟩, more)
              | none => (⟨folded, .clip, some n⟩, rest)
          | [] => (⟨folded, .clip, some n⟩, [])
      | none, none => (⟨folded, .clip, none⟩, cs)

/-- Lines of a text, with whether the last one has a break at its end. -/
def splitLines : List Char → List (List Char)
  | [] => [[]]
  | c :: cs =>
      if c == '\n' then [] :: splitLines cs
      else
        match splitLines cs with
        | line :: more => (c :: line) :: more
        | [] => [[c]]

/-- Number of blanks at the start of a line. -/
def depthOf (line : List Char) : Nat := (line.takeWhile (· == ' ')).length

/-- The line has nothing but blanks. -/
def isEmptyLine (line : List Char) : Bool := line.all (· == ' ')

/-- The column at which the lines of a block scalar start, unless its head tells. -/
def detectedColumn (least : Nat) : Nat → List (List Char) → Nat
  | deepest, [] => max deepest (max least 1)
  | deepest, line :: rest =>
      if isEmptyLine line then detectedColumn least (max deepest line.length) rest
      else max (max deepest (depthOf line)) (max least 1)

/-- The lines of a block scalar without their indentation, and how many there are.  An
empty line is given as none. -/
def blockLines (column : Nat) : List (List Char) → List (Option (List Char))
  | [] => []
  | line :: rest =>
      if line.length ≤ column && isEmptyLine line then none :: blockLines column rest
      else if depthOf line < column then []
      else some (line.drop column) :: blockLines column rest

/-- The text of the lines of a block scalar, and the line breaks at its end.  The first
argument tells whether a line came before and whether it started with a blank. -/
def joinedLines (folded : Bool) : Option Bool → Nat → List (Option (List Char)) → List Char × Nat
  | _, breaks, [] => ([], breaks)
  | before, breaks, none :: rest => joinedLines folded before (breaks + 1) rest
  | before, breaks, some line :: rest =>
      let startsBlank := (line.head?.map isBlank).getD false
      let lead :=
        match before with
        | none => List.replicate breaks '\n'
        | some beforeBlank =>
            if folded && !beforeBlank && !startsBlank then
              if breaks == 0 then [' '] else List.replicate breaks '\n'
            else List.replicate (breaks + 1) '\n'
      let (more, atEnd) := joinedLines folded (some startsBlank) 0 rest
      (lead ++ line ++ more, atEnd)

/-- A block scalar whose lines start at a least column. -/
def blockScalar? (least : Nat) (c : Cursor) : Option (String × Cursor) :=
  match c.rest with
  | [] => none
  | mark :: signs =>
      let (head, after) := blockHead (mark == '>') signs
      let afterBlanks := after.dropWhile isBlank
      let comment := afterBlanks.head? == some '#' && afterBlanks.length < after.length
      let lineEnd := if comment then afterBlanks.dropWhile (· != '\n') else afterBlanks
      match lineEnd with
      | x :: body =>
          if x != '\n' then none
          else
            let lines := splitLines body
            let ended := lines.dropLast
            let last := lines.getLast?.getD []
            let all := if last.isEmpty then ended else ended ++ [last]
            let column :=
              match head.depth with
              | some d => least - 1 + d
              | none => detectedColumn least 0 all
            let taken := blockLines column all
            let (text, breaks) := joinedLines head.folded none 0 taken
            let used := ((all.take taken.length).map fun l => l.length + 1).foldl (· + ·) 0
            let hasText := taken.any Option.isSome
            let reachesEnd := taken.length == all.length && !last.isEmpty
            let openEnd := reachesEnd && (taken.getLast?.getD none).isSome
            let ownBreak := if hasText && !openEnd then 1 else 0
            let final :=
              match head.chomping with
              | .strip => []
              | .clip => List.replicate ownBreak '\n'
              | .keep => List.replicate (ownBreak + breaks) '\n'
            some (String.ofList (text ++ final), ⟨0, body.drop used⟩)
      | [] => some ("", ⟨0, []⟩)

end FormScaffold.Yaml
