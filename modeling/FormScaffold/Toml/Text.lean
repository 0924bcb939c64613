import FormScaffold.Text.Search
import FormScaffold.Yaml.Scalar

/-!
# Texts and keys of TOML

Texts stand in quotes of two kinds, with escapes or without, on one line or on several.
A key is a bare word or a text; several keys with dots between them lead into tables.
-/

namespace FormScaffold.Toml

/-- A blank within a line. -/
def isBlank (c : Char) : Bool := c == ' ' || c == '\t'

/-- Drop blanks. -/
def skipBlanks (cs : List Char) : List Char := cs.dropWhile isBlank

/-- The rest after a line break. -/
def lineBreak? : List Char → Option (List Char)
  | '\n' :: cs => some cs
  | '\r' :: '\n' :: cs => some cs
  | _ => none

/-- A character that may stand in a text or a comment. -/
def isPrintable (c : Char) : Bool := c == '\t' || (decide (0x20 ≤ c.toNat) && c.toNat != 0x7F)

/-- Drop a comment. -/
def skipComment (cs : List Char) : List Char :=
  match cs with
  | '#' :: rest => rest.dropWhile isPrintable
  | _ => cs

/-- Drop blanks, line breaks and comments, with a bound on the steps. -/
def skipGap : Nat → List Char → List Char
  | 0, cs => cs
  | n + 1, cs =>
      let rest := skipComment (skipBlanks cs)
      match lineBreak? rest with
      | some rest => skipGap n rest
      | none => rest

/-- The character that a letter after a backslash stands for. -/
def escape? : Char → Option Char
  | 'b' => some (Char.ofNat 8)
  | 't' => some '\t'
  | 'n' => some '\n'
  | 'f' => some (Char.ofNat 12)
  | 'r' => some '\r'
  | '"' => some '"'
  | '\\' => some '\\'
  | _ => none

/-- The character of an escape, after its backslash. -/
def escaped? : List Char → Option (Char × List Char)
  | [] => none
  | c :: cs =>
      match escape? c with
      | some e => some (e, cs)
      | none =>
          let digits := if c == 'u' then 4 else if c == 'U' then 8 else 0
          if digits == 0 || cs.length < digits then none
          else (Yaml.codeChar? (cs.take digits)).map fun e => (e, cs.drop digits)

/-- The rest of a text on one line, up to its closing quote. -/
def shortText? (escapes : Bool) (quote : Char) : Nat → List Char → Option (List Char × List Char)
  | 0, _ => none
  | _ + 1, [] => none
  | n + 1, c :: cs =>
      if c == quote then some ([], cs)
      else if escapes && c == '\\' then
        match escaped? cs with
        | none => none
        | some (e, rest) =>
            (shortText? escapes quote n rest).map fun (more, rest) => (e :: more, rest)
      else if isPrintable c then
        (shortText? escapes quote n cs).map fun (more, rest) => (c :: more, rest)
      else none

/-- Drop blanks and line breaks. -/
def skipBlankLines : Nat → List Char → List Char
  | 0, cs => cs
  | n + 1, cs =>
      match lineBreak? (skipBlanks cs) with
      | some rest => skipBlankLines n rest
      | none => skipBlanks cs

/-- The rest of a text on several lines, up to its three closing quotes.  One or two
quotes before these belong to the text. -/
def longText? (escapes : Bool) (quote : Char) : Nat → List Char → Option (List Char × List Char)
  | 0, _ => none
  | _ + 1, [] => none
  | n + 1, c :: cs =>
      let quotes := ((c :: cs).takeWhile (· == quote)).length
      if 3 ≤ quotes then
        let used := min quotes 5
        some (List.replicate (used - 3) quote, (c :: cs).drop used)
      else if escapes && c == '\\' then
        match lineBreak? (skipBlanks cs), escaped? cs with
        | some rest, _ => longText? escapes quote n (skipBlankLines n rest)
        | none, some (e, rest) =>
            (longText? escapes quote n rest).map fun (more, rest) => (e :: more, rest)
        | none, none => none
      else
        match lineBreak? (c :: cs) with
        | some rest => (longText? escapes quote n rest).map fun (more, rest) => ('\n' :: more, rest)
        | none =>
            if isPrintable c then
              (longText? escapes quote n cs).map fun (more, rest) => (c :: more, rest)
            else none

/-- A text in quotes. -/
def text? (cs : List Char) : Option (String × List Char) :=
  match cs with
  | quote :: rest =>
      if quote == '"' || quote == '\'' then
        let escapes := quote == '"'
        let read :=
          if [quote, quote].isPrefixOf rest then
            let body := rest.drop 2
            longText? escapes quote (body.length + 1) ((lineBreak? body).getD body)
          else shortText? escapes quote (rest.length + 1) rest
        read.map fun (word, rest) => (String.ofList word, rest)
      else none
  | [] => none

/-- A character of a bare key. -/
def isKeyChar (c : Char) : Bool := c.isAlphanum || c == '_' || c == '-'

/-- A key without dots. -/
def simpleKey? (cs : List Char) : Option (String × List Char) :=
  match cs with
  | quote :: rest =>
      if quote == '"' || quote == '\'' then
        (shortText? (quote == '"') quote (rest.length + 1) rest).map fun (word, rest) =>
          (String.ofList word, rest)
      else
        let word := cs.takeWhile isKeyChar
        if word.isEmpty then none else some (String.ofList word, cs.dropWhile isKeyChar)
  | [] => none

/-- The most keys that may have dots between them. -/
def keyLimit : Nat := 79

/-- Keys with dots between them, with a bound on their number: those that lead to a table
and the last one, and the rest without blanks at its start. -/
def dottedKey? : Nat → List Char → Option ((List String × String) × List Char)
  | 0, _ => none
  | n + 1, cs =>
      match simpleKey? (skipBlanks cs) with
      | none => none
      | some (key, rest) =>
          match skipBlanks rest with
          | '.' :: rest =>
              (dottedKey? n rest).map fun ((path, last), rest) => ((key :: path, last), rest)
          | rest => some (([], key), rest)

end FormScaffold.Toml
