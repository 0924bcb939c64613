import FormScaffold.Naming.Words
import FormScaffold.Naming.Plural
import FormScaffold.Template.Filters.Argument
import FormScaffold.Text.Cluster
import FormScaffold.Text.Letter
import FormScaffold.Text.PlainLetter

/-!
# Filters on texts
-/

namespace FormScaffold.Template.Filters

open FormScaffold FormScaffold.Json FormScaffold.Text

/-- A filter that changes the characters of a text. -/
def onChars (filter : String) (f : List Char → List Char) : FilterFunction := fun v _ => do
  let s ← valueAs filter aText v
  .ok (.string (String.ofList (f s.toList)))

/-- A filter of this program on texts, with a message of its own for all else. -/
def onNames (filter : String) (f : String → String) : FilterFunction := fun v _ =>
  match v with
  | .string s => .ok (.string (f s))
  | _ => .error ("Filter `" ++ filter ++ "` expects a string, got " ++ v.text)

/-- Escapes for a line break and a tab in an argument, undone. -/
def undoubled (s : String) : List Char :=
  replaceAll ['\\', 't'] ['\t'] (replaceAll ['\\', 'n'] ['\n'] s.toList)

/-- Drop a pattern from the start as often as it occurs there, with a bound. -/
def dropRepeated : Nat → List Char → List Char → List Char
  | 0, _, cs => cs
  | n + 1, pattern, cs =>
      match afterPrefix? pattern cs with
      | some rest => if pattern.isEmpty then cs else dropRepeated n pattern rest
      | none => cs

/-- Drop a pattern at the start of a text. -/
def trimStartMatches : FilterFunction := fun v args => do
  let s ← valueAs "trim_start_matches" aText v
  let pat ← argOrFail "trim_start_matches" "pat" aText (expectedArg "trim_start_matches" "pat") args
  .ok (.string (String.ofList (dropRepeated s.length (undoubled pat) s.toList)))

/-- Drop a pattern at the end of a text. -/
def trimEndMatches : FilterFunction := fun v args => do
  let s ← valueAs "trim_end_matches" aText v
  let pat ← argOrFail "trim_end_matches" "pat" aText (expectedArg "trim_end_matches" "pat") args
  .ok (.string (String.ofList
    (dropRepeated s.length (undoubled pat).reverse s.toList.reverse).reverse))

/-- Cut a text after a number of user-perceived characters. -/
def truncate : FilterFunction := fun v args => do
  let s ← valueAs "truncate" aText v
  let length ← argOr "truncate" "length" aCount 255 args
  let ending ← argOr "truncate" "end" aText (String.ofList [Char.ofNat 0x2026]) args
  let cs := clusters s.toList
  if cs.length ≤ length.toNat then .ok (.string s)
  else .ok (.string (String.ofList (cs.take length.toNat).flatten ++ ending))

/-- The words between white space. -/
def wordsFrom (word : List Char) : List Char → List (List Char)
  | [] => if word.isEmpty then [] else [word.reverse]
  | c :: cs =>
      if isBlank c then
        if word.isEmpty then wordsFrom [] cs else word.reverse :: wordsFrom [] cs
      else wordsFrom (c :: word) cs

/-- Count the words of a text. -/
def wordCount : FilterFunction := fun v _ => do
  let s ← valueAs "wordcount" aText v
  .ok (.ofNat (wordsFrom [] s.toList).length)

/-- Replace a pattern. -/
def replace : FilterFunction := fun v args => do
  let s ← valueAs "replace" aText v
  let source ← argOrFail "replace" "from" aText (expectedArg "replace" "from") args
  let target ← argOrFail "replace" "to" aText (expectedArg "replace" "to") args
  .ok (.string (replaced source target s))

/-- A character of words in the sense of titles. -/
def isTitleChar (c : Char) : Bool :=
  isAlphanumeric c || c == '_' || clusterClass c == .extend || clusterClass c == .spacing

/-- A character that may belong to a titled word. -/
def inTitleWord (c : Char) : Bool := isTitleChar c || c == '\''

/-- A run of word characters and apostrophes, without the apostrophes at its end. -/
def titleWord (cs : List Char) : List Char :=
  dropEndWhile (fun c => !isTitleChar c) (cs.takeWhile inTitleWord)

/-- Upper-case the first character of every word and lower-case the others, given
whether a word character stands before. -/
def titledFrom : Nat → Bool → List Char → List Char
  | 0, _, cs => cs
  | _ + 1, _, [] => []
  | n + 1, afterWord, c :: cs =>
      let word := titleWord (c :: cs)
      match word with
      | first :: rest =>
          if isTitleChar first != afterWord then
            upperChars first ++ lower rest ++ titledFrom n true ((c :: cs).drop word.length)
          else c :: titledFrom n (isTitleChar c) cs
      | [] => c :: titledFrom n (isTitleChar c) cs

/-- Line ends as markup. -/
def lineBreaks (cs : List Char) : List Char :=
  replaceAll ['\n'] "<br>".toList (replaceAll ['\r', '\n'] "<br>".toList cs)

/-- The lines of a text, without their ends; the last line may lack one. -/
def linesOf (cs : List Char) : List (List Char) :=
  let parts := splitAt ['\n'] cs
  let parts :=
    match parts.getLast? with
    | some [] => parts.dropLast
    | _ => parts
  let ended := parts.zipIdx.map fun (line, i) =>
    if i + 1 < (splitAt ['\n'] cs).length then
      match line.getLast? with
      | some '\r' => line.dropLast
      | _ => line
    else line
  ended

/-- Put a text before every line but the first and those that are blank. -/
def indent : FilterFunction := fun v args => do
  let s ← valueAs "indent" aText v
  let lead ← argOr "indent" "prefix" aText "    " args
  let first ← argOr "indent" "first" aBool false args
  let blank ← argOr "indent" "blank" aBool false args
  match linesOf s.toList with
  | [] => .ok (.string "")
  | line :: rest =>
      let start := if first then lead.toList ++ line else line
      let others := rest.map fun l =>
        if blank || !(trimStart l).isEmpty then lead.toList ++ l else l
      .ok (.string (String.ofList (List.intercalate ['\n'] (start :: others))))

/-- The rest after a comment of markup on one line. -/
def afterMarkupComment? (cs : List Char) : Option (List Char) :=
  match afterPrefix? "<!--".toList cs with
  | none => none
  | some rest =>
      match cut? "-->".toList rest with
      | some (inner, after) => if inner.contains '\n' then none else some after
      | none => none

/-- The rest after a tag of markup. -/
def afterMarkupTag? (cs : List Char) : Option (List Char) :=
  match cs with
  | '<' :: rest =>
      match rest.dropWhile (· != '>') with
      | _ :: after => some after
      | [] => none
  | _ => none

/-- Remove tags and comments of markup, with a bound on the number of steps. -/
def withoutTags : Nat → List Char → List Char
  | 0, cs => cs
  | _ + 1, [] => []
  | n + 1, c :: cs =>
      match afterMarkupComment? (c :: cs), afterMarkupTag? (c :: cs) with
      | some rest, _ => withoutTags n rest
      | none, some rest => withoutTags n rest
      | none, none => c :: withoutTags n cs

/-- Remove white space between tags, with a bound on the number of steps. -/
def withoutGaps : Nat → List Char → List Char
  | 0, cs => cs
  | _ + 1, [] => []
  | n + 1, c :: cs =>
      let rest := cs.dropWhile isBlank
      if c == '>' && rest.length < cs.length && rest.head? == some '<' then
        '>' :: '<' :: withoutGaps n (rest.drop 1)
      else c :: withoutGaps n cs

/-- Upper-case hexadecimal digit. -/
def capitalHexDigit (n : Nat) : Char :=
  if n < 10 then Char.ofNat (48 + n) else Char.ofNat (55 + n)

/-- A byte as a percent sign and two digits. -/
def percentByte (b : UInt8) : List Char :=
  ['%', capitalHexDigit (b.toNat / 16), capitalHexDigit (b.toNat % 16)]

/-- Percent signs for all characters that are not kept. -/
def percentEncoded (kept : Char → Bool) (cs : List Char) : List Char :=
  cs.flatMap fun c =>
    if kept c then [c] else (String.singleton c).toUTF8.toList.flatMap percentByte

/-- What stays as it is in a path of an address. -/
def keptInPath (c : Char) : Bool :=
  c.isAlphanum || ['-', '.', '_', '~', '/', '%'].contains c

/-- Markup escapes with a name for the apostrophe. -/
def escapedXml (cs : List Char) : List Char :=
  cs.flatMap fun c =>
    match c with
    | '&' => "&amp;".toList
    | '<' => "&lt;".toList
    | '>' => "&gt;".toList
    | '"' => "&quot;".toList
    | '\'' => "&apos;".toList
    | c => [c]

/-- Backslashes before quotes and backslashes. -/
def withSlashes (cs : List Char) : List Char :=
  cs.flatMap fun c => if c == '\\' || c == '"' || c == '\'' then ['\\', c] else [c]

/-- A name for an address: lower-case letters and digits with dashes between them. -/
def slugFrom (afterDash : Bool) : List Char → List Char
  | [] => []
  | c :: cs =>
      if c.isAlphanum then c.toLower :: slugFrom false cs
      else if afterDash then slugFrom true cs
      else '-' :: slugFrom true cs

/-- The slug of a text: letters beyond ASCII count as their plain forms. -/
def slug (cs : List Char) : List Char :=
  dropEndWhile (· == '-') (slugFrom true (cs.flatMap plainLetters))

/-- The parts of a text between occurrences of a pattern. -/
def split : FilterFunction := fun v args => do
  let s ← valueAs "split" aText v
  let pat ← argOrFail "split" "pat" aText (expectedArg "split" "pat") args
  .ok (.array ((splitAt (undoubled pat) s.toList).map fun p => .string (String.ofList p)))

/-- Filters on texts, by name. -/
def textFilters : List (String × FilterFunction) :=
  [("upper", onChars "upper" upper),
   ("lower", onChars "lower" lower),
   ("trim", onChars "trim" trim),
   ("trim_start", onChars "trim_start" trimStart),
   ("trim_end", onChars "trim_end" trimEnd),
   ("trim_start_matches", trimStartMatches),
   ("trim_end_matches", trimEndMatches),
   ("truncate", truncate),
   ("wordcount", wordCount),
   ("replace", replace),
   ("capitalize", onChars "capitalize" capitalize),
   ("title", onChars "title" fun cs => titledFrom cs.length false cs),
   ("linebreaksbr", onChars "linebreaksbr" lineBreaks),
   ("indent", indent),
   ("striptags", onChars "striptags" fun cs => withoutTags cs.length cs),
   ("spaceless", onChars "spaceless" fun cs => withoutGaps cs.length cs),
   ("urlencode", onChars "urlencode" (percentEncoded keptInPath)),
   ("urlencode_strict", onChars "urlencode_strict" (percentEncoded Char.isAlphanum)),
   ("escape", onChars "escape" fun cs => cs.flatMap escapedChar),
   ("escape_xml", onChars "escape_xml" escapedXml),
   ("slugify", onChars "slugify" slug),
   ("addslashes", onChars "addslashes" withSlashes),
   ("split", split),
   ("pascal_case", onNames "pascal_case" Naming.pascalCase),
   ("camel_case", onNames "camel_case" Naming.camelCase),
   ("snake_case", onNames "snake_case" Naming.snakeCase),
   ("pluralize", onNames "pluralize" Naming.pluralize),
   ("singularize", onNames "singularize" Naming.singularize)]

end FormScaffold.Template.Filters
