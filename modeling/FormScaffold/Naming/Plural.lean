import FormScaffold.Text.Casing
import FormScaffold.Text.Letter

/-!
# Plural and singular

The regular English plural: `y` becomes `ies`, a sibilant takes `es`, all else
takes `s`.  A word that already has one of these endings is kept, so the plural of
a plural is itself.
-/

namespace FormScaffold.Naming

open FormScaffold.Text

/-- Endings of singular nouns in `s`, which are not taken for plurals. -/
def singularEndings : List (List Char) :=
  [['s', 's'], ['u', 's'], ['i', 's'], ['a', 's'], ['o', 's']]

/-- Endings that take `es`. -/
def sibilantEndings : List (List Char) :=
  [['s'], ['x'], ['z'], ['c', 'h'], ['s', 'h']]

/-- Plural endings of which only `es` was added to the singular. -/
def sibilantPluralEndings : List (List Char) :=
  [['s', 's', 'e', 's'], ['s', 'h', 'e', 's'], ['c', 'h', 'e', 's'], ['x', 'e', 's'],
   ['z', 'e', 's'], ['u', 's', 'e', 's']]

/-- The text ends in one of the given endings. -/
def endsInAny (endings : List (List Char)) (cs : List Char) : Bool :=
  endings.any fun e => e.isSuffixOf cs

/-- The text ends in `ies` after at least one other character. -/
def endsInIes (cs : List Char) : Bool :=
  decide (3 < cs.length) && ['i', 'e', 's'].isSuffixOf cs

/-- The letters after which a final `s` does not mark a plural. -/
def isVowelOrS (c : Char) : Bool :=
  c == 'a' || c == 'e' || c == 'i' || c == 'o' || c == 'u' || c == 's'

/-- The lower-cased word ends as `plural` leaves words. -/
def looksPlural (lowered : List Char) : Bool :=
  if endsInIes lowered then true
  else if endsInAny singularEndings lowered then false
  else if ['e', 's'].isSuffixOf lowered then true
  else
    match lowered.reverse with
    | 's' :: before :: _ => isAlphabetic before && !isVowelOrS before
    | _ => false

/-- Plural of a word. -/
def plural (word : List Char) : List Char :=
  let lowered := lower word
  if word.isEmpty then []
  else if looksPlural lowered then word
  else if ['y'].isSuffixOf lowered then word.dropLast ++ ['i', 'e', 's']
  else if endsInAny sibilantEndings lowered then word ++ ['e', 's']
  else word ++ ['s']

/-- Singular of a word with a regular plural ending; all other words are kept. -/
def singular (word : List Char) : List Char :=
  let lowered := lower word
  if endsInIes lowered then word.take (word.length - 3) ++ ['y']
  else if endsInAny sibilantPluralEndings lowered then word.take (word.length - 2)
  else if ['s'].isSuffixOf lowered && !endsInAny singularEndings lowered then word.dropLast
  else word

/-- Plural of a string. -/
def pluralize (s : String) : String := String.ofList (plural s.toList)

/-- Singular of a string. -/
def singularize (s : String) : String := String.ofList (singular s.toList)

end FormScaffold.Naming
