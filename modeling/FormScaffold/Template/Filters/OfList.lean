import FormScaffold.Template.Filters.OfText

/-!
# Filters on lists
-/

namespace FormScaffold.Template.Filters

open FormScaffold FormScaffold.Json FormScaffold.Text FormScaffold.Decimal

/-- The end of a list, or an empty text. -/
def endOf (filter : String) (pick : List Value → Option Value) : FilterFunction := fun v _ => do
  let items ← valueAs filter aList v
  .ok ((pick items).getD (.string ""))

/-- The item at a position. -/
def nth : FilterFunction := fun v args => do
  let items ← valueAs "nth" aList v
  if items.isEmpty then .ok (.string "")
  else
    let n ← argOrFail "nth" "n" aCount "The `nth` filter has to have an `n` argument" args
    .ok ((items[n.toNat]?).getD (.string ""))

/-- Printed items with a text between them. -/
def join : FilterFunction := fun v args => do
  let items ← valueAs "join" aList v
  let sep ← argOr "truncate" "sep" aText "" args
  .ok (.string (String.intercalate (String.ofList (undoubled sep)) (valueTexts items)))

/-- What decides the place of an item in a sorted list. -/
inductive SortKey where
  | bool (b : Bool)
  | number (x : Binary64)
  | text (s : String)
  | length (n : Nat)

namespace SortKey

/-- Order of keys of one kind. -/
def le : SortKey → SortKey → Bool
  | .bool a, .bool b => !a || b
  | .number x, .number y => !y.lt x
  | .text s, .text t => !decide (t < s)
  | .length m, .length n => decide (m ≤ n)
  | _, _ => true

/-- The key of a value, if it is of the kind of the first value. -/
def ofValue (first v : Value) : Except String SortKey :=
  match first, v with
  | .null, _ => .error "Null is not a sortable value"
  | .object _, _ => .error "Object is not a sortable value"
  | .bool _, .bool b => .ok (.bool b)
  | .bool _, v => .error ("expected bool got " ++ v.text)
  | .number _, .number n => .ok (.number n.toDouble)
  | .number _, v => .error ("expected number got " ++ v.text)
  | .string _, .string s => .ok (.text s)
  | .string _, v => .error ("expected string got " ++ v.text)
  | .array _, .array items => .ok (.length items.length)
  | .array _, v => .error ("expected array got " ++ v.text)

end SortKey

/-- The keys of an attribute: parts between points, which double quotes may enclose. -/
def attributeKeys (path : String) : List String :=
  if path.isEmpty then []
  else (keysFrom false [] path.toList).flatMap fun k =>
    (splitAt ['/'] k.toList).map String.ofList

/-- The part of an item that an attribute names. -/
def attributeOf (path : String) (v : Value) : Except String Value :=
  match follow? v (attributeKeys path) with
  | some part => .ok part
  | none => .error ("attribute '" ++ path ++ "' does not reference a field")

/-- Items in ascending order; items with equal keys keep their order. -/
def sort : FilterFunction := fun v args => do
  let items ← valueAs "sort" aList v
  match items with
  | [] => .ok (.array [])
  | first :: _ =>
      let path ← argOr "sort" "attribute" aText "" args
      let leader ← attributeOf path first
      let _ ← match leader with
        | .null | .object _ => (SortKey.ofValue leader leader).map fun _ => ()
        | _ => .ok ()
      let keyed ← items.mapM fun item => do
        let part ← attributeOf path item
        let key ← SortKey.ofValue leader part
        .ok (key, item)
      .ok (.array ((keyed.mergeSort fun a b => a.1.le b.1).map Prod.snd))

/-- Why values like the first one cannot be told apart. -/
def uniqueFault? : Value → Option String
  | .null => some "Null is not a unique value"
  | .number (.float _) => some "Unique floats are not implemented"
  | .array _ => some "Unique arrays are not implemented"
  | .object _ => some "Unique objects are not implemented"
  | _ => none

/-- Two values are of one kind. -/
def sameKind : Value → Value → Bool
  | .null, .null | .bool _, .bool _ | .number _, .number _ | .string _, .string _ => true
  | .array _, .array _ | .object _, .object _ => true
  | _, _ => false

/-- The text under which a value is remembered. -/
def uniqueText (caseSensitive : Bool) (v : Value) : Except String String :=
  match v with
  | .string s => .ok (if caseSensitive then s else lowercase s)
  | .number (.float _) => .error ("expected number got " ++ v.text)
  | .number (.int n) =>
      if n < Nat.pow 2 63 then .ok v.text else .error ("expected number got " ++ v.text)
  | v => .ok v.text

/-- Items that differ from all before them. -/
def uniqueFrom (keys : List String) (caseSensitive : Bool) (leader : Value) (seen : List String) :
    List Value → Except String (List Value)
  | [] => .ok []
  | item :: rest =>
      match follow? item keys with
      | none => uniqueFrom keys caseSensitive leader seen rest
      | some part =>
          if !sameKind leader part then .error "unique filter can't compare multiple types"
          else
            match uniqueText caseSensitive part with
            | .error text => .error text
            | .ok key =>
                if seen.contains key then uniqueFrom keys caseSensitive leader seen rest
                else
                  (uniqueFrom keys caseSensitive leader (key :: seen) rest).map (item :: ·)

/-- Items that differ from all before them, as a filter. -/
def unique : FilterFunction := fun v args => do
  let items ← valueAs "unique" aList v
  match items with
  | [] => .ok (.array [])
  | first :: _ =>
      let caseSensitive ← argOr "unique" "case_sensitive" aBool false args
      let path ← argOr "unique" "attribute" aText "" args
      let leader ← attributeOf path first
      match uniqueFault? leader with
      | some text => .error text
      | none =>
          let kept ← uniqueFrom (attributeKeys path) caseSensitive leader [] items
          .ok (.array kept)

/-- A position counted from the start, or from the end if it is negative. -/
def sliceIndex (length : Nat) (i : Int) : Nat :=
  if 0 ≤ i then i.toNat
  else
    let j := (length : Int) + i
    if 0 ≤ j then j.toNat else ((Nat.pow 2 64 : Int) + j).toNat

/-- Part of a list. -/
def slice : FilterFunction := fun v args => do
  let items ← valueAs "slice" aList v
  if items.isEmpty then .ok (.array [])
  else
    let start ← argOr "slice" "start" aLongInteger 0 args
    let stop ← argOr "slice" "end" aLongInteger items.length args
    let start := sliceIndex items.length start
    let stop := min (sliceIndex items.length stop) items.length
    .ok (.array ((items.take stop).drop start))

/-- Add an item to the group of a key. -/
def addToGroup (key : String) (item : Value) (groups : Keyed (List Value)) : Keyed (List Value) :=
  Keyed.insert key ((Keyed.get? key groups).getD [] ++ [item]) groups

/-- Items by the value of an attribute; items without one are left out. -/
def groupBy : FilterFunction := fun v args => do
  let items ← valueAs "group_by" aList v
  if items.isEmpty then .ok (.object [])
  else
    let path ← argOrFail "group_by" "attribute" aText
      "The `group_by` filter has to have an `attribute` argument" args
    let groups := items.foldl (fun groups item =>
      match atPath? item path.toList with
      | none | some .null => groups
      | some (.string s) => addToGroup s item groups
      | some part => addToGroup part.text item groups) []
    .ok (.object (Keyed.mapValues .array groups))

/-- Items whose attribute has a value, or any value but null. -/
def keep : FilterFunction := fun v args => do
  let items ← valueAs "filter" aList v
  if items.isEmpty then .ok (.array [])
  else
    let path ← argOrFail "filter" "attribute" aText
      "The `filter` filter has to have an `attribute` argument" args
    let wanted := (Keyed.get? "value" args).getD .null
    .ok (.array (items.filter fun item =>
      let part := (atPath? item path.toList).getD .null
      if wanted.same .null then !part.same .null else part.same wanted))

/-- The attribute of every item that has one. -/
def mapAttribute : FilterFunction := fun v args => do
  let items ← valueAs "map" aList v
  if items.isEmpty then .ok (.array [])
  else
    let path ← argOrFail "map" "attribute" aText
      "The `map` filter has to have an `attribute` argument" args
    .ok (.array (items.filterMap fun item =>
      match atPath? item path.toList with
      | some .null => none
      | part => part))

/-- A list with further items. -/
def concat : FilterFunction := fun v args => do
  let items ← valueAs "concat" aList v
  match Keyed.get? "with" args with
  | none => .error "The `concat` filter has to have a `with` argument"
  | some (.array more) => .ok (.array (items ++ more))
  | some item => .ok (.array (items ++ [item]))

/-- Filters on lists, by name. -/
def listFilters : List (String × FilterFunction) :=
  [("first", endOf "first" List.head?),
   ("last", endOf "last" List.getLast?),
   ("nth", nth),
   ("join", join),
   ("sort", sort),
   ("unique", unique),
   ("slice", slice),
   ("group_by", groupBy),
   ("filter", keep),
   ("map", mapAttribute),
   ("concat", concat)]

end FormScaffold.Template.Filters
