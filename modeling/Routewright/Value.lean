import Routewright.Binary64
import Routewright.Moment
import Routewright.Text.Numeral
import Routewright.Text.Quoted

/-!
# Loaded values

The values that a description text holds: scalars, lists, mappings in the order in which their keys
were first written, and the dates, bytes, sets and tuples that one of the two formats knows.
`display` is how a value reads inside a name, `shown` how a message shows it. Keys that denote equal
values share one place in a mapping: the first spelling keeps it, the last value fills it.

A collection may be inside itself. Each collection on such a circle is a `knot` with a label, and
where the circle closes, `again` repeats the label. A value is closed if every such leaf is inside
the knot of its label; `opened` is the collection of a knot with the knot itself put in for the
leaves, so what is inside a closed value is closed again.
-/

namespace Routewright

/-- What tells the knots of a value apart: the number of a collection in its document, and that
of an item of it, or zero for the collection itself. -/
structure Label where
  collection : Nat
  item : Nat := 0
  deriving DecidableEq, Repr

/-- A loaded value. -/
inductive Value
  | null
  | bool (b : Bool)
  | int (n : Int)
  | float (x : Binary64)
  | text (s : String)
  | moment (m : Moment)
  | bytes (bs : List UInt8)
  | list (items : List Value)
  | tuple (items : List Value)
  | map (entries : List (Value × Value))
  | set (items : List Value)
  /-- A collection that is inside itself. -/
  | knot (label : Label) (body : Value)
  /-- The collection around this place that has the label. -/
  | again (label : Label)
  deriving Repr, Inhabited

namespace Value

/-- Bytes as messages show them. -/
def shownBytes (bs : List UInt8) : String :=
  let cs := bs.map fun b => Char.ofNat b.toNat
  let quote := Text.quoteFor cs
  String.ofList <| 'b' :: quote :: (cs.flatMap fun c =>
    if c = quote || c = '\\' then ['\\', c]
    else if c = '\n' then ['\\', 'n']
    else if c = '\r' then ['\\', 'r']
    else if c = '\t' then ['\\', 't']
    else if 0x20 ≤ c.toNat && c.toNat < 0x7F then [c]
    else '\\' :: 'x' :: Text.hex 2 c.toNat) ++ [quote]

/-- How a message shows a collection inside itself. -/
def ellipsis : Value → String
  | .map _ => "\x7b...\x7d"
  | .tuple _ => "(...)"
  | _ => "[...]"

mutual

/-- A value as messages show it, inside knots with some labels. -/
def shownIn (around : List (Label × String)) : Value → String
  | .null => "None"
  | .bool b => if b then "True" else "False"
  | .int n => toString n
  | .float x => x.text
  | .text s => Text.shown s
  | .moment m => m.shown
  | .bytes bs => shownBytes bs
  | .list items => "[" ++ shownItems around items ++ "]"
  | .tuple [v] => "(" ++ shownIn around v ++ ",)"
  | .tuple items => "(" ++ shownItems around items ++ ")"
  | .map entries => "\x7b" ++ shownEntries around entries ++ "\x7d"
  | .set [] => "set()"
  | .set (v :: vs) => "\x7b" ++ shownItems around (v :: vs) ++ "\x7d"
  | .knot label body =>
    match around.lookup label with
    | some dots => dots
    | none => shownIn ((label, body.ellipsis) :: around) body
  | .again label => (around.lookup label).getD "..."

/-- Values in a row, separated by commas. -/
def shownItems (around : List (Label × String)) : List Value → String
  | [] => ""
  | [v] => shownIn around v
  | v :: w :: rest => shownIn around v ++ ", " ++ shownItems around (w :: rest)

/-- Entries in a row, separated by commas. -/
def shownEntries (around : List (Label × String)) : List (Value × Value) → String
  | [] => ""
  | [(k, v)] => shownIn around k ++ ": " ++ shownIn around v
  | (k, v) :: e :: rest =>
    shownIn around k ++ ": " ++ shownIn around v ++ ", " ++ shownEntries around (e :: rest)

end

/-- A value as messages show it. -/
def shown (v : Value) : String :=
  v.shownIn []

mutual

/-- Whether a value can be shown: no integer in it has more digits than are written. -/
def hasText : Value → Bool
  | .int n => (Nat.toDigits 10 n.natAbs).length ≤ Text.mostDigits
  | .list items | .tuple items | .set items => allHaveText items
  | .map entries => allEntriesHaveText entries
  | .knot _ body => hasText body
  | _ => true

/-- Whether values can be shown. -/
def allHaveText : List Value → Bool
  | [] => true
  | v :: rest => hasText v && allHaveText rest

/-- Whether entries can be shown. -/
def allEntriesHaveText : List (Value × Value) → Bool
  | [] => true
  | (k, v) :: rest => hasText k && hasText v && allEntriesHaveText rest

end

mutual

/-- A value with a closed value in place of the leaves that repeat a label. -/
def fill (label : Label) (whole : Value) : Value → Value
  | .again l => if l = label then whole else .again l
  | .knot l body => if l = label then .knot l body else .knot l (fill label whole body)
  | .list items => .list (fillItems label whole items)
  | .tuple items => .tuple (fillItems label whole items)
  | .map entries => .map (fillEntries label whole entries)
  | v => v

/-- Values with a closed value in place of the leaves that repeat a label. -/
def fillItems (label : Label) (whole : Value) : List Value → List Value
  | [] => []
  | v :: rest => fill label whole v :: fillItems label whole rest

/-- Entries with a closed value in place of the leaves that repeat a label. -/
def fillEntries (label : Label) (whole : Value) : List (Value × Value) → List (Value × Value)
  | [] => []
  | (k, v) :: rest => (k, fill label whole v) :: fillEntries label whole rest

end

/-- The collection of a knot; any other value is itself. -/
def opened : Value → Value
  | .knot label body => fill label (.knot label body) body
  | v => v

mutual

/-- Whether a value has a collection inside itself. -/
def isKnotted : Value → Bool
  | .knot _ _ | .again _ => true
  | .list items | .tuple items => anyKnotted items
  | .map entries => anyKnottedEntry entries
  | _ => false

/-- Whether one of some values has a collection inside itself. -/
def anyKnotted : List Value → Bool
  | [] => false
  | v :: rest => isKnotted v || anyKnotted rest

/-- Whether one of the values of some entries has a collection inside itself. -/
def anyKnottedEntry : List (Value × Value) → Bool
  | [] => false
  | (_, v) :: rest => isKnotted v || anyKnottedEntry rest

end

/-- How a value reads inside other text: a text as it is, the rest as messages show it. -/
def display : Value → String
  | .text s => s
  | .moment m => m.text
  | v => v.shown

/-- The name of a value's type, as messages use it. -/
def typeName : Value → String
  | .null => "NoneType"
  | .bool _ => "bool"
  | .int _ => "int"
  | .float _ => "float"
  | .text _ => "str"
  | .moment (.date ..) => "date"
  | .moment (.dateTime ..) => "datetime"
  | .bytes _ => "bytes"
  | .list _ => "list"
  | .tuple _ => "tuple"
  | .map _ => "dict"
  | .set _ => "set"
  | .knot _ body => typeName body
  | .again _ => "list"

/-- Whether a value counts as present: not null, false, zero or empty. -/
def isTruthy : Value → Bool
  | .null => false
  | .bool b => b
  | .int n => n ≠ 0
  | .float x => !x.isZero
  | .text s => !s.isEmpty
  | .moment _ => true
  | .bytes bs => !bs.isEmpty
  | .list items | .tuple items => !items.isEmpty
  | .map entries => !entries.isEmpty
  | .set items => !items.isEmpty
  | .knot _ _ | .again _ => true

/-- What is in a value one after the other: the items of a list, the characters of a text, the keys
of a mapping. Other values have no parts. -/
def parts? : Value → Option (List Value)
  | .list items | .tuple items | .set items => some items
  | .text s => some (s.toList.map fun c => .text (String.singleton c))
  | .map entries => some (entries.map Prod.fst)
  | .bytes bs => some (bs.map fun b => .int b.toNat)
  | _ => none

/-- Whether a value may be a key of a mapping. -/
def isKey : Value → Bool
  | .list _ | .map _ | .set _ | .knot _ _ | .again _ => false
  | _ => true

/-- The number that a truth value or an integer counts as. -/
def asInt? : Value → Option Int
  | .bool b => some (if b then 1 else 0)
  | .int n => some n
  | .float x => x.toInt?
  | _ => none

/-- Whether two keys denote the same value. Numbers of all kinds compare by what they equal. -/
def sameKey : Value → Value → Bool
  | .null, .null => true
  | .text s, .text t => s = t
  | .moment a, .moment b => a.same b
  | .bytes a, .bytes b => a = b
  | .float x, .float y => x.same y
  | a, b =>
    match a.asInt?, b.asInt? with
    | some m, some n => m = n
    | _, _ => false

/-- Writes an entry: an equal key keeps its place and spelling and takes the value. -/
def putEntry (key value : Value) : List (Value × Value) → List (Value × Value)
  | [] => [(key, value)]
  | (k, v) :: rest =>
    if k.sameKey key then (k, value) :: rest else (k, v) :: putEntry key value rest

/-- The mapping of entries written one after the other. -/
def ofEntries (entries : List (Value × Value)) : List (Value × Value) :=
  entries.foldl (fun m e => putEntry e.1 e.2 m) []

/-- The value of a text key. -/
def find? (key : String) : List (Value × Value) → Option Value
  | [] => none
  | (.text k, v) :: rest => if k = key then some v else find? key rest
  | _ :: rest => find? key rest

/-- The value of a text key, null if there is none. -/
def field (entries : List (Value × Value)) (key : String) : Value :=
  (find? key entries).getD .null

/-- The mapping of named fields. -/
def object (fields : List (String × Value)) : Value :=
  .map (fields.map fun f => (.text f.1, f.2))

end Value

end Routewright
