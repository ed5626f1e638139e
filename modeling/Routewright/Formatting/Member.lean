import Routewright.Formatting.Entry
import Routewright.Text.Quoted

/-!
# Members of arguments

A formatting template may ask for a member of an argument, and for a member of that. Everything that
members lead to is a `Subject`. The members of a subject are the entries of its kind: the parts of
the subject are worked out, and operations are bound to it. A kind has the parts of kinds and, for
its own subjects, the entries as they are.
-/

namespace Routewright.Formatting

/-- What a field of a template may refer to. -/
inductive Subject
  | text (chars : List Char)
  | nothing
  | integer (value : Nat)
  | truth (value : Bool)
  | kind (k : Kind)
  | row (items : List Subject)
  /-- The view of the entries of a kind. -/
  | view (k : Kind)
  /-- A table without entries. -/
  | table
  /-- The entry of a kind for all of its subjects. -/
  | any (owner : Kind) (entry : Entry)
  /-- The operation that an entry of a kind gives for a subject. -/
  | bound (owner : Kind) (entry : Entry) (subject : Subject)
  /-- A kind with an argument. -/
  | applied (k : Kind) (argument : Subject)
  deriving Repr

/-- Whether an entry is a part of its subjects. -/
def Entry.isPart (e : Entry) : Bool :=
  e.form = .attribute || e.form = .field

/-- The entry that the subjects of a kind have under a name, and the kind that it is of. Entries of
a kind come before those of kinds above it. -/
def Kind.entry? (k : Kind) (name : String) : Option (Kind × Entry) :=
  k.line.findSome? fun owner => (owner.entries.find? fun e => e.name = name).map (owner, ·)

/-- What is said about the kind of kinds. -/
def kindNote : String :=
  "type(object) -> the object's type\n"
  ++ "type(name, bases, dict, **kwds) -> a new type"

namespace Subject

/-! ## Kinds and parts of subjects -/

/-- A text as a subject. -/
def ofString (s : String) : Subject :=
  .text s.toList

/-- A text as a subject, nothing if there is none. -/
def ofString? (s : Option String) : Subject :=
  (s.map ofString).getD .nothing

/-- The kind of what an entry is for all subjects. -/
def kindOfForm : Form → Kind
  | .operator => .anyOperator
  | .ofKind => .kindOperation
  | .free => .freeOperation
  | .attribute => .attribute
  | .field => .field
  | _ => .anyOperation

/-- The kind of a subject. -/
def kindOf : Subject → Kind
  | .text _ => .text
  | .nothing => .nothing
  | .integer _ => .integer
  | .truth _ => .truth
  | .kind _ => .kind
  | .row _ => .row
  | .view _ => .view
  | .table => .table
  | .any _ e => kindOfForm e.form
  | .bound _ e _ => if e.form = .operator then .operator else .operation
  | .applied _ _ => .applied

/-- A part of an integer. -/
def partOfInteger? (value : Nat) (name : String) : Option Subject :=
  if name = "real" || name = "numerator" then some (.integer value)
  else if name = "imag" then some (.integer 0)
  else if name = "denominator" then some (.integer 1)
  else none

/-- The note of a kind, which is the entry for it if its subjects have notes of their own. -/
def noteOf (k : Kind) : Subject :=
  match k, k.entries.find? fun e => e.name = "__doc__" with
  | .kind, _ => ofString kindNote
  | _, some e => if e.isPart then .any k e else ofString? e.note
  | _, none => .nothing

/-- A part of a kind. -/
def partOfKind? (k : Kind) (name : String) : Option Subject :=
  if name = "__name__" || name = "__qualname__" then some (ofString k.name)
  else if name = "__module__" then some (ofString k.module)
  else if name = "__mro__" then some (.row (k.line.map .kind))
  else if name = "__bases__" then some (.row (k.parent?.toList.map .kind))
  else if name = "__base__" then some ((k.parent?.map .kind).getD .nothing)
  else if name = "__dict__" then some (.view k)
  else if name = "__doc__" then some (noteOf k)
  else if name = "__text_signature__" then some (ofString? k.signature?)
  else if name = "__basicsize__" then some (.integer k.size.whole)
  else if name = "__itemsize__" then some (.integer k.size.item)
  else if name = "__flags__" then some (.integer k.size.marks)
  else if name = "__dictoffset__" then some (.integer k.size.table)
  else if name = "__weakrefoffset__" then some (.integer k.size.references)
  else none

/-- A part that all entries have. -/
def partOfEntry? (owner : Kind) (e : Entry) (name : String) : Option Subject :=
  if name = "__name__" then some (ofString e.name)
  else if name = "__doc__" then some (ofString? e.note)
  else if name = "__text_signature__" then some (ofString? e.signature)
  else if name = "__qualname__" then some (ofString (owner.name ++ "." ++ e.name))
  else if name = "__objclass__" then some (.kind owner)
  else none

/-- The kind itself if a subject is one, and that of any other subject. -/
def nearestKind : Subject → Kind
  | .kind k => k
  | s => s.kindOf

/-- A part of a subject that its kind has an entry for. -/
def part? (s : Subject) (name : String) : Option Subject :=
  if name = "__class__" then some (.kind s.kindOf)
  else match s with
    | .kind k => partOfKind? k name
    | .integer n => partOfInteger? n name
    | .truth b => partOfInteger? b.toNat name
    | .any owner e =>
      if e.form = .free then
        if name = "__func__" || name = "__wrapped__" then some (.bound owner e (.kind owner))
        else if name = "__isabstractmethod__" then some (.truth false)
        else if name = "__dict__" then some .table
        else none
      else partOfEntry? owner e name
    | .bound owner e subject =>
      if e.form = .operator then
        if name = "__self__" then some subject else partOfEntry? owner e name
      else if name = "__self__" then some (if e.form = .free then .nothing else subject)
      else if name = "__module__" then some .nothing
      else partOfEntry? subject.nearestKind e name
    | .applied k argument =>
      if name = "__origin__" then some (.kind k)
      else if name = "__args__" then some (.row [argument])
      else if name = "__parameters__" then some (.row [])
      else if name = "__unpacked__" then some (.truth false)
      else if name = "__typing_unpacked_tuple_args__" then some .nothing
      else none
    | _ => none

/-! ## Members -/

/-- What the entry of a kind is among the entries of the kind. -/
def ofEntry (owner : Kind) (e : Entry) : Subject :=
  match e.form with
  | .maker => .bound owner e (.kind owner)
  | .documentation => ofString? e.note
  | .nothing => .nothing
  | _ => .any owner e

/-- What an entry is as a member of a subject of its kind. -/
def memberBy? (s : Subject) (owner : Kind) (e : Entry) : Option Subject :=
  match e.form with
  | .attribute | .field => s.part? e.name
  | .operator | .operation => some (.bound owner e s)
  | .ofKind => some (.bound owner e (.kind s.kindOf))
  | .free => some (.bound owner e (.kind owner))
  | _ => some (ofEntry owner e)

/-- What an entry of the subjects of a kind is as a member of the kind. -/
def memberOfKindBy (k owner : Kind) (e : Entry) : Subject :=
  match e.form with
  | .ofKind => .bound owner e (.kind k)
  | .free => .bound owner e (.kind owner)
  | _ => ofEntry owner e

/-- A member of a kind: a part of it, then what its subjects have an entry for, then what kinds have
as subjects. -/
def memberOfKind? (k : Kind) (name : String) : Option Subject :=
  match Kind.kind.entry? name, k.entry? name with
  | some (owner, e), some (own, f) =>
    if e.isPart then memberBy? (.kind k) owner e else some (memberOfKindBy k own f)
  | some (owner, e), none => memberBy? (.kind k) owner e
  | none, own => own.map fun (owner, e) => memberOfKindBy k owner e

/-- The members that a kind with an argument has for itself. All others are those of the kind. -/
def appliedMembers : List String :=
  [
    "__class__", "__origin__", "__args__", "__unpacked__", "__parameters__",
    "__typing_unpacked_tuple_args__", "__mro_entries__", "__reduce_ex__", "__reduce__",
    "__copy__", "__deepcopy__"]

/-- A member of a subject by the entries of its kind. -/
def memberByKind? (s : Subject) (name : String) : Option Subject :=
  (s.kindOf.entry? name).bind fun (owner, e) => s.memberBy? owner e

/-- A member of a subject. -/
def member? (s : Subject) (name : String) : Option Subject :=
  match s with
  | .kind k => memberOfKind? k name
  | .applied k _ => if name ∈ appliedMembers then s.memberByKind? name else memberOfKind? k name
  | _ => s.memberByKind? name

/-! ## Subjects as text -/

/-- Where subjects are, which differs from run to run. -/
def place : String :=
  " at 0x7f0000000000>"

/-- An operation of a subject, where its kind is given. -/
def boundText (e : Entry) (k : Kind) : String :=
  (if e.form = .operator then "<method-wrapper '" ++ e.name ++ "'"
    else "<built-in method " ++ e.name) ++ " of " ++ k.fullName ++ " object" ++ place

/-- What an entry is among the entries of its kind, as it is shown. -/
def entryText (owner : Kind) (e : Entry) : String :=
  let plain (word : String) :=
    "<" ++ word ++ " '" ++ e.name ++ "' of '" ++ owner.fullName ++ "' objects>"
  match e.form with
  | .operator => plain "slot wrapper"
  | .operation | .ofKind => plain "method"
  | .attribute => plain "attribute"
  | .field => plain "member"
  | .free => "<staticmethod(" ++ boundText e .kind ++ ")>"
  | .maker => boundText e .kind
  | .documentation => (e.note.map Text.shown).getD "None"
  | .nothing => "None"

/-- The entries of a kind as a table is shown. -/
def entriesText (k : Kind) : String :=
  "\x7b" ++ ", ".intercalate (k.entries.map fun e => Text.shown e.name ++ ": " ++ entryText k e)
    ++ "\x7d"

mutual

/-- A subject as it is shown in a table or a row, where a text is in quotes. -/
def shown : Subject → String
  | .text chars => Text.shown (String.ofList chars)
  | .nothing => "None"
  | .integer n => toString n
  | .truth b => if b then "True" else "False"
  | .kind k => k.label
  | .row items => "(" ++ shownItems items ++ ")"
  | .view k => "mappingproxy(" ++ entriesText k ++ ")"
  | .table => "\x7b\x7d"
  | .any owner e => entryText owner e
  | .bound _ e subject => boundText e subject.kindOf
  | .applied k argument => k.name ++ "[" ++ argument.shown ++ "]"

/-- The items of a row, where a single one is followed by a comma. -/
def shownItems : List Subject → String
  | [] => ""
  | [s] => s.shown ++ ","
  | [s, t] => s.shown ++ ", " ++ t.shown
  | s :: rest => s.shown ++ ", " ++ shownItems rest

end

/-- A subject as a field writes it: a text as it is, and a view as its table. -/
def display : Subject → List Char
  | .text chars => chars
  | .view k => (entriesText k).toList
  | s => s.shown.toList

end Subject

end Routewright.Formatting
