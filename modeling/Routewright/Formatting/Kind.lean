/-!
# Kinds of subjects

What a field of a formatting template can refer to is of a kind, and a kind can be referred to as
well. A kind has a name, kinds above it and sizes.
-/

namespace Routewright.Formatting

/-- The kinds of subjects. -/
inductive Kind
  | text
  | object
  | kind
  | nothing
  | row
  | integer
  | truth
  /-- A view of the entries of a kind. -/
  | view
  /-- An operation of a given subject, by a name or by a sign. -/
  | operation
  | operator
  /-- An operation of all subjects of a kind, by a name or by a sign. -/
  | anyOperation
  | anyOperator
  /-- A part of all subjects of a kind, worked out or kept. -/
  | attribute
  | field
  /-- An operation of a kind itself, and one that needs no subject. -/
  | kindOperation
  | freeOperation
  | table
  /-- A kind with an argument. -/
  | applied
  deriving DecidableEq, Repr

namespace Kind

/-- The name of a kind. -/
def name : Kind → String
  | .text => "str"
  | .object => "object"
  | .kind => "type"
  | .nothing => "NoneType"
  | .row => "tuple"
  | .integer => "int"
  | .truth => "bool"
  | .view => "mappingproxy"
  | .operation => "builtin_function_or_method"
  | .operator => "method-wrapper"
  | .anyOperation => "method_descriptor"
  | .anyOperator => "wrapper_descriptor"
  | .attribute => "getset_descriptor"
  | .field => "member_descriptor"
  | .kindOperation => "classmethod_descriptor"
  | .freeOperation => "staticmethod"
  | .table => "dict"
  | .applied => "GenericAlias"

/-- The module of a kind. -/
def module : Kind → String
  | .applied => "types"
  | _ => "builtins"

/-- The name of a kind after its module, which is left out if it is the usual one. -/
def fullName : Kind → String
  | .applied => "types.GenericAlias"
  | k => k.name

/-- A kind as it is shown. -/
def label (k : Kind) : String :=
  "<class '" ++ k.fullName ++ "'>"

/-- The kind right above a kind. -/
def parent? : Kind → Option Kind
  | .object => none
  | .truth => some .integer
  | _ => some .object

/-- A kind and the kinds above it, from the nearest on. All are below that of objects. -/
def line : Kind → List Kind
  | .object => [.object]
  | .truth => [.truth, .integer, .object]
  | k => [k, .object]

/-- What is known of the size of a kind: that of each subject and of each of its items, the marks
of the kind, and where in a subject its own table and the references to it are kept. -/
structure Size where
  whole : Nat
  item : Nat
  marks : Nat
  table : Nat := 0
  references : Nat := 0
  deriving DecidableEq, Repr

/-- The size of a kind. -/
def size : Kind → Size
  | .text => { whole := 80, item := 0, marks := 273159424 }
  | .object => { whole := 16, item := 0, marks := 529664 }
  | .kind => { whole := 904, item := 40, marks := 2148031744, table := 264, references := 368 }
  | .nothing => { whole := 16, item := 0, marks := 528640 }
  | .row => { whole := 24, item := 8, marks := 71849248 }
  | .integer => { whole := 24, item := 4, marks := 21501184 }
  | .truth => { whole := 32, item := 4, marks := 21500160 }
  | .view => { whole := 24, item := 0, marks := 545088 }
  | .operation => { whole := 56, item := 0, marks := 547200, references := 40 }
  | .operator => { whole := 32, item := 0, marks := 545152 }
  | .anyOperation => { whole := 56, item := 0, marks := 678272 }
  | .anyOperator => { whole := 56, item := 0, marks := 676224 }
  | .attribute => { whole := 48, item := 0, marks := 545152 }
  | .field => { whole := 48, item := 0, marks := 545152 }
  | .kindOperation => { whole := 56, item := 0, marks := 545152 }
  | .freeOperation => { whole := 32, item := 0, marks := 546048, table := 24 }
  | .table => { whole := 48, item := 0, marks := 541611328 }
  | .applied => { whole := 64, item := 0, marks := 548096, references := 40 }

/-- How the making of a subject of a kind is written, if it is told. -/
def signature? : Kind → Option String
  | .object => some "()"
  | .row => some "(iterable=(), /)"
  | _ => none

/-- Whether a kind can be given an argument. -/
def isApplicable : Kind → Bool
  | .kind | .row | .view | .table => true
  | _ => false

end Kind

end Routewright.Formatting
