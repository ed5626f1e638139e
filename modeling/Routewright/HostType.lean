/-!
# Declared types and host types

A url part is declared with a type name of the description format (`SpecType`). Generated code holds
it as a host type: one of eight scalars, or a generated type that a name refers to.
-/

namespace Routewright

/-- The scalar categories of a declared type, and `other` for any name outside them. -/
inductive SpecKind
  | bool
  | long
  | int
  | short
  | byte
  | double
  | float
  | str
  | bin
  | other
  deriving DecidableEq, Repr

/-- The label of a category. -/
def SpecKind.label : SpecKind → String
  | .bool => "bool"
  | .long => "long"
  | .int => "int"
  | .short => "short"
  | .byte => "byte"
  | .double => "double"
  | .float => "float"
  | .str => "str"
  | .bin => "bin"
  | .other => "other"

/-- Every category. -/
def SpecKind.all : List SpecKind :=
  [.bool, .long, .int, .short, .byte, .double, .float, .str, .bin, .other]

/-- The category of a label. -/
def SpecKind.ofLabel? (s : String) : Option SpecKind :=
  all.find? fun k => k.label = s

/-- A declared type; `name` is the declared name of a type outside the scalar categories. -/
structure SpecType where
  kind : SpecKind
  name : Option String := none
  deriving DecidableEq, Repr

/-- The representations a value may have before it becomes part of a url. -/
inductive HostKind
  | bool
  | i64
  | i32
  | i16
  | u8
  | f32
  | text
  | bytes
  | named
  deriving DecidableEq, Repr

/-- The label of a representation. -/
def HostKind.label : HostKind → String
  | .bool => "bool"
  | .i64 => "i64"
  | .i32 => "i32"
  | .i16 => "i16"
  | .u8 => "u8"
  | .f32 => "f32"
  | .text => "text"
  | .bytes => "bytes"
  | .named => "opaque"

/-- Every representation, in the order in which conversions are listed. -/
def HostKind.all : List HostKind :=
  [.bool, .i64, .i32, .i16, .u8, .f32, .text, .bytes, .named]

/-- The representation of a label. -/
def HostKind.ofLabel? (s : String) : Option HostKind :=
  all.find? fun k => k.label = s

/-- A host type; `name` is the generated type that a `named` one stands for. -/
structure HostType where
  kind : HostKind
  name : Option String := none
  deriving DecidableEq, Repr

namespace HostType

/-- Plain text, the type of a parameter without a declaration. -/
def plain : HostType := { kind := .text }

/-- Whether one host type is listed strictly before another: by representation, then by name. -/
def before (a b : HostType) : Bool :=
  let i := HostKind.all.idxOf a.kind
  let j := HostKind.all.idxOf b.kind
  i < j || (i = j && decide (a.name.getD "" < b.name.getD ""))

end HostType

/-- The host representation of a scalar category. -/
def SpecKind.host? : SpecKind → Option HostKind
  | .bool => some .bool
  | .long => some .i64
  | .int => some .i32
  | .short => some .i16
  | .byte => some .u8
  | .double => some .f32
  | .float => some .f32
  | .str => some .text
  | .bin => some .bytes
  | .other => none

end Routewright
