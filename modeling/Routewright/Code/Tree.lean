import Routewright.HostType

/-!
# Generated code

The declarations that a generated source file holds, before a target language gives them their
text: types, expressions, statements, functions, records and the two kinds of text types. The tree
covers what url builders and requests need and no more.
-/

namespace Routewright.Code

/-- A type in a signature or a field. -/
inductive TypeRef
  | host (type : HostType) (borrowed : Bool)
  | named (name : String) (borrowed isOptional : Bool)
  /-- The record that encloses the function. -/
  | enclosing
  deriving DecidableEq, Repr

/-- A literal value. -/
inductive Literal
  | text (s : String)
  | int (n : Int)
  | absent
  deriving DecidableEq, Repr

/-- An expression. -/
inductive Expr
  | literal (value : Literal)
  | variable (name : String)
  /-- The receiver of a method. -/
  | receiver
  | member (value : Expr) (name : String)
  /-- The length of a text, in the unit of the target. -/
  | length (value : Expr)
  | sum (left right : Expr)
  | call (function : String) (arguments : List Expr)
  /-- One formatting call that fills the `{}` holes of a template in order. -/
  | format (template : String) (arguments : List Expr)
  | convert (typeName : String) (value : Expr)
  | construct (type : TypeRef) (fields : List (String × Expr))
  | enumMember (enumeration member : String)
  /-- A value that is there where it may be absent. -/
  | present (value : Expr)
  /-- A text buffer of fixed capacity. -/
  | newBuffer (capacity : Expr)
  /-- The text in a buffer. -/
  | finishBuffer (buffer : Expr)
  deriving Repr

/-- A statement of a function body. -/
inductive Stmt
  | bind (name : String) (value : Expr) (isMutable : Bool)
  | push (buffer : String) (value : Expr)
  | result (value : Expr)
  deriving Repr

/-- How a function is called: by itself, on its record, or on a value of its record. -/
inductive FunctionKind
  | free
  | maker
  | method
  deriving DecidableEq, Repr

/-- A parameter of a function; one that defaults to absent may be left out of a call. -/
structure Param where
  name : String
  type : TypeRef
  defaultsToAbsent : Bool := false
  deriving DecidableEq, Repr

/-- A function. -/
structure Function where
  name : String
  params : List Param
  returns : TypeRef
  body : List Stmt
  kind : FunctionKind := .free
  doc : String := ""
  deriving Repr

/-- A field of a record. -/
structure Field where
  name : String
  type : TypeRef
  deriving DecidableEq, Repr

/-- A request type with its constructors and methods. -/
structure Record where
  name : String
  fields : List Field
  functions : List Function := []
  doc : String := ""
  deriving Repr

/-- A text type for a url part, convertible from each of `hosts`. -/
structure Wrapper where
  name : String
  hosts : List HostType := []
  doc : String := ""
  deriving DecidableEq, Repr

/-- A text type for a declared type name outside the scalars. -/
structure NamedText where
  name : String
  doc : String := ""
  deriving DecidableEq, Repr

/-- A declaration. -/
inductive Item
  | function (f : Function)
  | record (r : Record)
  | wrapper (w : Wrapper)
  | namedText (t : NamedText)
  /-- The types that every generated file defines. -/
  | prelude
  deriving Repr

/-- A group of declarations; `uses` are the groups it refers to. -/
structure Namespace where
  name : String
  items : List Item := []
  uses : List String := []
  deriving Repr

/-- A source file. -/
structure Module where
  namespaces : List Namespace
  banner : List String := []
  deriving Repr

end Routewright.Code
