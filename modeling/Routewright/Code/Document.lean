import Routewright.Code.Tree
import Routewright.Value

/-!
# Code as a document

A tree of code written as a value. Each node is an object whose field `t` names its kind and whose
other fields hold its parts.
-/

namespace Routewright.Code

/-- The label of a kind of function. -/
def FunctionKind.label : FunctionKind → String
  | .free => "free"
  | .maker => "ctor"
  | .method => "method"

/-- A node of a kind with its other fields. -/
def node (kind : String) (fields : List (String × Value)) : Value :=
  Value.object (("t", .text kind) :: fields)

/-- A host type as a node. -/
def hostValue (h : HostType) : Value :=
  node "HostType" [("kind", .text h.kind.label), ("name", (h.name.map Value.text).getD .null)]

/-- A type as a node. -/
def TypeRef.toValue : TypeRef → Value
  | .host type borrowed => node "HostRef" [("host", hostValue type), ("borrowed", .bool borrowed)]
  | .named name borrowed isOptional =>
    node "NamedType"
      [("name", .text name), ("borrowed", .bool borrowed), ("optional", .bool isOptional)]
  | .enclosing => node "SelfType" []

/-- A literal as the value that it stands for. -/
def Literal.toValue : Literal → Value
  | .text s => .text s
  | .int n => .int n
  | .absent => .null

mutual

/-- An expression as a node. -/
def Expr.toValue : Expr → Value
  | .literal value => node "Lit" [("value", value.toValue)]
  | .variable name => node "Name" [("ident", .text name)]
  | .receiver => node "SelfRef" []
  | .member value name => node "Attr" [("value", value.toValue), ("attr", .text name)]
  | .length value => node "Length" [("value", value.toValue)]
  | .sum left right => node "Add" [("left", left.toValue), ("right", right.toValue)]
  | .call function arguments =>
    node "Call" [("func", .text function), ("args", .list (Expr.toValues arguments))]
  | .format template arguments =>
    node "Format" [("template", .text template), ("args", .list (Expr.toValues arguments))]
  | .convert typeName value =>
    node "Convert" [("type_name", .text typeName), ("value", value.toValue)]
  | .construct type fields =>
    node "Construct" [("type", type.toValue), ("fields", .list (Expr.toPairs fields))]
  | .enumMember enumeration name =>
    node "EnumMember" [("enum", .text enumeration), ("member", .text name)]
  | .present value => node "Some" [("value", value.toValue)]
  | .newBuffer capacity => node "BufferNew" [("capacity", capacity.toValue)]
  | .finishBuffer buffer => node "BufferFinish" [("buffer", buffer.toValue)]

/-- Expressions as nodes. -/
def Expr.toValues : List Expr → List Value
  | [] => []
  | e :: rest => e.toValue :: Expr.toValues rest

/-- Named expressions as pairs. -/
def Expr.toPairs : List (String × Expr) → List Value
  | [] => []
  | (name, e) :: rest => .list [.text name, e.toValue] :: Expr.toPairs rest

end

/-- A statement as a node. -/
def Stmt.toValue : Stmt → Value
  | .bind name value isMutable =>
    node "Let" [("name", .text name), ("value", value.toValue), ("mutable", .bool isMutable)]
  | .push buffer value => node "BufferPush" [("buffer", .text buffer), ("value", value.toValue)]
  | .result value => node "Return" [("value", value.toValue)]

/-- A parameter as a node. -/
def Param.toValue (p : Param) : Value :=
  node "Param"
    [("name", .text p.name), ("type", p.type.toValue), ("default_none", .bool p.defaultsToAbsent)]

/-- A function as a node. -/
def Function.toValue (f : Function) : Value :=
  node "Function"
    [("name", .text f.name), ("params", .list (f.params.map Param.toValue)),
      ("returns", f.returns.toValue), ("body", .list (f.body.map Stmt.toValue)),
      ("kind", .text f.kind.label), ("doc", .text f.doc)]

/-- A field as a node. -/
def Field.toValue (f : Field) : Value :=
  node "Field" [("name", .text f.name), ("type", f.type.toValue)]

/-- A record as a node. -/
def Record.toValue (r : Record) : Value :=
  node "Record"
    [("name", .text r.name), ("fields", .list (r.fields.map Field.toValue)),
      ("functions", .list (r.functions.map Function.toValue)), ("doc", .text r.doc)]

/-- A declaration as a node. -/
def Item.toValue : Item → Value
  | .function f => f.toValue
  | .record r => r.toValue
  | .wrapper w =>
    node "WrapperType"
      [("name", .text w.name), ("hosts", .list (w.hosts.map hostValue)), ("doc", .text w.doc)]
  | .namedText t => node "OpaqueType" [("name", .text t.name), ("doc", .text t.doc)]
  | .prelude => node "Prelude" []

/-- A group of declarations as a node. -/
def Namespace.toValue (n : Namespace) : Value :=
  node "Namespace"
    [("name", .text n.name), ("items", .list (n.items.map Item.toValue)),
      ("uses", .list (n.uses.map Value.text))]

/-- A source file as a node. -/
def Module.toValue (m : Module) : Value :=
  node "Module"
    [("namespaces", .list (m.namespaces.map Namespace.toValue)),
      ("banner", .list (m.banner.map Value.text))]

end Routewright.Code
