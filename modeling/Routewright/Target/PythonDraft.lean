import Routewright.Code.Draft
import Routewright.Json.Printer
import Routewright.Target.PythonSource

/-!
# Drafts as Python source

How drafts of code are written. Where a name is asked for, another value stands as it reads inside
text. What is written for an expression can be such a value by itself, which joins no row of texts.
-/

namespace Routewright.Code.Python

/-- A part as an identifier. -/
def draftIdent (d : Draft) : Draft :=
  d.mapText ident

/-- A part as an identifier inside other text. -/
def identText (d : Draft) : String :=
  (draftIdent d).display

/-- A host type in a draft. -/
def draftHost (d : Draft) : Except DraftFault String :=
  d.hostType.map host

/-- A type inside a record. What is no type stands for the record. -/
def draftType (record : Draft) : Draft → Except DraftFault Draft
  | .node "HostRef" parts => (draftHost (Draft.part parts "host")).map Draft.ofText
  | .node "NamedType" parts =>
    let name := draftIdent (Draft.part parts "name")
    .ok (if (Draft.part parts "optional").isTruthy then
      .ofText ("Optional[" ++ name.display ++ "]") else name)
  | _ => .ok record

/-- What is called to make a record of a type. -/
def draftConstructed : Draft → Except DraftFault String
  | .node "SelfType" _ => .ok "cls"
  | type => (draftType (.ofText "") type).map Draft.display

/-- A literal in a draft. -/
def draftLiteral : Draft → String
  | .scalar (.text s) => stringLiteral s
  | d => d.shown

mutual

/-- A value of a draft as JSON on one line. Nodes have no form. -/
def draftJson : Draft → Except DraftFault String
  | .scalar v => .ok (Json.write .ascii v)
  | .row items => do return "[" ++ commas (← draftJsons items) ++ "]"
  | _ => .error .shape

/-- Each of some values as JSON. -/
def draftJsons : List Draft → Except DraftFault (List String)
  | [] => .ok []
  | d :: rest => do
    let text ← draftJson d
    return text :: (← draftJsons rest)

end

/-- The length of a literal text, if there is one. -/
def literalLength? : Draft → Option Nat
  | .node "Lit" parts =>
    match Draft.part parts "value" with
    | .scalar (.text s) => some s.length
    | _ => none
  | _ => none

mutual

/-- An expression. -/
def draftExpr : Draft → Except DraftFault Draft
  | .node kind parts => do
    let text (name : String) := identText (Draft.part parts name)
    match kind with
    | "Lit" => return .ofText (draftLiteral (Draft.part parts "value"))
    | "Name" => return draftIdent (Draft.part parts "ident")
    | "SelfRef" => return .ofText "self"
    | "Attr" =>
      let value ← draftExpr (Draft.part parts "value")
      return .ofText (value.display ++ "." ++ text "attr")
    | "Length" =>
      match literalLength? (Draft.part parts "value") with
      | some n => return .ofText (toString n)
      | none =>
        let value ← draftExpr (Draft.part parts "value")
        return .ofText ("len(" ++ value.display ++ ")")
    | "Add" =>
      let left ← draftExpr (Draft.part parts "left")
      let right ← draftExpr (Draft.part parts "right")
      return .ofText (left.display ++ " + " ++ right.display)
    | "Call" =>
      let arguments ← Draft.texts (← draftExprs (Draft.part parts "args"))
      return .ofText (text "func" ++ "(" ++ commas arguments ++ ")")
    | "Format" =>
      let template ← draftJson (Draft.part parts "template")
      let arguments ← Draft.texts (← draftExprs (Draft.part parts "args"))
      return .ofText (template ++ ".format(" ++ commas arguments ++ ")")
    | "Convert" =>
      let value ← draftExpr (Draft.part parts "value")
      return .ofText (text "type_name" ++ "(" ++ value.display ++ ")")
    | "Construct" =>
      let type ← draftConstructed (Draft.part parts "type")
      let fields ← draftNamed (Draft.part parts "fields")
      return .ofText (type ++ "(" ++ commas fields ++ ")")
    | "EnumMember" =>
      return .ofText (text "enum" ++ "." ++ (Draft.part parts "member").display)
    | "Some" => draftExpr (Draft.part parts "value")
    | "BufferNew" =>
      let capacity ← draftExpr (Draft.part parts "capacity")
      return .ofText ("UrlBuffer(" ++ capacity.display ++ ")")
    | "BufferFinish" =>
      let buffer ← draftExpr (Draft.part parts "buffer")
      return .ofText (buffer.display ++ ".finish()")
    | _ => throw (.misplaced (.expression kind))
  | d => .error (Draft.noExpression d)
  termination_by d => sizeOf d
  decreasing_by all_goals exact Draft.sizeOf_part_lt ..

/-- Each of the expressions in a row. -/
def draftExprs : Draft → Except DraftFault (List Draft)
  | .row items => draftList items
  | d => Draft.noExpressions d
  termination_by d => sizeOf d

/-- Each of some expressions. -/
def draftList : List Draft → Except DraftFault (List Draft)
  | [] => .ok []
  | d :: rest => do
    let e ← draftExpr d
    return e :: (← draftList rest)
  termination_by ds => sizeOf ds

/-- Each of the named arguments in a row. -/
def draftNamed : Draft → Except DraftFault (List String)
  | .row items => draftNamedList items
  | d => Draft.noPairs d
  termination_by d => sizeOf d

/-- Each of some named arguments. -/
def draftNamedList : List Draft → Except DraftFault (List String)
  | [] => .ok []
  | .row [name, value] :: rest => do
    let e ← draftExpr value
    return (identText name ++ "=" ++ e.display) :: (← draftNamedList rest)
  | d :: _ => Draft.noPair d
  termination_by ds => sizeOf ds

end

/-- A statement. -/
def draftStmt : Draft → Except DraftFault String
  | .node "Let" parts => do
    let value ← draftExpr (Draft.part parts "value")
    return identText (Draft.part parts "name") ++ " = " ++ value.display
  | .node "BufferPush" parts => do
    let value ← draftExpr (Draft.part parts "value")
    return identText (Draft.part parts "buffer") ++ ".push(" ++ value.display ++ ")"
  | .node "Return" parts => do
    return "return " ++ (← draftExpr (Draft.part parts "value")).display
  | d => .error (.misplaced (.statement d.typeName))

/-- A parameter of a function of a record. -/
def draftParam (record d : Draft) : Except DraftFault String := do
  let name := identText (← d.get "name")
  let type ← draftType record (← d.get "type")
  return name ++ ": " ++ type.display
    ++ (if (← d.get "default_none").isTruthy then " = None" else "")

/-- What stands before the parameters of a function. -/
def draftReceiver : Draft → List String
  | .functionKind kind => receiverParams kind
  | _ => []

/-- A function of a record. -/
def draftFunction (record d : Draft) : Except DraftFault String := do
  let params ← (← (← d.get "params").items).mapM (draftParam record)
  let receiver := draftReceiver (← d.get "kind")
  let returns ← draftType record (← d.get "returns")
  let doc ← (← d.get "doc").docText?
  let body ← (← (← d.get "body").items).mapM draftStmt
  return Text.join "\n"
    ((if receiver = ["cls"] then ["@classmethod"] else [])
      ++ ["def " ++ identText (← d.get "name") ++ "(" ++ commas (receiver ++ params) ++ ") -> "
          ++ returns.display ++ ":",
        Text.indent (Text.join "\n" ((doc.map docstring).toList ++ body)) 1])

/-- Whether a type is that of a value that may be absent. -/
def isOptional : Draft → Bool
  | .node "NamedType" parts => (Draft.part parts "optional").isTruthy
  | _ => false

/-- A field of a record. -/
def draftField (record d : Draft) : Except DraftFault String := do
  let name := identText (← d.get "name")
  let given ← d.get "type"
  let type ← draftType record given
  return name ++ ": " ++ type.display ++ if isOptional given then " = None" else ""

/-- A record. -/
def draftRecord (d : Draft) : Except DraftFault String := do
  let name := draftIdent (← d.get "name")
  let doc ← (← d.get "doc").docText?
  let fields ← (← (← d.get "fields").items).mapM (draftField name)
  let functions ← (← (← d.get "functions").items).mapM (draftFunction name)
  let body := (doc.map fun s => docstring s ++ "\n").toList ++ fields
    ++ functions.map ("\n" ++ ·)
  return "@dataclass(frozen=True)\nclass " ++ name.display ++ ":\n"
    ++ Text.indent (Text.join "\n" body) 1

/-- A documentation of a text type, or what stands for one that is not present. -/
def draftDoc (d : Draft) (missing : String) : String :=
  if d.isTruthy then d.display else missing

/-- A wrapper type. -/
def draftWrapper (d : Draft) : Except DraftFault String := do
  let hosts ← (← (← d.get "hosts").items).mapM Draft.hostType
  let types := accepted hosts
  let doc := draftDoc (← d.get "doc") ("Url part value, built from " ++ commas types ++ ".")
  return textType (identText (← d.get "name")) doc types

/-- A text type for a declared name. -/
def draftNamedText (d : Draft) : Except DraftFault String := do
  let name ← d.get "name"
  let doc := draftDoc (← d.get "doc") ("Text form of a ``" ++ name.display ++ "`` value.")
  return textType (identText name) doc ["str"]

/-- A declaration. -/
def draftItem (d : Draft) : Except DraftFault String :=
  match d with
  | .node "Function" _ => draftFunction (.ofText "") d
  | .node "Record" _ => draftRecord d
  | .node "WrapperType" _ => draftWrapper d
  | .node "OpaqueType" _ => draftNamedText d
  | .node "Prelude" _ => .ok preludeText
  | d => .error (.misplaced (.declaration d.typeName))

/-- The declarations in a row, each without line feeds at its ends. -/
def draftItems (d : Draft) : Except DraftFault (List String) := do
  return (← (← d.items).mapM draftItem).map Text.trimNewlines

/-- A group of declarations. -/
def draftNamespace (d : Draft) : Except DraftFault String := do
  let name := (← d.get "name").display
  let items ← draftItems (← d.get "items")
  return Text.join separator (("# --- " ++ name ++ " ---") :: items)

/-- The opening comment of a file. -/
def draftBanner (d : Draft) : Except DraftFault String := do
  return Text.join "\n"
    ((← d.items).map fun line => if line.isTruthy then "# " ++ line.display else "#")

/-- The opening comment of a file, if it is wanted and there is one. -/
def draftOpening (d : Draft) (marked : Bool) : Except DraftFault (List String) := do
  if !marked then return []
  let lines ← d.get "banner"
  if lines.isTruthy then return [← draftBanner lines] else return []

/-- A source file, with its opening comment if `marked`. -/
def draftModule (d : Draft) (marked : Bool) : Except DraftFault String := do
  let opening ← draftOpening d marked
  let namespaces ← (← (← d.get "namespaces").items).mapM draftNamespace
  return file separator (opening ++ header :: namespaces)

end Routewright.Code.Python
