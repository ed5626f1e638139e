import Routewright.Code.Draft
import Routewright.Target.RustSource

/-!
# Drafts as Rust source

How drafts of code are written. Where a name is asked for, another value stands as it reads inside
text. What is written for an expression or a result can be such a value by itself, which joins no
row of texts.
-/

namespace Routewright.Code.Rust

/-- A part as an identifier. -/
def draftIdent (d : Draft) : Draft :=
  d.mapText ident

/-- A part as an identifier inside other text. -/
def identText (d : Draft) : String :=
  (draftIdent d).display

/-- A type. What is no type stands for the enclosing record. -/
def draftType : Draft → Except DraftFault Draft
  | .node "HostRef" parts => do
    let type ← (Draft.part parts "host").hostType
    return .ofText (if (Draft.part parts "borrowed").isTruthy then borrowedHost type else host type)
  | .node "NamedType" parts =>
    let name := draftIdent (Draft.part parts "name")
    .ok (if (Draft.part parts "optional").isTruthy then .ofText ("Option<" ++ name.display ++ ">")
      else if (Draft.part parts "borrowed").isTruthy then .ofText ("&" ++ name.display)
      else name)
  | _ => .ok (.ofText "Self")

/-- A literal in a draft. -/
def draftLiteral : Draft → String
  | .scalar (.text s) => stringLiteral s
  | d => d.display

/-- A piece of a string literal: one character, or a stretch of quotes and backslashes as it stands
in the row of those two, which may be empty. -/
def literalPiece (s : String) : Except DraftFault String :=
  if s = "" || s = "\"\\" then .ok ("\\" ++ s)
  else match s.toList with
    | [c] => .ok (String.ofList (literalChar c))
    | _ => .error .shape

/-- The template of a formatting call, which may be a row of pieces. -/
def draftTemplate : Draft → Except DraftFault String
  | .scalar (.text s) => .ok (stringLiteral s)
  | d => do return "\"" ++ String.join (← (← d.textItems).mapM literalPiece) ++ "\""

/-- The length of a literal text in bytes, if there is one. -/
def literalLength? : Draft → Option Nat
  | .node "Lit" parts =>
    match Draft.part parts "value" with
    | .scalar (.text s) => some s.utf8ByteSize
    | _ => none
  | _ => none

/-- A field of a record expression; a variable of the same name is not repeated. -/
def draftFieldValue (name value : Draft) : String :=
  if value.same name then name.display ++ ","
  else name.display ++ ": " ++ value.display ++ ","

/-- The name of a member of an enumeration. -/
def memberName : Draft → Except DraftFault String
  | .scalar (.text s) => .ok (String.ofList (Text.capitalize s.toList))
  | _ => .error (.noPart "capitalize")

mutual

/-- An expression. -/
def draftExpr : Draft → Except DraftFault Draft
  | .node kind parts => do
    let text (name : String) := identText (Draft.part parts name)
    match kind with
    | "Lit" => return .ofText (draftLiteral (Draft.part parts "value"))
    | "Name" => return draftIdent (Draft.part parts "ident")
    | "SelfRef" => return .ofText "self"
    | "Attr" =>
      let value ← draftExpr (Draft.part parts "value")
      return .ofText (value.display ++ "." ++ text "attr")
    | "Length" =>
      match literalLength? (Draft.part parts "value") with
      | some n => return .ofText (toString n)
      | none =>
        let value ← draftExpr (Draft.part parts "value")
        return .ofText (value.display ++ ".len()")
    | "Add" =>
      let left ← draftExpr (Draft.part parts "left")
      let right ← draftExpr (Draft.part parts "right")
      return .ofText (left.display ++ " + " ++ right.display)
    | "Call" =>
      let arguments ← Draft.texts (← draftExprs (Draft.part parts "args"))
      return .ofText (text "func" ++ "(" ++ commas arguments ++ ")")
    | "Format" =>
      let template ← draftTemplate (Draft.part parts "template")
      let arguments ← Draft.texts (← draftExprs (Draft.part parts "args"))
      return .ofText ("format!(" ++ template ++ ", " ++ commas arguments ++ ")")
    | "Convert" =>
      let value ← draftExpr (Draft.part parts "value")
      return .ofText (text "type_name" ++ "::from(" ++ value.display ++ ")")
    | "Construct" =>
      let fields ← draftFields (Draft.part parts "fields")
      let type ← draftType (Draft.part parts "type")
      return .ofText (type.display ++ " \x7b\n" ++ Text.indent (Text.join "\n" fields) 1
        ++ "\n\x7d")
    | "EnumMember" =>
      let member ← memberName (Draft.part parts "member")
      return .ofText (text "enum" ++ "::" ++ member)
    | "Some" =>
      let value ← draftExpr (Draft.part parts "value")
      return .ofText ("Some(" ++ value.display ++ ")")
    | "BufferNew" =>
      let capacity ← draftExpr (Draft.part parts "capacity")
      return .ofText ("String::with_capacity(" ++ capacity.display ++ ")")
    | "BufferFinish" => draftExpr (Draft.part parts "buffer")
    | _ => throw (.misplaced (.expression kind))
  | d => .error (Draft.noExpression d)
  termination_by d => sizeOf d
  decreasing_by all_goals exact Draft.sizeOf_part_lt ..

/-- Each of the expressions in a row. -/
def draftExprs : Draft → Except DraftFault (List Draft)
  | .row items => draftList items
  | d => Draft.noExpressions d
  termination_by d => sizeOf d

/-- Each of some expressions. -/
def draftList : List Draft → Except DraftFault (List Draft)
  | [] => .ok []
  | d :: rest => do
    let e ← draftExpr d
    return e :: (← draftList rest)
  termination_by ds => sizeOf ds

/-- Each of the fields in a row. -/
def draftFields : Draft → Except DraftFault (List String)
  | .row items => draftFieldList items
  | d => Draft.noPairs d
  termination_by d => sizeOf d

/-- Each of some fields. -/
def draftFieldList : List Draft → Except DraftFault (List String)
  | [] => .ok []
  | .row [name, value] :: rest => do
    let e ← draftExpr value
    return draftFieldValue (draftIdent name) e :: (← draftFieldList rest)
  | d :: _ => Draft.noPair d
  termination_by ds => sizeOf ds

end

/-- A statement. -/
def draftStmt : Draft → Except DraftFault Draft
  | .node "Let" parts => do
    let value ← draftExpr (Draft.part parts "value")
    let mutable := if (Draft.part parts "mutable").isTruthy then "mut " else ""
    return .ofText ("let " ++ mutable ++ identText (Draft.part parts "name") ++ " = "
      ++ value.display ++ ";")
  | .node "BufferPush" parts => do
    let value ← draftExpr (Draft.part parts "value")
    return .ofText (identText (Draft.part parts "buffer") ++ ".push_str(" ++ value.display ++ ");")
  | .node "Return" parts => draftExpr (Draft.part parts "value")
  | d => .error (.misplaced (.statement d.typeName))

/-- A parameter of a function. -/
def draftParam (d : Draft) : Except DraftFault String := do
  let name := identText (← d.get "name")
  return name ++ ": " ++ (← draftType (← d.get "type")).display

/-- What stands before the parameters of a function. -/
def draftReceiver : Draft → List String
  | .functionKind .method => ["self"]
  | _ => []

/-- The comment lines of a documentation. -/
def draftDocLines (d : Draft) : Except DraftFault (List String) := do
  return ((← d.docText?).map docLines).getD []

/-- A function. -/
def draftFunction (d : Draft) : Except DraftFault String := do
  let params ← (← (← d.get "params").items).mapM draftParam
  let receiver := draftReceiver (← d.get "kind")
  let doc ← draftDocLines (← d.get "doc")
  let name := identText (← d.get "name")
  let returns ← draftType (← d.get "returns")
  let body ← Draft.texts (← (← (← d.get "body").items).mapM draftStmt)
  return Text.join "\n"
    (doc ++ ["pub fn " ++ name ++ "(" ++ commas (receiver ++ params) ++ ") -> " ++ returns.display
        ++ " \x7b",
      Text.indent (Text.join "\n" body) 1,
      "\x7d"])

/-- A field of a record. -/
def draftField (d : Draft) : Except DraftFault String := do
  let name := identText (← d.get "name")
  return Text.indentUnit ++ "pub " ++ name ++ ": " ++ (← draftType (← d.get "type")).display ++ ","

/-- The functions of a record, none if they are not present. -/
def draftFunctions (name : String) (d : Draft) : Except DraftFault (List String) := do
  if !d.isTruthy then return []
  let functions ← (← d.items).mapM draftFunction
  return ["", "impl " ++ name ++ " \x7b\n" ++ Text.indent (Text.join "\n\n" functions) 1
    ++ "\n\x7d"]

/-- A record. -/
def draftRecord (d : Draft) : Except DraftFault String := do
  let name := identText (← d.get "name")
  let doc ← draftDocLines (← d.get "doc")
  let fields ← (← (← d.get "fields").items).mapM draftField
  let functions ← draftFunctions name (← d.get "functions")
  return Text.join "\n"
    (doc ++ derives :: ("pub struct " ++ name ++ " \x7b") :: fields ++ "\x7d" :: functions)

/-- A text type. -/
def draftTextType (d : Draft) (hosts : List HostType) : Except DraftFault String := do
  let doc ← d.get "doc"
  return textType (identText (← d.get "name")) (if doc.isTruthy then doc.display else "") hosts

/-- A wrapper type. -/
def draftWrapper (d : Draft) : Except DraftFault String := do
  let hosts ← (← (← d.get "hosts").items).mapM Draft.hostType
  draftTextType d (hosts.filter fun h => h.kind ≠ .text)

/-- A declaration. -/
def draftItem (d : Draft) : Except DraftFault String :=
  match d with
  | .node "Function" _ => draftFunction d
  | .node "Record" _ => draftRecord d
  | .node "WrapperType" _ => draftWrapper d
  | .node "OpaqueType" _ => draftTextType d []
  | .node "Prelude" _ => .ok preludeText
  | d => .error (.misplaced (.declaration d.typeName))

/-- The declarations in a row, each without line feeds at its ends. -/
def draftItems (d : Draft) : Except DraftFault (List String) := do
  return (← (← d.items).mapM draftItem).map Text.trimNewlines

/-- The groups that a group refers to, none if they are not present. -/
def draftUses (d : Draft) : Except DraftFault (List String) := do
  if !d.isTruthy then return []
  return [Text.join "\n" ((← d.items).map fun u => "use super::" ++ identText u ++ "::*;")]

/-- A group of declarations. -/
def draftNamespace (d : Draft) : Except DraftFault String := do
  let uses ← draftUses (← d.get "uses")
  let items ← draftItems (← d.get "items")
  return "pub mod " ++ identText (← d.get "name") ++ " \x7b\n"
    ++ Text.indent (Text.join "\n\n" (uses ++ items)) 1 ++ "\n\x7d"

/-- The opening comment of a file. -/
def draftBanner (d : Draft) : Except DraftFault String := do
  return banner (← d.textItems)

/-- The opening comment of a file, if it is wanted and there is one. -/
def draftOpening (d : Draft) (marked : Bool) : Except DraftFault (List String) := do
  if !marked then return []
  let lines ← d.get "banner"
  if lines.isTruthy then return [← draftBanner lines] else return []

/-- A source file, with its opening comment if `marked`. -/
def draftModule (d : Draft) (marked : Bool) : Except DraftFault String := do
  let opening ← draftOpening d marked
  let namespaces ← (← (← d.get "namespaces").items).mapM draftNamespace
  return file "\n\n" (opening ++ namespaces)

end Routewright.Code.Rust
