import Routewright.Code.Document
import Routewright.Validation

/-!
# Drafts of code

A draft is a tree of code that was written by hand as a value. Each node is an object whose field
`t` names its kind and whose other fields hold its parts; a part that is left out has a default.
Nothing says that a part is of the kind that its place asks for: where an expression, a name or a
row of parts is asked for, there may be anything. What a draft cannot be printed for is a
`DraftFault`, and the first one in printing order is reported.
-/

namespace Routewright.Code

/-- A part of a draft. -/
inductive Draft
  /-- A value that is neither a row nor a node. -/
  | scalar (value : Value)
  | row (items : List Draft)
  /-- A node of a kind with all of its parts in their order. -/
  | node (kind : String) (parts : List (String × Draft))
  | host (type : HostType)
  | hostKind (kind : HostKind)
  | functionKind (kind : FunctionKind)
  deriving Repr, Inhabited

/-! ## Reading -/

/-- What a part is if it is left out. -/
inductive Default
  | no
  | nothing
  | noText
  | freeFunction
  deriving DecidableEq, Repr

/-- A default as a part. -/
def Default.draft : Default → Draft
  | .no => .scalar (.bool false)
  | .nothing => .row []
  | .noText => .scalar (.text "")
  | .freeFunction => .functionKind .free

/-- The parts of the nodes of a kind: those that must be there, and those that follow them and may
be left out. -/
structure NodeParts where
  kind : String
  required : List String := []
  optional : List (String × Default) := []

/-- The parts of the nodes of all kinds. -/
def nodeParts : List NodeParts :=
  [{ kind := "HostRef", required := ["host"], optional := [("borrowed", .no)] },
    { kind := "NamedType", required := ["name"]
      optional := [("borrowed", .no), ("optional", .no)] },
    { kind := "SelfType" },
    { kind := "Lit", required := ["value"] },
    { kind := "Name", required := ["ident"] },
    { kind := "SelfRef" },
    { kind := "Attr", required := ["value", "attr"] },
    { kind := "Length", required := ["value"] },
    { kind := "Add", required := ["left", "right"] },
    { kind := "Call", required := ["func"], optional := [("args", .nothing)] },
    { kind := "Format", required := ["template"], optional := [("args", .nothing)] },
    { kind := "Convert", required := ["type_name", "value"] },
    { kind := "Construct", required := ["type"], optional := [("fields", .nothing)] },
    { kind := "EnumMember", required := ["enum", "member"] },
    { kind := "Some", required := ["value"] },
    { kind := "BufferNew", required := ["capacity"] },
    { kind := "BufferFinish", required := ["buffer"] },
    { kind := "Let", required := ["name", "value"], optional := [("mutable", .no)] },
    { kind := "BufferPush", required := ["buffer", "value"] },
    { kind := "Return", required := ["value"] },
    { kind := "Param", required := ["name", "type"], optional := [("default_none", .no)] },
    { kind := "Function", required := ["name", "params", "returns", "body"]
      optional := [("kind", .freeFunction), ("doc", .noText)] },
    { kind := "Field", required := ["name", "type"] },
    { kind := "Record", required := ["name", "fields"]
      optional := [("functions", .nothing), ("doc", .noText)] },
    { kind := "WrapperType", required := ["name"]
      optional := [("hosts", .nothing), ("doc", .noText)] },
    { kind := "OpaqueType", required := ["name"], optional := [("doc", .noText)] },
    { kind := "Prelude" },
    { kind := "Namespace", required := ["name"]
      optional := [("items", .nothing), ("uses", .nothing)] },
    { kind := "Module", required := ["namespaces"], optional := [("banner", .nothing)] }]

/-- The kind of nodes that are host types. -/
def hostNode : String := "HostType"

/-- Why a value is no draft. -/
inductive Malformation
  /-- An object does not say of what kind it is. -/
  | unnamedKind
  /-- An object is of no known kind. -/
  | unknownKind
  /-- A part that a node needs is missing, or it has one that it cannot have. -/
  | parts
  /-- A function is called in no known way. -/
  | functionKind
  /-- A host type does not fit. -/
  | host (error : ValidationError)
  deriving Repr

/-- A name that may be absent. -/
def checkName : Value → Checked (Option String)
  | .null => .valid none
  | v => (Checked.text v).map some

/-- The fields of a host type. -/
def checkHost (fields : List (Value × Value)) : Checked HostType :=
  ((Checked.required fields "kind" (Checked.choice HostKind.ofLabel?)).map HostType.mk)
    |>.ap (Checked.optional fields "name" checkName none)

/-- The kind that an object says it is of. -/
def kindOf (fields : List (Value × Value)) : Except Malformation String :=
  match Value.find? "t" fields with
  | some (.text kind) =>
    if kind = hostNode || nodeParts.any fun n => n.kind = kind then .ok kind
    else .error .unknownKind
  | some _ => .error .parts
  | none => .error .unnamedKind

/-- The kind of function of a label. -/
def FunctionKind.ofLabel? (s : String) : Option FunctionKind :=
  [FunctionKind.free, .maker, .method].find? fun k => k.label = s

/-- The part of a name, none if it may not be left out. -/
def NodeParts.part? (n : NodeParts) (given : List (String × Draft)) (name : String) :
    Option Draft :=
  (given.lookup name).orElse fun _ => (n.optional.lookup name).map Default.draft

/-- How a function is called, instead of its label. -/
def withFunctionKind (given : List (String × Draft)) :
    Except Malformation (List (String × Draft)) :=
  given.mapM fun part =>
    match part with
    | ("kind", .scalar (.text s)) =>
      match FunctionKind.ofLabel? s with
      | some kind => .ok ("kind", .functionKind kind)
      | none => .error .functionKind
    | ("kind", _) => .error .functionKind
    | _ => .ok part

/-- A node of the parts that are given for it. -/
def NodeParts.make (n : NodeParts) (given : List (String × Draft)) : Except Malformation Draft := do
  let given ← if n.kind = "Function" then withFunctionKind given else .ok given
  let names := n.required ++ n.optional.map Prod.fst
  if given.any fun part => part.1 ∉ names then throw .parts
  match names.mapM fun name => (n.part? given name).map (name, ·) with
  | some parts => return .node n.kind parts
  | none => throw .parts

/-- A node of a kind. -/
def makeNode (kind : String) (fields : List (Value × Value)) (given : List (String × Draft)) :
    Except Malformation Draft :=
  match nodeParts.find? fun n => n.kind = kind with
  | some n => n.make given
  | none =>
    match Checked.validate hostNode (checkHost fields) with
    | .ok type => .ok (.host type)
    | .error e => .error (.host e)

mutual

/-- The draft that a value is; what is inside an object is read before it. -/
def Draft.ofValue : Value → Except Malformation Draft
  | .map fields => do
    let kind ← kindOf fields
    makeNode kind fields (← Draft.ofEntries fields)
  | .list items => do return .row (← Draft.ofValues items)
  | v => .ok (.scalar v)

/-- The drafts that some values are. -/
def Draft.ofValues : List Value → Except Malformation (List Draft)
  | [] => .ok []
  | v :: rest => do
    let d ← Draft.ofValue v
    return d :: (← Draft.ofValues rest)

/-- The parts that some entries are, without the one that names the kind. -/
def Draft.ofEntries : List (Value × Value) → Except Malformation (List (String × Draft))
  | [] => .ok []
  | (key, v) :: rest => do
    let d ← Draft.ofValue v
    let more ← Draft.ofEntries rest
    return if key.display = "t" then more else (key.display, d) :: more

end

namespace Draft

/-! ## Parts as texts -/

/-- A text as a part. -/
def ofText (s : String) : Draft :=
  .scalar (.text s)

/-- The kind of host as messages show it. -/
def hostKindText (kind : HostKind) : String :=
  "<HostKind." ++ kind.label.toUpper ++ ": '" ++ kind.label ++ "'>"

/-- The name of a function kind in capitals. -/
def functionKindText (kind : FunctionKind) : String :=
  "<FnKind." ++ kind.label.toUpper ++ ": '" ++ kind.label ++ "'>"

/-- The fields of a host type as messages show them, apart from each other. -/
def hostFields (separator : String) (type : HostType) : String :=
  "kind=" ++ hostKindText type.kind ++ separator ++ "name="
    ++ ((type.name.map Text.shown).getD "None")

mutual

/-- A part as messages show it. -/
def shown : Draft → String
  | .scalar v => v.shown
  | .row [d] => "(" ++ shown d ++ ",)"
  | .row items => "(" ++ shownItems items ++ ")"
  | .node kind parts => kind ++ "(" ++ shownParts parts ++ ")"
  | .host type => hostNode ++ "(" ++ hostFields ", " type ++ ")"
  | .hostKind kind => hostKindText kind
  | .functionKind kind => functionKindText kind

/-- Parts in a row, separated by commas. -/
def shownItems : List Draft → String
  | [] => ""
  | [d] => shown d
  | d :: e :: rest => shown d ++ ", " ++ shownItems (e :: rest)

/-- Named parts in a row, separated by commas. -/
def shownParts : List (String × Draft) → String
  | [] => ""
  | [(name, d)] => name ++ "=" ++ shown d
  | (name, d) :: e :: rest => name ++ "=" ++ shown d ++ ", " ++ shownParts (e :: rest)

end

/-- A part inside other text: a text as it is, a host type by its fields. -/
def display : Draft → String
  | .scalar v => v.display
  | .host type => hostFields " " type
  | .hostKind kind => "HostKind." ++ kind.label.toUpper
  | .functionKind kind => "FnKind." ++ kind.label.toUpper
  | d => d.shown

/-- What a part is called in the report that it stands in the wrong place. -/
def typeName : Draft → String
  | .scalar v => v.typeName
  | .row _ => "tuple"
  | .node kind _ => kind
  | .host _ => hostNode
  | .hostKind _ => "HostKind"
  | .functionKind _ => "FnKind"

/-- Whether a part counts as present: not nothing, false, zero or empty. -/
def isTruthy : Draft → Bool
  | .scalar v => v.isTruthy
  | .row items => !items.isEmpty
  | _ => true

/-! ## Faults -/

end Draft

/-- A node that stands in the wrong place, by its kind. -/
inductive Misplaced
  | expression (kind : String)
  | statement (kind : String)
  | declaration (kind : String)
  deriving DecidableEq, Repr

/-- The wording of a misplacement. -/
def Misplaced.message : Misplaced → String
  | .expression kind => "Cannot print expression " ++ kind
  | .statement kind => "Cannot print statement " ++ kind
  | .declaration kind => "Cannot print " ++ kind

/-- Why a draft cannot be printed. -/
inductive DraftFault
  | misplaced (node : Misplaced)
  /-- A row of parts is asked for, or a text, and something else is there. -/
  | shape
  /-- A node has no part of a name. -/
  | noPart (name : String)
  /-- A kind of function stands where a kind of host should. -/
  | noHost
  /-- A field of a record expression is not two parts in a row. -/
  | noPair
  deriving DecidableEq, Repr

namespace Draft

/-- The part of a name. -/
def get (d : Draft) (name : String) : Except DraftFault Draft :=
  match d, name with
  | .host type, "kind" => .ok (.hostKind type.kind)
  | .host type, "name" => .ok (.scalar ((type.name.map Value.text).getD .null))
  | .node _ parts, name =>
    match parts.lookup name with
    | some part => .ok part
    | none => .error (.noPart name)
  | _, _ => .error (.noPart name)

/-- The parts of a row, the characters of a text, the named fields of a host type. -/
def items : Draft → Except DraftFault (List Draft)
  | .row items => .ok items
  | .scalar (.text s) => .ok (s.toList.map fun c => ofText (String.singleton c))
  | .host type =>
    .ok [.row [ofText "kind", .hostKind type.kind],
      .row [ofText "name", .scalar ((type.name.map Value.text).getD .null)]]
  | _ => .error .shape

/-- A part that must be a text. -/
def asText : Draft → Except DraftFault String
  | .scalar (.text s) => .ok s
  | _ => .error .shape

/-- Parts that must be texts. -/
def texts (ds : List Draft) : Except DraftFault (List String) :=
  ds.mapM asText

/-- The texts of a row of texts. -/
def textItems (d : Draft) : Except DraftFault (List String) := do
  texts (← d.items)

/-- A part in the place of a name, where only texts can be reserved words. -/
def mapText (change : String → String) : Draft → Draft
  | .scalar (.text s) => ofText (change s)
  | d => d

/-- The texts of a documentation, none if it is not present. -/
def docText? (d : Draft) : Except DraftFault (Option String) :=
  if !d.isTruthy then .ok none
  else match d with
    | .scalar (.text s) => .ok (some s)
    | _ => .error (.noPart "split")

/-- The host type in the place of one. -/
def hostType (d : Draft) : Except DraftFault HostType :=
  match d with
  | .host type => .ok type
  | .node "Function" _ => .error .noHost
  | _ => .error (.noPart "kind")

/-- The fault of an expression that is none. -/
def noExpression (d : Draft) : DraftFault :=
  .misplaced (.expression d.typeName)

/-- The fault of what is no row of expressions: the first part that it has is no expression. -/
def noExpressions (d : Draft) : Except DraftFault (List Draft) := do
  match ← d.items with
  | [] => .ok []
  | first :: _ => .error (noExpression first)

/-- The fault of what is no pair of a name and an expression, though it may have two parts. -/
def noPair {α : Type} (d : Draft) : Except DraftFault α := do
  match ← d.items with
  | [_, value] => .error (noExpression value)
  | _ => .error .noPair

/-- The fault of what is no row of pairs. -/
def noPairs (d : Draft) : Except DraftFault (List String) := do
  match ← d.items with
  | [] => .ok []
  | first :: _ => noPair first

mutual

/-- Whether two parts are equal. Numbers of all kinds compare by what they equal. -/
def same : Draft → Draft → Bool
  | .scalar v, .scalar w => v.sameKey w
  | .row ds, .row es => sameItems ds es
  | .node kind parts, .node kind' parts' => kind = kind' && sameParts parts parts'
  | .host type, .host type' => type = type'
  | .hostKind kind, .hostKind kind' => kind = kind'
  | .functionKind kind, .functionKind kind' => kind = kind'
  | _, _ => false

/-- Whether the parts in two rows are equal. -/
def sameItems : List Draft → List Draft → Bool
  | [], [] => true
  | d :: ds, e :: es => same d e && sameItems ds es
  | _, _ => false

/-- Whether the named parts in two rows are equal. -/
def sameParts : List (String × Draft) → List (String × Draft) → Bool
  | [], [] => true
  | d :: ds, e :: es => d.1 = e.1 && same d.2 e.2 && sameParts ds es
  | _, _ => false

end

/-! ## Parts are smaller -/

/-- A part of a node, nothing if there is none of the name. -/
def part (parts : List (String × Draft)) (name : String) : Draft :=
  (parts.lookup name).getD (.row [])

theorem sizeOf_lookup_lt {parts : List (String × Draft)} {name : String} {d : Draft}
    (h : parts.lookup name = some d) : sizeOf d < sizeOf parts := by
  induction parts with
  | nil => simp at h
  | cons e rest ih =>
    obtain ⟨key, d'⟩ := e
    rw [List.lookup_cons] at h
    split at h
    · simp_all; omega
    · have := ih h; simp; omega

theorem sizeOf_parts_pos (parts : List (String × Draft)) : 0 < sizeOf parts := by
  cases parts with
  | nil => rw [List.nil.sizeOf_spec]; omega
  | cons e es => rw [List.cons.sizeOf_spec]; omega

theorem sizeOf_text_pos (s : String) : 0 < sizeOf s := by
  rcases s with ⟨bytes, valid⟩
  rw [String.ofByteArray.sizeOf_spec]
  omega

theorem sizeOf_part_lt (kind : String) (parts : List (String × Draft)) (name : String) :
    sizeOf (part parts name) < sizeOf (Draft.node kind parts) := by
  unfold part
  cases h : parts.lookup name with
  | none =>
    have := sizeOf_parts_pos parts
    have := sizeOf_text_pos kind
    simp
    omega
  | some d => have := sizeOf_lookup_lt h; simp; omega

end Draft

end Routewright.Code
