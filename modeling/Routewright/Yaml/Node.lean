import Routewright.Yaml.Resolution
import Routewright.Yaml.Token

/-!
# Nodes

A document is a graph of scalars, sequences and mappings, each with its tag. Nodes have numbers, and
a collection holds the numbers of the nodes inside it; an alias stands for the node that it names,
which may be one of those around it. `Graph.ofTokens?` builds the only document of a list of tokens.
-/

namespace Routewright.Yaml

/-- What a node holds. -/
inductive Content
  | scalar (text : String)
  | sequence (items : List Nat)
  | mapping (entries : List (Nat × Nat))
  deriving Repr

/-- A node of a document. -/
structure Node where
  tag : Tag
  content : Content
  deriving Repr

/-- The empty value. -/
def Node.empty : Node :=
  { tag := .null, content := .scalar "" }

/-- The nodes of a document by their numbers, and the number of the outermost one. -/
structure Graph where
  nodes : Array Node
  root : Nat
  deriving Repr

/-- What is left of the tokens, and what has been read so far. -/
structure Reading where
  tokens : List Token
  /-- The addresses of tag handles. -/
  handles : List (String × String) := []
  /-- The nodes so far. A collection that is not complete has nothing in it. -/
  nodes : Array Node := #[]
  /-- The numbers of the nodes that have anchors. -/
  anchors : List (String × Nat) := []

namespace Reading

/-- The next token. -/
def head (r : Reading) : Token :=
  r.tokens.headD .finish

/-- The state after the next token. -/
def next (r : Reading) : Reading :=
  { r with tokens := r.tokens.tail }

/-- The failure at a token that cannot stand here. -/
def unexpected {α : Type} (r : Reading) : Except LexFault α :=
  match r.head with
  | .broken fault => .error fault
  | _ => .error .malformed

/-- The anchor and the tag before a node. -/
structure Marks where
  anchor : Option String := none
  tag : Option WrittenTag := none
  /-- Whether there is a tag that no anchor stands beside. -/
  tagAlone : Bool := false

/-- Reads the anchor and the tag before a node, in either order. -/
def marks (r : Reading) : Marks × Reading :=
  match r.tokens with
  | .anchor a :: .tag t :: rest => ({ anchor := some a, tag := some t }, { r with tokens := rest })
  | .tag t :: .anchor a :: rest =>
    ({ anchor := some a, tag := some t }, { r with tokens := rest })
  | .anchor a :: rest => ({ anchor := some a }, { r with tokens := rest })
  | .tag t :: rest => ({ tag := some t, tagAlone := true }, { r with tokens := rest })
  | _ => ({}, r)

/-- The address of a tag as it is written; the tag `!` alone is none in particular. -/
def addressOf (r : Reading) (t : WrittenTag) : Except LexFault (Option String) :=
  match t.handle with
  | none => .ok (if t.suffix = "!" then none else some t.suffix)
  | some h =>
    match r.handles.lookup h with
    | none => .error .malformed
    | some start =>
      let full := start ++ t.suffix
      .ok (if full = "!" then none else some full)

/-- The tag of a collection. -/
def collectionTag (address : Option String) (unmarked : Tag) : Tag :=
  (address.map Tag.ofAddress).getD unmarked

/-- The tag of a scalar that is plain or has the tag `!`, and of any other. -/
def scalarTag (address : Option String) (resolved : Bool) (text : String) : Tag :=
  match address with
  | some a => Tag.ofAddress a
  | none => if resolved then plainTag text else .text

/-- Adds a node with its anchor, which must be new. -/
def add (r : Reading) (anchor : Option String) (node : Node) : Except LexFault (Nat × Reading) :=
  let number := r.nodes.size
  let r := { r with nodes := r.nodes.push node }
  match anchor with
  | none => .ok (number, r)
  | some a =>
    if (r.anchors.lookup a).isSome then .error .malformed
    else .ok (number, { r with anchors := (a, number) :: r.anchors })

/-- Gives a node the content that has been read for it. -/
def complete (r : Reading) (number : Nat) (content : Content) : Reading :=
  { r with nodes := r.nodes.modify number fun n => { n with content } }

/-- Adds the empty value. -/
def addEmpty (r : Reading) : Nat × Reading :=
  (r.nodes.size, { r with nodes := r.nodes.push Node.empty })

/-- The address of the tag before a node. What follows a tag alone, which could have been an anchor,
is looked at before its handle. -/
def Marks.address (m : Marks) (r : Reading) : Except LexFault (Option String) :=
  match m.tag with
  | none => .ok none
  | some t =>
    match r.head with
    | .broken fault =>
      if m.tagAlone then .error fault else r.addressOf t
    | _ => r.addressOf t

mutual

/-- A node of at most so many levels. Block collections may start here if `block`, and a sequence at
the column of the mapping around it if `indentless`. -/
def node (block indentless : Bool) (levels : Nat) : Nat → Reading → Except LexFault (Nat × Reading)
  | 0, _ => .error .malformed
  | fuel + 1, r =>
    if levels = 0 then .error .tooDeep
    else match r.head with
    | .alias name =>
      match r.anchors.lookup name with
      | some n => .ok (n, r.next)
      | none => .error .malformed
    | _ => do
      let (m, r) := r.marks
      let address ← m.address r
      let sequence : Node := { tag := collectionTag address .list, content := .sequence [] }
      let mapping : Node := { tag := collectionTag address .map, content := .mapping [] }
      match r.head with
      | .scalar text isPlain =>
        let tag := scalarTag address (m.tag.isSome || isPlain) text
        let (n, r) ← r.add m.anchor { tag, content := .scalar text }
        return (n, r.next)
      | .flowSequenceStart =>
        let (n, r) ← r.add m.anchor sequence
        let (items, r) ← flowItems true (levels - 1) fuel r.next
        return (n, r.complete n (.sequence items))
      | .flowMappingStart =>
        let (n, r) ← r.add m.anchor mapping
        let (entries, r) ← flowEntries true (levels - 1) fuel r.next
        return (n, r.complete n (.mapping entries))
      | .broken fault => throw fault
      | other =>
        if other = .blockEntry && indentless then do
          let (n, r) ← r.add m.anchor sequence
          let (items, r) ← indentlessItems (levels - 1) fuel r
          return (n, r.complete n (.sequence items))
        else if other = .blockSequenceStart && block then do
          let (n, r) ← r.add m.anchor sequence
          let (items, r) ← blockItems (levels - 1) fuel r.next
          return (n, r.complete n (.sequence items))
        else if other = .blockMappingStart && block then do
          let (n, r) ← r.add m.anchor mapping
          let (entries, r) ← blockEntries (levels - 1) fuel r.next
          return (n, r.complete n (.mapping entries))
        else if m.anchor.isSome || m.tag.isSome then
          r.add m.anchor { tag := scalarTag address true "", content := .scalar "" }
        else throw .malformed
termination_by structural fuel => fuel

/-- A node, or the empty value before one of some tokens. -/
def nodeUnless (ends : List Token) (block indentless : Bool) (levels : Nat) :
    Nat → Reading → Except LexFault (Nat × Reading)
  | 0, _ => .error .malformed
  | fuel + 1, r =>
    if r.head ∈ ends then .ok r.addEmpty else node block indentless levels fuel r
termination_by structural fuel => fuel

/-- The rest of a block sequence. -/
def blockItems (levels : Nat) : Nat → Reading → Except LexFault (List Nat × Reading)
  | 0, _ => .error .malformed
  | fuel + 1, r =>
    match r.head with
    | .blockEntry => do
      let (item, r) ← nodeUnless [.blockEntry, .blockEnd] true false levels fuel r.next
      let (items, r) ← blockItems levels fuel r
      return (item :: items, r)
    | .blockEnd => .ok ([], r.next)
    | _ => r.unexpected
termination_by structural fuel => fuel

/-- The rest of a sequence that has no marks around it. -/
def indentlessItems (levels : Nat) : Nat → Reading → Except LexFault (List Nat × Reading)
  | 0, _ => .error .malformed
  | fuel + 1, r =>
    match r.head with
    | .blockEntry => do
      let (item, r) ←
        nodeUnless [.blockEntry, .key, .value, .blockEnd] true false levels fuel r.next
      let (items, r) ← indentlessItems levels fuel r
      return (item :: items, r)
    | _ => .ok ([], r)
termination_by structural fuel => fuel

/-- The rest of a block mapping. -/
def blockEntries (levels : Nat) : Nat → Reading → Except LexFault (List (Nat × Nat) × Reading)
  | 0, _ => .error .malformed
  | fuel + 1, r =>
    match r.head with
    | .key => do
      let (k, r) ← nodeUnless [.key, .value, .blockEnd] true true levels fuel r.next
      let (v, r) ←
        if r.head = .value then nodeUnless [.key, .value, .blockEnd] true true levels fuel r.next
        else pure r.addEmpty
      let (entries, r) ← blockEntries levels fuel r
      return ((k, v) :: entries, r)
    | .blockEnd => .ok ([], r.next)
    | _ => r.unexpected
termination_by structural fuel => fuel

/-- The value after a key of a flow collection, up to one of some tokens. -/
def flowValue (ends : List Token) (levels : Nat) : Nat → Reading → Except LexFault (Nat × Reading)
  | 0, _ => .error .malformed
  | fuel + 1, r =>
    if r.head = .value then nodeUnless ends false false levels fuel r.next else .ok r.addEmpty
termination_by structural fuel => fuel

/-- The rest of a flow sequence. An item with a key is a mapping of one entry. -/
def flowItems (isFirst : Bool) (levels : Nat) : Nat → Reading → Except LexFault (List Nat × Reading)
  | 0, _ => .error .malformed
  | fuel + 1, r =>
    if r.head = .flowSequenceEnd then .ok ([], r.next)
    else if !isFirst && r.head ≠ .flowEntry then r.unexpected
    else
      let r := if isFirst then r else r.next
      if r.head = .flowSequenceEnd then .ok ([], r.next)
      else if r.head = .key then
        if levels = 0 then .error .tooDeep
        else do
          let ends := [Token.value, .flowEntry, .flowSequenceEnd]
          let (n, r) ← r.add none { tag := .map, content := .mapping [] }
          let (k, r) ← nodeUnless ends false false (levels - 1) fuel r.next
          let (v, r) ← flowValue [.flowEntry, .flowSequenceEnd] (levels - 1) fuel r
          let (items, r) ← flowItems false levels fuel (r.complete n (.mapping [(k, v)]))
          return (n :: items, r)
      else do
        let (item, r) ← node false false levels fuel r
        let (items, r) ← flowItems false levels fuel r
        return (item :: items, r)
termination_by structural fuel => fuel

/-- The rest of a flow mapping. An entry without a key mark has no value. -/
def flowEntries (isFirst : Bool) (levels : Nat) :
    Nat → Reading → Except LexFault (List (Nat × Nat) × Reading)
  | 0, _ => .error .malformed
  | fuel + 1, r =>
    if r.head = .flowMappingEnd then .ok ([], r.next)
    else if !isFirst && r.head ≠ .flowEntry then r.unexpected
    else
      let r := if isFirst then r else r.next
      if r.head = .flowMappingEnd then .ok ([], r.next)
      else if r.head = .key then do
        let ends := [Token.value, .flowEntry, .flowMappingEnd]
        let (k, r) ← nodeUnless ends false false levels fuel r.next
        let (v, r) ← flowValue [.flowEntry, .flowMappingEnd] levels fuel r
        let (entries, r) ← flowEntries false levels fuel r
        return ((k, v) :: entries, r)
      else do
        let (k, r) ← node false false levels fuel r
        let (v, r) := r.addEmpty
        let (entries, r) ← flowEntries false levels fuel r
        return ((k, v) :: entries, r)
termination_by structural fuel => fuel

end

/-- The tag handles of every document. -/
def standardHandles : List (String × String) :=
  [("!", "!"), ("!!", standardAddress)]

/-- Reads the directives of a document: at most one version, which must be a first one, and every
handle once. -/
def directives (versioned : Bool) (handles : List (String × String)) :
    List Token → Except LexFault (List (String × String) × List Token)
  | .directive (.version major _) :: rest =>
    if versioned || major ≠ 1 then .error .malformed else directives true handles rest
  | .directive (.tag h start) :: rest =>
    if (handles.lookup h).isSome then .error .malformed
    else directives versioned (handles ++ [(h, start)]) rest
  | .directive .other :: rest => directives versioned handles rest
  | rest => .ok (handles ++ standardHandles, rest)

/-- Checks that no further document follows. -/
def close (r : Reading) : Except LexFault Unit :=
  let rest := r.tokens.dropWhile (· = Token.documentEnd)
  match rest with
  | [.finish] => .ok ()
  | _ => do
    let (_, rest) ← directives false [] rest
    { r with tokens := rest }.unexpected

/-- The content of a document of at most so many levels, which may be empty. -/
def content (levels : Nat) (r : Reading) : Except LexFault (Nat × Reading) :=
  match r.head with
  | .directive _ | .documentStart | .documentEnd | .finish => .ok r.addEmpty
  | _ => node true false levels (4 * r.tokens.length + 8) r

/-- The graph of a document, after which no other follows. -/
def graph (outcome : Except LexFault (Nat × Reading)) : Except LexFault (Option Graph) := do
  let (root, r) ← outcome
  r.close
  return some { nodes := r.nodes, root }

/-- The only document, of at most so many levels, none if there is nothing but ends of documents. -/
def document (levels : Nat) (r : Reading) : Except LexFault (Option Graph) :=
  match r.head with
  | .finish => .ok none
  | .directive _ | .documentStart => do
    let (handles, rest) ← directives false [] r.tokens
    let r := { r with handles, tokens := rest }
    if r.head ≠ .documentStart then r.unexpected else graph (r.next.content levels)
  | _ =>
    let r := { r with handles := standardHandles }
    graph (node true false levels (4 * r.tokens.length + 8) r)

end Reading

/-- The only document of a list of tokens, which has at most so many levels of nodes. -/
def Graph.ofTokens? (levels : Nat) (ts : List Token) : Except LexFault (Option Graph) :=
  Reading.document levels { tokens := ts }

end Routewright.Yaml
