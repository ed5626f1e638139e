import Routewright.Yaml.Lexer
import Routewright.Yaml.Node
import Routewright.Yaml.ScalarValue
import Routewright.Yaml.Scattered

/-!
# Values of documents

A graph of nodes becomes a value. Every node is made once: a scalar is read at once, a collection is
made empty and filled when its turn comes, in the order in which collections were made. A mapping
takes in what it merges before it is filled. What cannot be made is reported as it is met. In the
end the collections are unfolded from the outermost one; one that is inside itself becomes a knot.
-/

namespace Routewright.Yaml

/-- What a node has been made into. What is inside a collection is given by the numbers of nodes,
except for keys. -/
inductive Made
  | whole (v : Value)
  | list (items : List Nat)
  | map (entries : List (Value × Nat))
  | pairs (items : List (Nat × Nat))
  deriving Repr

/-- What has been made of the nodes of a document so far, and the collections that are still to be
filled, last first. -/
structure Making where
  nodes : Array Node
  made : Array (Option Made)
  waiting : List Nat := []

namespace Making

/-- The node of a number. -/
def node (b : Making) (i : Nat) : Node :=
  b.nodes.getD i Node.empty

/-- The state after a node has been made. -/
def put (b : Making) (i : Nat) (m : Made) : Making :=
  { b with made := b.made.setIfInBounds i (some m) }

/-! ## What mappings merge -/

/-- The entries of a node that is a mapping. -/
def entries? (b : Making) (i : Nat) : Option (List (Nat × Nat)) :=
  match (b.node i).content with
  | .mapping entries => some entries
  | _ => none

/-- Gives a mapping other entries. -/
def withEntries (b : Making) (i : Nat) (entries : List (Nat × Nat)) : Making :=
  { b with nodes := b.nodes.modify i fun n => { n with content := .mapping entries } }

/-- Whether an entry has the key under which other mappings are merged. -/
def isMerge (b : Making) (e : Nat × Nat) : Bool :=
  (b.node e.1).tag = .merge

/-- Makes the key of a default value plain text, also where an alias stands for it. -/
def plainKey (b : Making) (e : Nat × Nat) : Making :=
  if (b.node e.1).tag = .defaultKey then
    { b with nodes := b.nodes.modify e.1 fun n => { n with tag := .text } }
  else b

/-- Takes what the mapping `i` merges out of its entries and puts the merged ones before its own;
`merged` holds those found so far. A list of mappings counts from its last to its first. The fuel is
above the number of entries that merge something. -/
def takeIn : Nat → Nat → List (Nat × Nat) → Making → Except NodeFault Making
  | 0, _, _, _ => .error .unsupported
  | fuel + 1, i, merged, b => do
    let some entries := b.entries? i | throw .unsupported
    let before := entries.takeWhile fun e => !b.isMerge e
    match entries.drop before.length with
    | [] => return (entries.foldl plainKey b).withEntries i (merged ++ entries)
    | (_, source) :: after =>
      let b := b.withEntries i (before ++ after)
      match (b.node source).content with
      | .mapping _ =>
        let b ← takeIn fuel source [] b
        takeIn fuel i (merged ++ (b.entries? source).getD []) b
      | .sequence sources =>
        let (more, b) ← sources.foldlM (fun (more, b) j => do
          let b ← takeIn fuel j [] b
          return ((b.entries? j).getD [] ++ more, b)) ([], b)
        takeIn fuel i (merged ++ more) b
      | .scalar _ => throw .unsupported

/-- The number of entries of a node. -/
def width (n : Node) : Nat :=
  match n.content with
  | .mapping entries => entries.length
  | _ => 0

/-- Lets the mapping `i` take in what it merges. -/
def flatten (b : Making) (i : Nat) : Except NodeFault Making :=
  takeIn (b.nodes.foldl (fun n node => n + width node) 2) i [] b

/-! ## Making nodes -/

/-- The text of the scalar that a node stands for; a mapping may hold it under the default key. -/
def scalarText (b : Making) : Nat → Nat → Except NodeFault String
  | 0, _ => .error .endless
  | fuel + 1, i =>
    match (b.node i).content with
    | .scalar text => .ok text
    | .sequence _ => .error .unsupported
    | .mapping entries =>
      match entries.find? fun e => (b.node e.1).tag = .defaultKey with
      | some (_, v) => b.scalarText fuel v
      | none => .error .unsupported

/-- The value of a node with the tag of a scalar. -/
def scalar (b : Making) (i : Nat) : Except NodeFault Value := do
  let n := b.node i
  if n.tag ∈ [Tag.merge, .defaultKey, .unknown] then throw .unsupported
  let text ← b.scalarText (b.nodes.size + 1) i
  match n.tag, n.content with
  | .moment, .mapping _ => throw .momentInside
  | t, _ => scalarValue t text

/-- Makes a node, unless it is made: a scalar is read, a collection is empty at first and waits. -/
def make (b : Making) (i : Nat) : Except NodeFault Making :=
  match b.made.getD i none with
  | some _ => .ok b
  | none =>
    let empty (m : Made) : Except NodeFault Making :=
      .ok { b.put i m with waiting := i :: b.waiting }
    match (b.node i).tag with
    | .list => empty (.list [])
    | .map | .set => empty (.map [])
    | .orderedMap | .pairs => empty (.pairs [])
    | _ => (b.scalar i).map fun v => b.put i (.whole v)

/-- The value of a node that has been made a scalar. -/
def key? (b : Making) (i : Nat) : Option Value :=
  match b.made.getD i none with
  | some (.whole v) => some v
  | _ => none

/-- Whether the value of a node is what the spelling of no number always stands for. -/
def isSpelledNan (b : Making) (i : Nat) : Bool :=
  match (b.node i).content with
  | .scalar text => (floatParts text).2 = nanSpelling
  | _ => false

/-- Whether two keys, given by their nodes, are the same: they denote equal values, or no number
from the same node or both by its spelling. -/
def sameKey (b : Making) (i j : Nat) : Bool :=
  match b.key? i, b.key? j with
  | some (.float .nan), some (.float .nan) => i = j || (b.isSpelledNan i && b.isSpelledNan j)
  | some v, some w => v.sameKey w
  | _, _ => false

/-- Writes an entry: an equal key keeps its place and takes the value. -/
def putEntry (b : Making) (entry : Nat × Nat) : List (Nat × Nat) → List (Nat × Nat)
  | [] => [entry]
  | e :: rest =>
    if b.sameKey e.1 entry.1 then (e.1, entry.2) :: rest else e :: b.putEntry entry rest

/-- Makes the keys and values of entries; no key may be a collection. -/
def makeEntries (b : Making) (entries : List (Nat × Nat)) : Except NodeFault Making :=
  entries.foldlM (fun b e => do
    let b ← b.make e.1
    if (b.key? e.1).isNone then throw .unsupported
    b.make e.2) b

/-- Makes the key and the value of an item that must be a mapping of one entry. -/
def makePair (b : Making) (i : Nat) : Except NodeFault ((Nat × Nat) × Making) :=
  match (b.node i).content with
  | .mapping [e] => do return (e, ← (← b.make e.1).make e.2)
  | _ => .error .unsupported

/-- Makes the items of a list of pairs. -/
def makePairs (b : Making) : List Nat → Except NodeFault (List (Nat × Nat) × Making)
  | [] => .ok ([], b)
  | i :: rest => do
    let (e, b) ← b.makePair i
    let (more, b) ← b.makePairs rest
    return (e :: more, b)

/-- Fills a collection. -/
def fill (b : Making) (i : Nat) : Except NodeFault Making := do
  let n := b.node i
  match n.tag, n.content with
  | .list, .sequence items =>
    let b ← items.foldlM make b
    return b.put i (.list items)
  | .map, .mapping _ | .set, .mapping _ =>
    let b ← b.flatten i
    let entries := (b.entries? i).getD []
    let b ← b.makeEntries entries
    let entries := entries.foldl (fun kept e => b.putEntry e kept) []
    return b.put i (.map (entries.map fun e => ((b.key? e.1).getD .null, e.2)))
  | .orderedMap, .sequence items | .pairs, .sequence items =>
    let (pairs, b) ← b.makePairs items
    return b.put i (.pairs pairs)
  | _, _ => throw .unsupported

/-- Fills all collections that wait, and those that wait after that. -/
def fillAll : Nat → Making → Except NodeFault Making
  | 0, b => .ok b
  | fuel + 1, b =>
    if b.waiting.isEmpty then .ok b
    else do
      fillAll fuel (← b.waiting.reverse.foldlM fill { b with waiting := [] })

/-! ## Unfolding -/

/-- A value, and the numbers of the collections around it that are repeated in it. -/
structure Unfolded where
  value : Value
  repeated : List Nat

/-- A collection as a value: a knot if a collection around it is inside it. -/
def knotted (label : Label) (v : Value) (around : List Nat) : Unfolded :=
  if around.isEmpty then ⟨v, []⟩
  else ⟨.knot label v, around.filter fun i => label.item ≠ 0 || i ≠ label.collection⟩

/-- The values of nodes that are the same wherever the nodes stand. -/
abbrev Known := Array (Option Value)

/-- Whether a collection is not inside itself, nor inside one that is inside it. -/
def Unfolded.isPlain (u : Unfolded) : Bool :=
  match u.value with
  | .knot .. | .again _ => false
  | _ => u.repeated.isEmpty

/-- Notes the value of the node `i` if it is the same everywhere. -/
def note (i : Nat) (u : Unfolded) : StateM Known Unfolded := do
  if u.isPlain then modify fun known => known.setIfInBounds i (some u.value)
  return u

/-- The value of the node `i` inside the collections of a path. -/
def unfold (b : Making) : Nat → List Nat → Nat → StateM Known Unfolded
  | 0, _, i => return ⟨.again { collection := i }, [i]⟩
  | fuel + 1, path, i => do
    if i ∈ path then return ⟨.again { collection := i }, [i]⟩
    let inner (j : Nat) : StateM Known Unfolded := b.unfold fuel (i :: path) j
    match (← get).getD i none, b.made.getD i none with
    | some v, _ => return ⟨v, []⟩
    | none, none => return ⟨.null, []⟩
    | none, some (.whole v) => return ⟨v, []⟩
    | none, some (.list items) =>
      let us ← items.mapM inner
      note i (knotted { collection := i } (.list (us.map (·.value))) (us.flatMap (·.repeated)))
    | none, some (.map entries) =>
      if (b.node i).tag = .set then return ⟨.set (scattered (entries.map Prod.fst)), []⟩
      let us ← entries.mapM fun e => return (e.1, ← inner e.2)
      note i (knotted { collection := i } (.map (us.map fun u => (u.1, u.2.value)))
        (us.flatMap fun u => u.2.repeated))
    | none, some (.pairs pairs) =>
      let us ← pairs.zipIdx.mapM fun (e, k) => do
        let key ← inner e.1
        let value ← inner e.2
        return knotted { collection := i, item := k + 1 } (.tuple [key.value, value.value])
          (key.repeated ++ value.repeated)
      note i (knotted { collection := i } (.list (us.map (·.value))) (us.flatMap (·.repeated)))

end Making

/-- The value of a document. -/
def Graph.value? (g : Graph) : Except NodeFault Value := do
  let n := g.nodes.size
  let start : Making := { nodes := g.nodes, made := Array.replicate n none }
  let done ← Making.fillAll (n + 1) (← start.make g.root)
  return ((done.unfold (n + 1) [] g.root).run (Array.replicate n none)).1.value

/-- Why a text is no YAML document that has a value. -/
inductive Fault
  | lexing (fault : LexFault)
  | node (fault : NodeFault)
  deriving DecidableEq, Repr

/-- Whether a fault lies in the text as such, rather than in a scalar that has the form of a number,
a date or a character and is none, or in the depth of the document. -/
def Fault.isSyntactic : Fault → Bool
  | .lexing .malformed => true
  | .node .unsupported => true
  | _ => false

/-- The value of the only document of a text, which has at most so many levels of nodes; that of an
empty text is null. -/
def load (levels : Nat) (text : List Char) : Except Fault Value :=
  match Graph.ofTokens? levels (tokens text) with
  | .error fault => .error (.lexing fault)
  | .ok none => .ok .null
  | .ok (some g) => g.value?.mapError .node

end Routewright.Yaml
