import Mathlib.Data.List.Nodup
import Mathlib.Data.List.Pairwise
import Routewright.Code.Tree
import Routewright.Formatting
import Routewright.Identifier
import Routewright.Proofs.Outcome
import Routewright.Proofs.Table

/-!
# Evaluation of generated code

What a tree of code does when it runs. Texts are measured in a fixed unit (`TextUnit`), a buffer has
a fixed capacity and fails when it is pushed past it or finished short of it, and a call of a free
function looks its name up among all declarations of the module. Every way to fail is a `Fault`, so
a theorem that ends in `.ok` says that none of them happens.

Functions may call each other, so `Module.call` bounds how deep calls are nested. Constructors and
methods belong to a record, and are run by `Module.construct` and `Module.invoke`.
-/

namespace Routewright.Code

/-! ## Data -/

/-- What a target counts as the length of a text : its code points or the bytes of its UTF-8
form. -/
inductive TextUnit
  | codePoints
  | bytes
  deriving DecidableEq, Repr

/-- The length of a text. -/
def TextUnit.size : TextUnit → String → Nat
  | .codePoints, s => s.length
  | .bytes, s => s.utf8ByteSize

@[simp] theorem TextUnit.size_empty (unit : TextUnit) : unit.size "" = 0 := by
  cases unit <;> rfl

/-- Either unit is additive. -/
theorem TextUnit.size_append (unit : TextUnit) (s t : String) :
    unit.size (s ++ t) = unit.size s + unit.size t := by
  cases unit
  · exact String.length_append s t
  · exact String.utf8ByteSize_append

/-- What an expression can stand for. -/
inductive Datum
  | text (s : String)
  /-- A text that was converted into a named type. -/
  | wrapped (typeName s : String)
  | number (n : Int)
  | absent
  /-- A value that is there where it may be absent. -/
  | present (value : Datum)
  | member (enumeration name : String)
  | record (typeName : String) (fields : List (String × Datum))
  | table (entries : List (String × String))
  | buffer (capacity : Int) (content : String)
  deriving Repr

/-- Why an evaluation has no value. -/
inductive Fault
  | unbound (name : String)
  | noReceiver
  | noRecordType
  | noField (name : String)
  | noText
  | noNumber
  | noBuffer
  | formatting (fault : Formatting.Fault)
  /-- A push would leave `size` in a buffer of lower capacity. -/
  | overflow (size : Nat) (capacity : Int)
  /-- A buffer is finished at another `size` than its capacity. -/
  | unfilled (size : Nat) (capacity : Int)
  | unknown (name : String)
  | missingArgument (param : String)
  | surplusArgument
  | tooDeep
  /-- A body ends without a result. -/
  | noResult
  deriving DecidableEq, Repr

namespace Datum

/-- The text of plain or converted text. -/
def text? : Datum → Option String
  | .text s => some s
  | .wrapped _ s => some s
  | _ => none

/-- A datum used as text. -/
def asText (d : Datum) : Except Fault String :=
  match d.text? with
  | some s => .ok s
  | none => .error .noText

/-- A datum used as a number. -/
def asNumber : Datum → Except Fault Int
  | .number n => .ok n
  | _ => .error .noNumber

/-- A field of a record. -/
def field (name : String) : Datum → Except Fault Datum
  | .record _ fields =>
    match Table.find? name fields with
    | some d => .ok d
    | none => .error (.noField name)
  | _ => .error (.noField name)

/-- A buffer with a text pushed, as long as it holds no more than its capacity. -/
def push (unit : TextUnit) (s : String) : Datum → Except Fault Datum
  | .buffer capacity content =>
    let size := unit.size content + unit.size s
    if (size : Int) ≤ capacity then .ok (.buffer capacity (content ++ s))
    else .error (.overflow size capacity)
  | _ => .error .noBuffer

/-- The text in a buffer, which must be full. -/
def finish (unit : TextUnit) : Datum → Except Fault Datum
  | .buffer capacity content =>
    if (unit.size content : Int) = capacity then .ok (.text content)
    else .error (.unfilled (unit.size content) capacity)
  | _ => .error .noBuffer

end Datum

/-! ## Expressions and bodies -/

/-- Local names with what they hold, the newest first. -/
abbrev Locals := List (String × Datum)

/-- What an expression can refer to beside its locals : free functions, and inside a record its
name and the receiver. -/
structure Frame where
  unit : TextUnit
  call : String → List Datum → Except Fault Datum
  receiver : Option Datum := none
  enclosing : Option String := none

namespace Frame

/-- What a local name holds. -/
def lookup (name : String) (locals : Locals) : Except Fault Datum :=
  match Table.find? name locals with
  | some d => .ok d
  | none => .error (.unbound name)

/-- The name of the record that a construction makes. -/
def recordName (frame : Frame) : TypeRef → Except Fault String
  | .named name _ _ => .ok name
  | .enclosing =>
    match frame.enclosing with
    | some name => .ok name
    | none => .error .noRecordType
  | .host _ _ => .error .noRecordType

end Frame

mutual

/-- The value of an expression. -/
def Expr.eval (frame : Frame) (locals : Locals) : Expr → Except Fault Datum
  | .literal (.text s) => .ok (.text s)
  | .literal (.int n) => .ok (.number n)
  | .literal .absent => .ok .absent
  | .variable name => Frame.lookup name locals
  | .receiver =>
    match frame.receiver with
    | some d => .ok d
    | none => .error .noReceiver
  | .member value name => do (← value.eval frame locals).field name
  | .length value => do
    let s ← (← value.eval frame locals).asText
    return .number (frame.unit.size s)
  | .sum left right => do
    let m ← (← left.eval frame locals).asNumber
    let n ← (← right.eval frame locals).asNumber
    return .number (m + n)
  | .call function arguments => do frame.call function (← Expr.evalAll frame locals arguments)
  | .format template arguments => do
    let texts ← (← Expr.evalAll frame locals arguments).mapM Datum.asText
    return .text (← (Formatting.format template texts).mapError Fault.formatting)
  | .convert typeName value => do
    let s ← (← value.eval frame locals).asText
    return .wrapped typeName s
  | .construct type fields => do
    let name ← frame.recordName type
    return .record name (← Expr.evalFields frame locals fields)
  | .enumMember enumeration name => .ok (.member enumeration name)
  | .present value => do return .present (← value.eval frame locals)
  | .newBuffer capacity => do return .buffer (← (← capacity.eval frame locals).asNumber) ""
  | .finishBuffer buffer => do (← buffer.eval frame locals).finish frame.unit

/-- The values of expressions in order. -/
def Expr.evalAll (frame : Frame) (locals : Locals) : List Expr → Except Fault (List Datum)
  | [] => .ok []
  | e :: rest => do
    let d ← e.eval frame locals
    return d :: (← Expr.evalAll frame locals rest)

/-- The values of named expressions in order. -/
def Expr.evalFields (frame : Frame) (locals : Locals) :
    List (String × Expr) → Except Fault (List (String × Datum))
  | [] => .ok []
  | (name, e) :: rest => do
    let d ← e.eval frame locals
    return (name, d) :: (← Expr.evalFields frame locals rest)

end

/-- The result of a body. -/
def Stmt.run (frame : Frame) (locals : Locals) : List Stmt → Except Fault Datum
  | [] => .error .noResult
  | .bind name value _ :: rest => do
    let d ← value.eval frame locals
    Stmt.run frame ((name, d) :: locals) rest
  | .push buffer value :: rest => do
    let held ← Frame.lookup buffer locals
    let s ← (← value.eval frame locals).asText
    let pushed ← held.push frame.unit s
    Stmt.run frame ((buffer, pushed) :: locals) rest
  | .result value :: _ => value.eval frame locals

/-- The locals that arguments make, by position. What is left out at the end must default to
absent. -/
def bindArguments : List Param → List Datum → Except Fault Locals
  | [], [] => .ok []
  | [], _ :: _ => .error .surplusArgument
  | p :: params, [] =>
    if p.defaultsToAbsent then (bindArguments params []).map ((p.name, .absent) :: ·)
    else .error (.missingArgument p.name)
  | p :: params, d :: arguments => (bindArguments params arguments).map ((p.name, d) :: ·)

/-- The result of a function. -/
def Function.apply (f : Function) (frame : Frame) (arguments : List Datum) :
    Except Fault Datum := do
  Stmt.run frame (← bindArguments f.params arguments) f.body

/-! ## What single steps do -/

/-- The text that a local name holds. -/
def Locals.text? (locals : Locals) (name : String) : Option String :=
  (Table.find? name locals).bind Datum.text?

theorem Locals.text?_cons_of_ne {locals : Locals} {name n : String} (h : n ≠ name) (d : Datum) :
    Locals.text? ((n, d) :: locals) name = Locals.text? locals name := by
  rw [Locals.text?, Locals.text?, Table.find?, if_neg h]

/-- A new local name hides no other names. -/
theorem Locals.map_text?_cons {locals : Locals} {n : String} {names : List String}
    (h : n ∉ names) (d : Datum) :
    names.map (Locals.text? ((n, d) :: locals)) = names.map locals.text? :=
  List.map_congr_left fun _ hname => Locals.text?_cons_of_ne (ne_of_mem_of_not_mem hname h).symm d

/-- Distinct names that hold data of texts by position. -/
theorem Locals.map_text?_zip {names values : List String} {data : List Datum}
    (hnodup : names.Nodup) (hlen : names.length = data.length)
    (h : data.map Datum.text? = values.map some) :
    names.map (Locals.text? (names.zip data)) = values.map some := by
  have hfound := congrArg (List.map (·.bind Datum.text?)) (Table.map_find?_zip [] hnodup hlen)
  rw [List.append_nil, List.map_map, List.map_map] at hfound
  exact hfound.trans h

/-- Arguments for the first parameters are bound by position. -/
theorem bindArguments_append (params : List Param) (arguments : List Datum) :
    ∀ {first : List Param} {data : List Datum}, first.length = data.length →
      bindArguments (first ++ params) (data ++ arguments) =
        (bindArguments params arguments).map ((first.map Param.name).zip data ++ ·)
  | [], [], _ => by cases h : bindArguments params arguments <;> simp [h, Except.map]
  | [], _ :: _, hlen => absurd hlen.symm (Nat.succ_ne_zero _)
  | _ :: _, [], hlen => absurd hlen (Nat.succ_ne_zero _)
  | p :: first, d :: data, hlen => by
    rw [List.cons_append, List.cons_append, bindArguments,
      bindArguments_append params arguments (Nat.succ.inj hlen)]
    cases bindArguments params arguments <;> rfl

/-- As many arguments as parameters are bound in order. -/
theorem bindArguments_zip {params : List Param} {arguments : List Datum}
    (hlen : params.length = arguments.length) :
    bindArguments params arguments = .ok ((params.map Param.name).zip arguments) := by
  have happend := bindArguments_append [] [] hlen
  rwa [List.append_nil, List.append_nil, bindArguments, Except.map, List.append_nil] at happend

section Steps

variable {frame : Frame} {locals : Locals}

attribute [local simp] Expr.eval Expr.evalAll Expr.evalFields Stmt.run

theorem Datum.length_eq {data : List Datum} {values : List String}
    (h : data.map Datum.text? = values.map some) : data.length = values.length := by
  simpa using congrArg List.length h

theorem Datum.asText_eq_ok {d : Datum} {s : String} (h : d.text? = some s) : d.asText = .ok s := by
  rw [Datum.asText, h]

theorem Expr.eval_variable {name : String} {d : Datum} (h : Table.find? name locals = some d) :
    Expr.eval frame locals (.variable name) = .ok d := by
  rw [Expr.eval, Frame.lookup, h]

/-- A name that holds text is evaluated to a datum of that text. -/
theorem Expr.eval_text (frame : Frame) {name s : String} (h : locals.text? name = some s) :
    ∃ d, Expr.eval frame locals (.variable name) = .ok d ∧ d.text? = some s := by
  obtain ⟨d, hd, hs⟩ := Option.bind_eq_some_iff.mp h
  exact ⟨d, Expr.eval_variable hd, hs⟩

theorem Expr.eval_length {e : Expr} {d : Datum} {s : String}
    (he : e.eval frame locals = .ok d) (hs : d.text? = some s) :
    Expr.eval frame locals (.length e) = .ok (.number (frame.unit.size s)) := by
  rw [Expr.eval, he, Outcome.ok_bind, Datum.asText_eq_ok hs]
  rfl

theorem Expr.eval_sum {left right : Expr} {m n : Int}
    (hm : left.eval frame locals = .ok (.number m))
    (hn : right.eval frame locals = .ok (.number n)) :
    Expr.eval frame locals (.sum left right) = .ok (.number (m + n)) := by
  rw [Expr.eval, hm, hn]
  rfl

theorem Expr.eval_convert {typeName : String} {e : Expr} {d : Datum} {s : String}
    (he : e.eval frame locals = .ok d) (hs : d.text? = some s) :
    Expr.eval frame locals (.convert typeName e) = .ok (.wrapped typeName s) := by
  rw [Expr.eval, he, Outcome.ok_bind, Datum.asText_eq_ok hs]
  rfl

/-- A member of the receiver is a field of it. -/
theorem Expr.eval_member {name typeName : String} {fields : List (String × Datum)} {d : Datum}
    (hreceiver : frame.receiver = some (.record typeName fields))
    (hd : Table.find? name fields = some d) :
    Expr.eval frame locals (.member .receiver name) = .ok d := by
  rw [Expr.eval, Expr.eval, hreceiver]
  simp only [Outcome.ok_bind, Datum.field, hd]

theorem Expr.evalFields_cons {name : String} {e : Expr} {d : Datum}
    {fields : List (String × Expr)} {data : List (String × Datum)}
    (he : e.eval frame locals = .ok d) (hfields : Expr.evalFields frame locals fields = .ok data) :
    Expr.evalFields frame locals ((name, e) :: fields) = .ok ((name, d) :: data) := by
  rw [Expr.evalFields, he, Outcome.ok_bind, hfields]
  rfl

theorem Expr.eval_construct {type : TypeRef} {name : String} {fields : List (String × Expr)}
    {data : List (String × Datum)} (htype : frame.recordName type = .ok name)
    (hfields : Expr.evalFields frame locals fields = .ok data) :
    Expr.eval frame locals (.construct type fields) = .ok (.record name data) := by
  rw [Expr.eval, htype, Outcome.ok_bind, hfields]
  rfl

theorem Expr.eval_newBuffer {e : Expr} {n : Int} (he : e.eval frame locals = .ok (.number n)) :
    Expr.eval frame locals (.newBuffer e) = .ok (.buffer n "") := by
  rw [Expr.eval, he]
  rfl

/-- A buffer that is filled up to its capacity gives its text. -/
theorem Expr.eval_finishBuffer {buffer content : String} {capacity : Int}
    (hbuffer : Table.find? buffer locals = some (.buffer capacity content))
    (hfull : (frame.unit.size content : Int) = capacity) :
    Expr.eval frame locals (.finishBuffer (.variable buffer)) = .ok (.text content) := by
  rw [Expr.eval, Expr.eval_variable hbuffer]
  simp only [Outcome.ok_bind, Datum.finish, if_pos hfull]

theorem Expr.evalAll_variables (frame : Frame) :
    ∀ {names : List String} {data : List Datum},
      names.map (fun name => Table.find? name locals) = data.map some →
      Expr.evalAll frame locals (names.map .variable) = .ok data
  | [], [], _ => rfl
  | [], _ :: _, h => absurd h.symm (List.cons_ne_nil _ _)
  | _ :: _, [], h => absurd h (List.cons_ne_nil _ _)
  | name :: names, d :: data, h => by
    obtain ⟨hd, hdata⟩ := List.cons_eq_cons.mp h
    rw [List.map_cons, Expr.evalAll, Expr.eval_variable hd, Expr.evalAll_variables frame hdata]
    rfl

/-- Names that hold texts are evaluated to data of these texts. -/
theorem Expr.evalAll_texts (frame : Frame) :
    ∀ {names values : List String}, names.map locals.text? = values.map some →
      ∃ data, Expr.evalAll frame locals (names.map .variable) = .ok data ∧
        data.map Datum.text? = values.map some
  | [], [], _ => ⟨[], rfl, rfl⟩
  | [], _ :: _, h => absurd h.symm (List.cons_ne_nil _ _)
  | _ :: _, [], h => absurd h (List.cons_ne_nil _ _)
  | name :: names, v :: values, h => by
    obtain ⟨hv, hvalues⟩ := List.cons_eq_cons.mp h
    obtain ⟨d, hd, hs⟩ := Expr.eval_text frame hv
    obtain ⟨data, hdata, htexts⟩ := Expr.evalAll_texts frame hvalues
    refine ⟨d :: data, ?_, by rw [List.map_cons, List.map_cons, hs, htexts]⟩
    rw [List.map_cons, Expr.evalAll, hd, hdata]
    rfl

theorem Datum.mapM_asText :
    ∀ {data : List Datum} {values : List String}, data.map Datum.text? = values.map some →
      data.mapM Datum.asText = .ok values
  | [], [], _ => rfl
  | [], _ :: _, h => absurd h.symm (List.cons_ne_nil _ _)
  | _ :: _, [], h => absurd h (List.cons_ne_nil _ _)
  | d :: data, v :: values, h => by
    obtain ⟨hv, hvalues⟩ := List.cons_eq_cons.mp h
    rw [List.mapM_cons, Datum.asText_eq_ok hv, Datum.mapM_asText hvalues]
    rfl

theorem Stmt.run_bind {name : String} {e : Expr} {d : Datum} {isMutable : Bool}
    {rest : List Stmt} (he : e.eval frame locals = .ok d) :
    Stmt.run frame locals (.bind name e isMutable :: rest) =
      Stmt.run frame ((name, d) :: locals) rest := by
  rw [Stmt.run, he]
  rfl

/-- A push within the capacity appends to the buffer. -/
theorem Stmt.run_push {buffer content s : String} {capacity : Int} {e : Expr} {d : Datum}
    {rest : List Stmt} (hbuffer : Table.find? buffer locals = some (.buffer capacity content))
    (he : e.eval frame locals = .ok d) (hs : d.text? = some s)
    (hfits : ((frame.unit.size content + frame.unit.size s : Nat) : Int) ≤ capacity) :
    Stmt.run frame locals (.push buffer e :: rest) =
      Stmt.run frame ((buffer, .buffer capacity (content ++ s)) :: locals) rest := by
  rw [Stmt.run, Frame.lookup, hbuffer, he]
  simp only [Outcome.ok_bind, Datum.asText_eq_ok hs, Datum.push, if_pos hfits]

end Steps

/-! ## Modules -/

/-- The function that every generated file defines beside its types. -/
def headersFunction : String := "default_headers"

/-- The headers that every generated file gives to requests. -/
def defaultHeaders : Datum :=
  .table [("Content-Type", "application/json")]

/-- The names that a declaration puts at the top level. -/
def Item.names : Item → List String
  | .function f => [f.name]
  | .record r => [r.name]
  | .wrapper w => [w.name]
  | .namedText t => [t.name]
  | .prelude => sharedTypeNames ++ [headersFunction]

namespace Module

/-- The declarations of all groups. -/
def items (m : Module) : List Item :=
  m.namespaces.flatMap (·.items)

/-- All names at the top level, each as often as it is declared. -/
def names (m : Module) : List String :=
  m.items.flatMap Item.names

/-- The declaration that a name refers to : the last one of the name. -/
def declaration? (m : Module) (name : String) : Option Item :=
  m.items.reverse.find? fun i => name ∈ i.names

/-- A call of a free function, with at most so many calls inside each other. -/
def call (m : Module) (unit : TextUnit) : Nat → String → List Datum → Except Fault Datum
  | 0, _, _ => .error .tooDeep
  | depth + 1, name, arguments =>
    match m.declaration? name with
    | some (.function f) => f.apply { unit, call := m.call unit depth } arguments
    | some .prelude =>
      if name ≠ headersFunction then .error (.unknown name)
      else if arguments.isEmpty then .ok defaultHeaders
      else .error .surplusArgument
    | _ => .error (.unknown name)

/-- A function of a record of the module, of a kind. -/
def memberOf (m : Module) (record name : String) (kind : FunctionKind) :
    Except Fault Function :=
  match m.declaration? record with
  | some (.record r) =>
    match r.functions.reverse.find? fun f => f.name = name with
    | some f => if f.kind = kind then .ok f else .error (.unknown name)
    | none => .error (.unknown name)
  | _ => .error (.unknown record)

/-- A call of a constructor of a record. -/
def construct (m : Module) (unit : TextUnit) (depth : Nat) (record name : String)
    (arguments : List Datum) : Except Fault Datum := do
  let f ← m.memberOf record name .maker
  f.apply { unit, call := m.call unit depth, enclosing := some record } arguments

/-- A call of a method on a value of a record. -/
def invoke (m : Module) (unit : TextUnit) (depth : Nat) (receiver : Datum) (name : String)
    (arguments : List Datum) : Except Fault Datum :=
  match receiver with
  | .record typeName _ => do
    let f ← m.memberOf typeName name .method
    f.apply
      { unit, call := m.call unit depth, receiver := some receiver, enclosing := some typeName }
      arguments
  | _ => .error (.unknown name)

/-! ## What names refer to -/

section Resolution

variable {m : Module} {unit : TextUnit} {depth : Nat}

theorem find?_of_unique {α : Type} {p : α → Bool} {items : List α} {a : α} (ha : a ∈ items)
    (hp : p a) (hunique : ∀ b ∈ items, p b → b = a) : items.find? p = some a := by
  cases h : items.find? p with
  | none => exact absurd hp (List.find?_eq_none.mp h a ha)
  | some b => rw [hunique b (List.mem_of_find?_eq_some h) (List.find?_some h)]

/-- Where no name is declared twice, each name refers to its declaration. -/
theorem declaration?_of_mem (hnodup : m.names.Nodup) {i : Item} (hi : i ∈ m.items)
    {name : String} (hname : name ∈ i.names) : m.declaration? name = some i := by
  refine find?_of_unique (List.mem_reverse.mpr hi) (decide_eq_true hname) fun j hj hname' => ?_
  by_contra hne
  have hsymm : Std.Symm (Function.onFun List.Disjoint Item.names) :=
    ⟨fun _ _ h _ hi hj => h hj hi⟩
  have hdisjoint := (List.nodup_flatMap.mp hnodup).2.forall (List.mem_reverse.mp hj) hi hne
  exact hdisjoint (of_decide_eq_true hname') hname

theorem call_of_mem (hnodup : m.names.Nodup) {f : Function} (hf : .function f ∈ m.items)
    (arguments : List Datum) :
    m.call unit (depth + 1) f.name arguments =
      f.apply { unit, call := m.call unit depth } arguments := by
  rw [call, declaration?_of_mem hnodup hf List.mem_cons_self]

theorem call_headersFunction (hnodup : m.names.Nodup) (hprelude : .prelude ∈ m.items) :
    m.call unit (depth + 1) headersFunction [] = .ok defaultHeaders := by
  have hname : headersFunction ∈ Item.names .prelude := by decide
  rw [call, declaration?_of_mem hnodup hprelude hname]
  rfl

/-- Where a record has no two functions of one name, each name refers to its function. -/
theorem memberOf_of_mem (hnodup : m.names.Nodup) {r : Record} (hr : .record r ∈ m.items)
    (hfunctions : (r.functions.map Function.name).Nodup) {f : Function} (hf : f ∈ r.functions) :
    m.memberOf r.name f.name f.kind = .ok f := by
  have hfind : r.functions.reverse.find? (fun other => other.name = f.name) = some f :=
    find?_of_unique (List.mem_reverse.mpr hf) (decide_eq_true rfl) fun other hother heq =>
      List.inj_on_of_nodup_map hfunctions (List.mem_reverse.mp hother) hf (of_decide_eq_true heq)
  rw [memberOf, declaration?_of_mem hnodup hr List.mem_cons_self]
  simp only [hfind, if_true]

end Resolution

end Module

end Routewright.Code
