import Routewright.Proofs.Nodes
import Routewright.Target

/-!
# Parameters as they are written

A parameter whose name is reserved in a target is written with an underscore more, at the end in
Python and in front in Rust. Parameters are distinct in the tree of code, and escaping keeps all of
them apart but one pair : a reserved name and a parameter that already has its escaped form
(`Target.ident_eq_iff`). Without such a pair every name that is written refers to what it refers to
in the tree, since no name that functions use themselves is an escaped form.
-/

namespace Routewright

open Code Outcome

variable {policy : Policy}

/-! ## Identifiers of a target -/

namespace Code

theorem escapeReserved_of_not_mem {reserved : List String} {escape : String → String}
    {name : String} (h : name ∉ reserved) : escapeReserved reserved escape name = name :=
  if_neg h

theorem escapeReserved_of_mem {reserved : List String} {escape : String → String}
    {name : String} (h : name ∈ reserved) : escapeReserved reserved escape name = escape name :=
  if_pos h

/-- Two names are escaped to one when they are one, or when one of them is reserved and the other
has its escaped form. -/
theorem escapeReserved_eq_iff {reserved : List String} {escape : String → String}
    (hinj : ∀ {a b}, escape a = escape b → a = b) (hfree : ∀ w ∈ reserved, escape w ∉ reserved)
    {a b : String} :
    escapeReserved reserved escape a = escapeReserved reserved escape b ↔
      a = b ∨ (a ∈ reserved ∧ b = escape a) ∨ (b ∈ reserved ∧ a = escape b) := by
  by_cases ha : a ∈ reserved <;> by_cases hb : b ∈ reserved
  · rw [escapeReserved_of_mem ha, escapeReserved_of_mem hb]
    refine ⟨fun h => .inl (hinj h), ?_⟩
    rintro (rfl | ⟨-, rfl⟩ | ⟨-, rfl⟩)
    · rfl
    · exact absurd hb (hfree a ha)
    · exact absurd ha (hfree b hb)
  · rw [escapeReserved_of_mem ha, escapeReserved_of_not_mem hb]
    refine ⟨fun h => .inr (.inl ⟨ha, h.symm⟩), ?_⟩
    rintro (rfl | ⟨-, rfl⟩ | ⟨hb', -⟩)
    · exact absurd ha hb
    · rfl
    · exact absurd hb' hb
  · rw [escapeReserved_of_not_mem ha, escapeReserved_of_mem hb]
    refine ⟨fun h => .inr (.inr ⟨hb, h⟩), ?_⟩
    rintro (rfl | ⟨ha', -⟩ | ⟨-, rfl⟩)
    · exact absurd hb ha
    · exact absurd ha' ha
    · rfl
  · rw [escapeReserved_of_not_mem ha, escapeReserved_of_not_mem hb]
    refine ⟨.inl, ?_⟩
    rintro (rfl | ⟨ha', -⟩ | ⟨hb', -⟩)
    · rfl
    · exact absurd ha' ha
    · exact absurd hb' hb

end Code

namespace Target

/-- The words that no identifier of a target may be. -/
def reserved : Target → List String
  | .python => Python.reserved
  | .rust => Rust.reserved

/-- How a reserved word is written. -/
def escape : Target → String → String
  | .python, name => name ++ "_"
  | .rust, name => "_" ++ name

/-- A name as an identifier of a target. -/
def ident : Target → String → String
  | .python => Python.ident
  | .rust => Rust.ident

/-- An expression in a target. -/
def expr : Target → Expr → String
  | .python => Python.expr
  | .rust => Rust.expr

/-- A function in a target, of the record of a name. -/
def function : Target → String → Function → String
  | .python, record, f => Python.function record f
  | .rust, _, f => Rust.function f

/-- What stands before the name of a function. -/
def functionWord : Target → String
  | .python => "def "
  | .rust => "pub fn "

/-- The identifiers that stand before the parameters of a function. -/
def receivers : Target → FunctionKind → List String
  | .python, kind => Python.receiverParams kind
  | .rust, kind => if kind = .method then ["self"] else []

/-- A parameter in a target, of a function of the record of a name. -/
def param : Target → String → Param → String
  | .python, record, p => Python.param record p
  | .rust, _, p => Rust.param p

variable (target : Target)

theorem ident_eq (name : String) :
    target.ident name = escapeReserved target.reserved target.escape name := by
  cases target <;> rfl

theorem escape_injective {a b : String} (h : target.escape a = target.escape b) : a = b := by
  cases target
  · exact (String.append_left_inj "_").mp h
  · exact (String.append_right_inj "_").mp h

theorem escape_not_mem_reserved : ∀ w ∈ target.reserved, target.escape w ∉ target.reserved := by
  cases target <;> decide

/-- No word that generated functions use themselves is an escaped form. -/
theorem escape_not_mem_reservedParams :
    ∀ w ∈ target.reserved, target.escape w ∉ reservedParams := by
  cases target <;> decide

/-- Two names become one identifier just when they are one, or one of them is reserved and the other
has its escaped form. -/
theorem ident_eq_iff {a b : String} :
    target.ident a = target.ident b ↔ a = b ∨
      (a ∈ target.reserved ∧ b = target.escape a) ∨
      (b ∈ target.reserved ∧ a = target.escape b) := by
  rw [ident_eq, ident_eq]
  exact escapeReserved_eq_iff target.escape_injective target.escape_not_mem_reserved

/-- Only a name that generated functions use themselves is written as one. -/
theorem eq_of_ident_mem_reservedParams {name : String}
    (h : target.ident name ∈ reservedParams) : target.ident name = name := by
  rw [ident_eq] at h ⊢
  by_cases hname : name ∈ target.reserved
  · rw [escapeReserved_of_mem hname] at h
    exact absurd h (target.escape_not_mem_reservedParams name hname)
  · exact escapeReserved_of_not_mem hname

theorem ident_of_mem_reservedParams {name : String} (h : name ∈ reservedParams) :
    target.ident name = name := by
  have hfree : ∀ w ∈ reservedParams, w ∉ target.reserved := by cases target <;> decide
  rw [ident_eq, escapeReserved_of_not_mem (hfree name h)]

/-- Distinct names stay distinct just when none of them is the escaped form of another. -/
theorem nodup_map_ident_iff {names : List String} (hnodup : names.Nodup) :
    (names.map target.ident).Nodup ↔
      ∀ name ∈ names, name ∈ target.reserved → target.escape name ∉ names := by
  constructor
  · intro h name hname hreserved hescaped
    have heq := List.inj_on_of_nodup_map h hname hescaped
      (target.ident_eq_iff.mpr (.inr (.inl ⟨hreserved, rfl⟩)))
    exact target.escape_not_mem_reserved name hreserved (heq ▸ hreserved)
  · intro h
    refine hnodup.map_on fun a ha b hb heq => ?_
    rcases target.ident_eq_iff.mp heq with heq | ⟨hreserved, rfl⟩ | ⟨hreserved, rfl⟩
    · exact heq
    · exact absurd hb (h a ha hreserved)
    · exact absurd ha (h b hb hreserved)

end Target

/-! ## Names that are bound -/

namespace Code

/-- The names that statements bind. -/
def Stmt.bindings : List Stmt → List String
  | [] => []
  | .bind name _ _ :: rest => name :: Stmt.bindings rest
  | .push _ _ :: rest => Stmt.bindings rest
  | .result _ :: rest => Stmt.bindings rest

/-- The names that an expression may refer to are those in scope before and those bound since. -/
theorem Stmt.of_mem_scope {node : List String × Expr} {name : String} (hname : name ∈ node.1) :
    ∀ (body : List Stmt) {scope : List String}, node ∈ Stmt.nodes scope body →
      name ∈ scope ∨ name ∈ Stmt.bindings body
  | .bind bound value _ :: rest, scope, h => by
    rcases List.mem_append.mp h with h | h
    · obtain ⟨e, -, rfl⟩ := List.mem_map.mp h
      exact .inl hname
    · rcases Stmt.of_mem_scope hname rest h with h | h
      · rcases List.mem_cons.mp h with rfl | h
        · exact .inr List.mem_cons_self
        · exact .inl h
      · exact .inr (List.mem_cons_of_mem _ h)
  | .push buffer value :: rest, scope, h => by
    rcases List.mem_append.mp h with h | h
    · rcases List.mem_cons.mp h with rfl | h
      · exact .inl hname
      · obtain ⟨e, -, rfl⟩ := List.mem_map.mp h
        exact .inl hname
    · exact Stmt.of_mem_scope hname rest h
  | .result value :: rest, scope, h => by
    rcases List.mem_append.mp h with h | h
    · obtain ⟨e, -, rfl⟩ := List.mem_map.mp h
      exact .inl hname
    · exact Stmt.of_mem_scope hname rest h

/-- A function whose parameters keep clear of each other and of the names that it uses itself, and
that refers to names that are bound. -/
structure Function.KeepsClear (f : Function) : Prop where
  nodup_params : (f.params.map Param.name).Nodup
  bound : ∀ scope name, (scope, .variable name) ∈ f.nodes → name ∈ scope
  bindings : Stmt.bindings f.body ⊆ [bufferName]
  buffer_free : bufferName ∉ f.params.map Param.name
  cls_free : "cls" ∉ f.params.map Param.name
  method_params : f.kind = .method → f.params = []

/-- The functions of a declaration. -/
def Item.functions : Item → List Function
  | .function f => [f]
  | .record r => r.functions
  | _ => []

/-- All functions of a module, free and in records. -/
def Module.functions (m : Module) : List Function :=
  m.items.flatMap Item.functions

end Code

theorem UrlBuilder.bindings_segmentPushes (tail : List Stmt) :
    ∀ segments : List Segment,
      Stmt.bindings (segmentPushes segments ++ tail) = Stmt.bindings tail
  | [] => rfl
  | .literal text :: rest => by
    rw [segmentPushes]
    split_ifs
    · exact bindings_segmentPushes tail rest
    · exact bindings_segmentPushes tail rest
  | .param _ :: rest => bindings_segmentPushes tail rest

/-- A url function binds its buffer and nothing else. -/
theorem UrlBuilder.bindings_bodyOf (builder : UrlBuilder) :
    Stmt.bindings builder.bodyOf ⊆ [bufferName] := by
  cases builder with
  | format template params => exact List.nil_subset _
  | push segments params =>
    rw [bodyOf, List.cons_append, Stmt.bindings, List.cons_append, Stmt.bindings,
      bindings_segmentPushes]
    exact List.Subset.refl _

namespace Endpoint.HasRequests

variable {l : Lowered policy} {method : HttpMethod} {tokens : List String} {path : UrlPath}

/-- A name that generated functions use themselves is a parameter only as base address or body. -/
theorem not_mem_makerNames (h : l.endpoint.HasRequests policy method tokens l.requests l.types)
    (hpath : path ∈ l.endpoint.paths) {name : String} (hreserved : name ∈ reservedParams)
    (hbase : name ≠ baseParam) (hbody : name ≠ bodyParam) :
    name ∉ Request.makerNames l.endpoint path := by
  intro hname
  rcases List.mem_append.mp hname with hname | hname
  · rcases List.mem_cons.mp hname with hname | hname
    · exact hbase hname
    · exact h.unreserved path hpath name hname hreserved
  · split_ifs at hname
    · exact hbody (List.mem_singleton.mp hname)
    · exact absurd hname List.not_mem_nil

theorem keepsClear_functionFor
    (h : l.endpoint.HasRequests policy method tokens l.requests l.types)
    (hpath : path ∈ l.endpoint.paths) (hparse : UrlPath.parse path.template = .ok path) :
    (Request.functionFor l.endpoint method tokens (policy.strategyFor l.endpoint.name)
      path).KeepsClear where
  nodup_params := by
    rw [Request.map_name_functionFor]
    exact h.nodup_base_params hpath hparse
  bound scope name hnode := by
    cases UrlBuilder.urlNode_of_mem_functionOf (UrlPath.plainLiterals hparse) _ _ _ _ hnode with
    | bound hname => exact hname
  bindings := UrlBuilder.bindings_bodyOf _
  buffer_free hname := by
    rw [Request.map_name_functionFor] at hname
    exact h.not_mem_makerNames hpath (by decide) (by decide) (by decide)
      (List.mem_append_left _ hname)
  cls_free hname := by
    rw [Request.map_name_functionFor] at hname
    exact h.not_mem_makerNames hpath (by decide) (by decide) (by decide)
      (List.mem_append_left _ hname)
  method_params hkind := nomatch hkind

theorem keepsClear_makerDecl
    (h : l.endpoint.HasRequests policy method tokens l.requests l.types)
    (hpath : path ∈ l.endpoint.paths) (hparse : UrlPath.parse path.template = .ok path) :
    (Request.forPath l.endpoint method tokens (policy.strategyFor l.endpoint.name)
      path).makerDecl.KeepsClear where
  nodup_params := by
    rw [Request.map_name_makerDecl]
    exact h.nodup_makerNames hpath hparse
  bound scope name hnode := by
    rw [Request.nodes_makerDecl, Request.urlCall_forPath] at hnode
    obtain ⟨hname, rfl⟩ : name ∈ Request.makerNames l.endpoint path ∧
        Request.makerNames l.endpoint path = scope := by simpa using hnode
    exact hname
  bindings := List.nil_subset _
  buffer_free := by
    rw [Request.map_name_makerDecl]
    exact h.not_mem_makerNames hpath (by decide) (by decide) (by decide)
  cls_free := by
    rw [Request.map_name_makerDecl]
    exact h.not_mem_makerNames hpath (by decide) (by decide) (by decide)
  method_params hkind := nomatch hkind

end Endpoint.HasRequests

theorem Request.keepsClear_conversionDecl (r : Request) : r.conversionDecl.KeepsClear where
  nodup_params := List.nodup_nil
  bound scope name hnode := by
    obtain ⟨fields, hnodes⟩ := r.nodes_conversionDecl
    have hbody : Expr.variable name ∉ r.bodyExpr.nodes := by
      unfold bodyExpr
      split_ifs <;> simp [Expr.nodes]
    rw [hnodes] at hnode
    simp [hbody] at hnode
  bindings := List.nil_subset _
  buffer_free := List.not_mem_nil
  cls_free := List.not_mem_nil
  method_params _ := rfl

/-! ## Identifiers that are written -/

namespace Text

/-- A part that stands somewhere in a text. -/
def Occurs (part text : String) : Prop :=
  ∃ before after, text = before ++ part ++ after

variable {part text : String}

theorem Occurs.append (h : Occurs part text) (more : String) : Occurs part (text ++ more) := by
  obtain ⟨before, after, rfl⟩ := h
  exact ⟨before, after ++ more, by simp only [String.append_assoc]⟩

theorem Occurs.prepend (h : Occurs part text) (more : String) : Occurs part (more ++ text) := by
  obtain ⟨before, after, rfl⟩ := h
  exact ⟨more ++ before, after, by simp only [String.append_assoc]⟩

theorem Occurs.trans {inner : String} (h : Occurs inner part) (hpart : Occurs part text) :
    Occurs inner text := by
  obtain ⟨before, after, rfl⟩ := hpart
  exact (h.prepend before).append after

/-- A text that is longer than another does not stand in it. -/
theorem Occurs.length_le (h : Occurs part text) : part.length ≤ text.length := by
  obtain ⟨before, after, rfl⟩ := h
  simp only [String.length_append]
  omega

/-- What stands in a line stands in the text of all lines. -/
theorem Occurs.join {separator : String} (h : Occurs part text) :
    ∀ {items : List String}, text ∈ items → Occurs part (Text.join separator items)
  | [_], hmem => List.mem_singleton.mp hmem ▸ h
  | t :: u :: rest, hmem => by
    rw [Text.join]
    rcases List.mem_cons.mp hmem with rfl | hmem
    · exact (h.append _).append _
    · exact (h.join hmem).prepend _

end Text

namespace Target

variable (target : Target)

/-- The identifiers in the signature of a function. -/
def paramIdents (f : Function) : List String :=
  target.receivers f.kind ++ (f.params.map Param.name).map target.ident

theorem expr_variable (name : String) : target.expr (.variable name) = target.ident name := by
  cases target <;> rfl

/-- A function is written with its name behind a word of the target and in front of its parameters,
which stand between parentheses. -/
theorem function_heading (record : String) (f : Function) :
    Text.Occurs (target.functionWord ++ target.ident f.name ++ "(" ++
      commas (target.receivers f.kind ++ f.params.map (target.param record)) ++ ")")
      (target.function record f) := by
  have hclose : ") -> " = ")" ++ " -> " := by decide
  cases target with
  | python =>
    rw [function, Python.function]
    refine Text.Occurs.join ⟨"", " -> " ++ Python.typeRef record f.returns ++ ":", ?_⟩
      (List.mem_append_right _ List.mem_cons_self)
    simp only [hclose, String.empty_append, String.append_assoc]
    rfl
  | rust =>
    rw [function, Rust.function]
    refine Text.Occurs.join ⟨"", " -> " ++ Rust.typeRef f.returns ++ " \x7b", ?_⟩
      (List.mem_append_right _ List.mem_cons_self)
    simp only [hclose, String.empty_append, String.append_assoc]
    rfl

/-- A function is written with its parameters between parentheses. -/
theorem function_signature (record : String) (f : Function) :
    ∃ before after, target.function record f =
      before ++ ("(" ++ commas (target.receivers f.kind ++ f.params.map (target.param record)) ++
        ")") ++ after := by
  obtain ⟨before, after, h⟩ := target.function_heading record f
  exact ⟨before ++ (target.functionWord ++ target.ident f.name), after, by
    rw [h]; simp only [String.append_assoc]⟩

/-- A parameter is written as its identifier with its type behind a colon. -/
theorem param_eq (record : String) (p : Param) :
    ∃ type, target.param record p = target.ident p.name ++ ": " ++ type := by
  cases target with
  | python => exact ⟨_, String.append_assoc⟩
  | rust => exact ⟨_, rfl⟩

end Target

theorem idxOf_map_of_injOn {f : String → String} {name : String} :
    ∀ {scope : List String}, (∀ a ∈ scope, f a = f name → a = name) →
      (scope.map f).idxOf (f name) = scope.idxOf name
  | [], _ => rfl
  | a :: scope, hinj => by
    rw [List.map_cons]
    by_cases ha : a = name
    · rw [ha, List.idxOf_cons_self, List.idxOf_cons_self]
    · have hne : f a ≠ f name := fun heq => ha (hinj a List.mem_cons_self heq)
      rw [List.idxOf_cons_ne _ hne, List.idxOf_cons_ne _ ha,
        idxOf_map_of_injOn fun b hb => hinj b (List.mem_cons_of_mem _ hb)]

namespace Code.Function.KeepsClear

variable {f : Function} (h : f.KeepsClear) (target : Target)

include h

/-- What stands before the parameters has none of their identifiers. -/
theorem receivers_disjoint :
    (target.receivers f.kind).Nodup ∧
      (target.receivers f.kind).Disjoint ((f.params.map Param.name).map target.ident) := by
  have hcls : "cls" ∉ (f.params.map Param.name).map target.ident := by
    intro hmem
    obtain ⟨name, hname, heq⟩ := List.mem_map.mp hmem
    have hcls : target.ident name ∈ reservedParams := heq ▸ by decide
    rw [target.eq_of_ident_mem_reservedParams hcls] at heq
    exact h.cls_free (heq ▸ hname)
  cases hkind : f.kind with
  | method =>
    rw [h.method_params hkind]
    cases target <;> exact ⟨by decide, List.disjoint_nil_right _⟩
  | free => cases target <;> exact ⟨by decide, List.disjoint_nil_left _⟩
  | maker =>
    cases target with
    | python => exact ⟨by decide, List.singleton_disjoint.mpr hcls⟩
    | rust => exact ⟨by decide, List.disjoint_nil_left _⟩

/-- The identifiers in a signature are distinct just when no reserved parameter stands beside its
escaped form. -/
theorem nodup_paramIdents_iff :
    (target.paramIdents f).Nodup ↔ ∀ name ∈ f.params.map Param.name, name ∈ target.reserved →
      target.escape name ∉ f.params.map Param.name := by
  obtain ⟨hreceivers, hdisjoint⟩ := h.receivers_disjoint target
  rw [← target.nodup_map_ident_iff h.nodup_params, Target.paramIdents, List.nodup_append']
  exact ⟨fun hnodup => hnodup.2.1, fun hnodup => ⟨hreceivers, hnodup, hdisjoint⟩⟩

/-- With distinct identifiers, the newest name in scope with an identifier is the one that is
referred to. -/
theorem idxOf_ident (hdistinct : (target.paramIdents f).Nodup) {scope : List String}
    {name : String} (hnode : (scope, .variable name) ∈ f.nodes) :
    (scope.map target.ident).idxOf (target.ident name) = scope.idxOf name := by
  have hparams : ((f.params.map Param.name).map target.ident).Nodup :=
    (List.nodup_append'.mp hdistinct).2.1
  have hscope : ∀ a ∈ scope, a ∈ f.params.map Param.name ∨ a = bufferName := fun a ha =>
    (Stmt.of_mem_scope ha f.body hnode).imp_right fun hbound =>
      List.mem_singleton.mp (h.bindings hbound)
  -- the buffer is written as it is, and nothing else is written so
  have hbuffer : ∀ a, target.ident a = target.ident bufferName → a = bufferName := by
    intro a heq
    rw [target.ident_of_mem_reservedParams (by decide : bufferName ∈ reservedParams)] at heq
    rw [← heq]
    exact (target.eq_of_ident_mem_reservedParams (heq ▸ by decide)).symm
  refine idxOf_map_of_injOn fun a ha heq => ?_
  rcases hscope a ha with ha | rfl
  · rcases hscope name (h.bound scope name hnode) with hname | rfl
    · exact List.inj_on_of_nodup_map hparams ha hname heq
    · exact hbuffer a heq
  · exact (hbuffer name heq.symm).symm

end Code.Function.KeepsClear

/-! ## Generated functions -/

/-- The functions of an endpoint are a url function and a constructor for each path, and a
conversion. -/
theorem Endpoint.HasRequests.of_mem_functions {l : Lowered policy} {method : HttpMethod}
    {tokens : List String}
    (h : l.endpoint.HasRequests policy method tokens l.requests l.types) {item : Item}
    (hitem : item ∈ l.items) {f : Function} (hf : f ∈ item.functions) :
    (∃ path ∈ l.endpoint.paths, f = Request.functionFor l.endpoint method tokens
        (policy.strategyFor l.endpoint.name) path) ∨
      (∃ path ∈ l.endpoint.paths, f = (Request.forPath l.endpoint method tokens
        (policy.strategyFor l.endpoint.name) path).makerDecl) ∨
      ∃ r : Request, f = r.conversionDecl := by
  rw [h.items_eq] at hitem
  rcases List.mem_append.mp hitem with hitem | hitem
  · obtain ⟨path, hpath, rfl⟩ : ∃ path ∈ l.endpoint.paths, Item.function (Request.functionFor
        l.endpoint method tokens (policy.strategyFor l.endpoint.name) path) = item := by
      simpa using hitem
    exact .inl ⟨path, hpath, List.mem_singleton.mp hf⟩
  · obtain ⟨r, hr, rfl⟩ := List.mem_map.mp hitem
    obtain ⟨first, -, rfl⟩ := h.mem_recordsOf hr
    rcases List.mem_append.mp hf with hf | hf
    · obtain ⟨request, hrequest, rfl⟩ := List.mem_map.mp hf
      rw [h.requests_eq] at hrequest
      obtain ⟨path, hpath, rfl⟩ := List.mem_map.mp hrequest
      exact .inr (.inl ⟨path, hpath, rfl⟩)
    · exact .inr (.inr ⟨_, List.mem_singleton.mp hf⟩)

theorem SharedTypes.functions_items (types : SharedTypes) :
    types.items.flatMap Item.functions = [] := by
  rw [items, List.flatMap_append, List.flatMap_cons, List.flatMap_map, List.flatMap_map]
  simp [Item.functions]

/-- Every function that is generated is one of an endpoint, whatever the names of endpoints are. -/
theorem function_of_generate {endpoints : List Endpoint} {g : Generated}
    (h : generate endpoints policy = .ok g) {f : Function} (hf : f ∈ g.code.functions) :
    ∃ l : Lowered policy, l.endpoint ∈ g.endpoints ∧
      ∃ item ∈ l.items, f ∈ item.functions := by
  obtain ⟨-, lowered, hendpoints, hcode, -⟩ := items_of_generate h
  rw [hcode, Module.functions, items_assemble, List.flatMap_append, SharedTypes.functions_items,
    List.append_nil, List.flatMap_assoc] at hf
  obtain ⟨l, hl, hf⟩ := List.mem_flatMap.mp hf
  obtain ⟨item, hitem, hf⟩ := List.mem_flatMap.mp hf
  exact ⟨l, hendpoints ▸ List.mem_map_of_mem hl, item, hitem, hf⟩

/-- Every function that is generated from parsed paths keeps clear of what it uses itself. -/
theorem keepsClear_of_generate {endpoints : List Endpoint} {g : Generated}
    (hparsed : ∀ e ∈ endpoints, ∀ path ∈ e.paths, UrlPath.parse path.template = .ok path)
    (h : generate endpoints policy = .ok g) {f : Function} (hf : f ∈ g.code.functions) :
    f.KeepsClear := by
  obtain ⟨l, he, item, hitem, hf⟩ := function_of_generate h hf
  obtain ⟨method, tokens, hrequests⟩ := Endpoint.requests_eq_ok l.requests_eq
  have hparse := forall_paths_of_normalize (items_of_generate h).1 hparsed l.endpoint he
  rcases hrequests.of_mem_functions hitem hf with ⟨path, hpath, rfl⟩ | ⟨path, hpath, rfl⟩ | ⟨r, rfl⟩
  · exact hrequests.keepsClear_functionFor hpath (hparse path hpath)
  · exact hrequests.keepsClear_makerDecl hpath (hparse path hpath)
  · exact r.keepsClear_conversionDecl

/-- In every function that is generated from parsed paths, the parameters have distinct names, and
stand in its signature in either target as identifiers with their types. The identifiers are
distinct just when no parameter with a reserved name stands beside one with its escaped form, and
then each name that is written refers to what it refers to in the tree of code. -/
theorem generate_idents_distinct_iff {endpoints : List Endpoint} {g : Generated}
    (hparsed : ∀ e ∈ endpoints, ∀ path ∈ e.paths, UrlPath.parse path.template = .ok path)
    (h : generate endpoints policy = .ok g) {f : Function} (hf : f ∈ g.code.functions)
    (target : Target) (record : String) :
    (f.params.map Param.name).Nodup ∧
    (∃ before after, target.function record f =
      before ++ ("(" ++ commas (target.receivers f.kind ++ f.params.map (target.param record)) ++
        ")") ++ after) ∧
    (∀ p ∈ f.params, ∃ type, target.param record p = target.ident p.name ++ ": " ++ type) ∧
    ((target.paramIdents f).Nodup ↔
      ∀ name ∈ f.params.map Param.name, name ∈ target.reserved →
        target.escape name ∉ f.params.map Param.name) ∧
    ((target.paramIdents f).Nodup → ∀ scope name, (scope, .variable name) ∈ f.nodes →
      target.expr (.variable name) = target.ident name ∧ name ∈ scope ∧
        (scope.map target.ident).idxOf (target.ident name) = scope.idxOf name) := by
  have hclear := keepsClear_of_generate hparsed h hf
  refine ⟨hclear.nodup_params, target.function_signature record f,
    fun p _ => target.param_eq record p, hclear.nodup_paramIdents_iff target,
    fun hdistinct scope name hnode => ⟨target.expr_variable name, hclear.bound scope name hnode,
      hclear.idxOf_ident target hdistinct hnode⟩⟩

/-- A reserved parameter is written in its escaped form, and what refers to it as well. -/
theorem generate_idents_distinct_class :
    ∃ (get : Endpoint) (g : Generated) (f : Function),
      (∀ e ∈ [get], ∀ path ∈ e.paths, UrlPath.parse path.template = .ok path) ∧
      generate [get] {} = .ok g ∧ f ∈ g.code.functions ∧
      f.params.map Param.name = ["base", "class", "id"] ∧
      Target.python.paramIdents f = ["base", "class_", "id"] ∧
      (Target.python.paramIdents f).Nodup ∧
      ∀ scope name, (scope, .variable name) ∈ f.nodes →
        (scope.map Target.python.ident).idxOf (Target.python.ident name) = scope.idxOf name := by
  let get : Endpoint :=
    { name := "get", methods := [.get],
      paths := [⟨"/{class}/{id}", [.literal "/", .param "class", .literal "/", .param "id"]⟩] }
  have hparsed : ∀ e ∈ [get], ∀ path ∈ e.paths, UrlPath.parse path.template = .ok path := by
    decide
  obtain ⟨g, f, hg, hf, hnames, hidents⟩ :
      ∃ g f, generate [get] {} = .ok g ∧ f ∈ g.code.functions ∧
        f.params.map Param.name = ["base", "class", "id"] ∧
        Target.python.paramIdents f = ["base", "class_", "id"] := by
    subst get
    exact ⟨_, _, rfl, List.mem_cons_self, rfl, rfl⟩
  obtain ⟨-, -, -, hiff, huses⟩ := generate_idents_distinct_iff hparsed hg hf .python ""
  have hdistinct : (Target.python.paramIdents f).Nodup := hiff.mpr (by rw [hnames]; decide)
  exact ⟨get, g, f, hparsed, hg, hf, hnames, hidents, hdistinct, fun scope name hnode =>
    (huses hdistinct scope name hnode).2.2⟩

/-- A reserved parameter beside one with its escaped form is written like it in either target, and
what refers to the second is taken for the first. -/
theorem idents_clash_escaped :
    ∃ (get : Endpoint) (g : Generated) (f : Function) (scope : List String),
      (∀ e ∈ [get], ∀ path ∈ e.paths, UrlPath.parse path.template = .ok path) ∧
      generate [get] {} = .ok g ∧ f ∈ g.code.functions ∧
      f.params.map Param.name = ["base", "class", "class_", "type", "_type"] ∧
      (f.params.map Param.name).Nodup ∧
      Target.python.paramIdents f = ["base", "class_", "class_", "type", "_type"] ∧
      ¬(Target.python.paramIdents f).Nodup ∧
      Target.rust.paramIdents f = ["base", "class", "class_", "_type", "_type"] ∧
      ¬(Target.rust.paramIdents f).Nodup ∧
      (scope, .variable "class_") ∈ f.nodes ∧ scope.idxOf "class_" = 2 ∧
      (scope.map Target.python.ident).idxOf (Target.python.ident "class_") = 1 := by
  let get : Endpoint :=
    { name := "get", methods := [.get],
      paths := [⟨"/{class}/{class_}/{type}/{_type}",
        [.literal "/", .param "class", .literal "/", .param "class_", .literal "/", .param "type",
          .literal "/", .param "_type"]⟩] }
  have hparsed : ∀ e ∈ [get], ∀ path ∈ e.paths, UrlPath.parse path.template = .ok path := by
    decide
  obtain ⟨g, f, scope, hg, hf, hnames, hpython, hrust, hscope, hnode⟩ :
      ∃ g f scope, generate [get] {} = .ok g ∧ f ∈ g.code.functions ∧
        f.params.map Param.name = ["base", "class", "class_", "type", "_type"] ∧
        Target.python.paramIdents f = ["base", "class_", "class_", "type", "_type"] ∧
        Target.rust.paramIdents f = ["base", "class", "class_", "_type", "_type"] ∧
        scope = ["base", "class", "class_", "type", "_type"] ∧
        (scope, .variable "class_") ∈ f.nodes := by
    subst get
    exact ⟨_, _, _, rfl, List.mem_cons_self, rfl, rfl, rfl, rfl,
      List.mem_of_getElem? (i := 18) rfl⟩
  refine ⟨get, g, f, scope, hparsed, hg, hf, hnames, ?_, hpython, ?_, hrust, ?_, hnode, ?_, ?_⟩
  · rw [hnames]
    decide
  · rw [hpython]
    decide
  · rw [hrust]
    decide
  · rw [hscope]
    decide
  · rw [hscope]
    decide

end Routewright
