import Routewright.Proofs.Identifiers

/-!
# Parameters and what functions call

A parameter hides what has its identifier. In Python that may be what the body of the function calls
(`Target.calls`). In Rust it may be any tuple struct as well, since a parameter with the name of one
is read as a pattern; `Target.unhideable` is all that no parameter may hide.

Names that are reserved as parameters cover `cls` and the buffer, and reserved words cover `len`.
The name of a url function is too long to be that of one of its parameters. What is left are the
types of the prelude and the wrapper of the parameter itself, and `generate_params_hide_iff` says
when these are hidden.
-/

namespace Routewright

open Code Outcome

variable {policy : Policy}

/-! ## What is called -/

namespace Code

/-- What an expression calls or makes a value with in Python, as it is written. Texts that are there
as literals are measured beforehand. -/
def Python.called : Expr → Option String
  | .length (.literal (.text _)) => none
  | .length _ => some "len"
  | .call function _ => some (ident function)
  | .convert typeName _ => some (ident typeName)
  | .construct type _ => some (constructed type)
  | .newBuffer _ => some "UrlBuffer"
  | _ => none

/-- What an expression calls in Rust, as it is written. -/
def Rust.called : Expr → Option String
  | .call function _ => some (ident function)
  | _ => none

/-- What is called stands in front of its arguments. -/
theorem Python.expr_called {e : Expr} {callee : String} (h : Python.called e = some callee) :
    ∃ rest, Python.expr e = callee ++ "(" ++ rest := by
  have hlen : "len(" = "len" ++ "(" := by decide
  have hbuffer : "UrlBuffer(" = "UrlBuffer" ++ "(" := by decide
  unfold Python.called at h
  split at h <;> cases h
  · next value hvalue =>
    exact ⟨Python.expr value ++ ")", by simp only [Python.expr, hlen, String.append_assoc]⟩
  · next function arguments =>
    exact ⟨commas (Python.exprs arguments) ++ ")", by simp only [Python.expr, String.append_assoc]⟩
  · next typeName value =>
    exact ⟨Python.expr value ++ ")", by simp only [Python.expr, String.append_assoc]⟩
  · next type fields =>
    exact ⟨commas (Python.namedExprs fields) ++ ")", by
      simp only [Python.expr, String.append_assoc]⟩
  · next capacity =>
    exact ⟨Python.expr capacity ++ ")", by simp only [Python.expr, hbuffer, String.append_assoc]⟩

theorem Python.called_length {value : Expr} {callee : String}
    (h : Python.called (.length value) = some callee) : callee = "len" := by
  cases value with
  | literal l => cases l <;> cases h <;> rfl
  | _ => exact (Option.some.inj h).symm

theorem Rust.expr_called {e : Expr} {callee : String} (h : Rust.called e = some callee) :
    ∃ rest, Rust.expr e = callee ++ "(" ++ rest := by
  unfold Rust.called at h
  split at h <;> cases h
  next function arguments =>
  have hcall : Rust.expr (.call function arguments) =
      Rust.ident function ++ "(" ++ commas (Rust.exprs arguments) ++ ")" := rfl
  exact ⟨commas (Rust.exprs arguments) ++ ")", hcall.trans (String.append_assoc)⟩

/-- The tuple structs that a declaration adds in Rust, as they are written. -/
def Item.tupleStructs : Item → List String
  | .prelude => ["Url", "Body"]
  | .wrapper w => [Rust.ident w.name]
  | .namedText t => [Rust.ident t.name]
  | _ => []

/-- The tuple structs of a module. -/
def Module.tupleStructs (m : Module) : List String :=
  m.items.flatMap Item.tupleStructs

/-- A tuple struct stands in what is printed for its declaration. -/
theorem Rust.occurs_tupleStruct {i : Item} {name : String} (h : name ∈ i.tupleStructs) :
    Text.Occurs ("pub struct " ++ name ++ "(pub ") (Rust.item i) := by
  have hstring : ∀ name : String,
      Text.Occurs ("pub struct " ++ name ++ "(pub ") ("pub struct " ++ name ++ "(pub String);") :=
    fun name => Text.occurs_name ⟨"", by decide⟩ ⟨"String);", by decide⟩
  cases i with
  | function | record => exact absurd h List.not_mem_nil
  | wrapper w =>
    obtain rfl := List.mem_singleton.mp h
    exact (hstring _).trans (Rust.occurs_wrapper w)
  | namedText t =>
    obtain rfl := List.mem_singleton.mp h
    exact (hstring _).trans (Rust.occurs_namedText t)
  | prelude =>
    rcases List.mem_cons.mp h with rfl | h
    · refine Text.Occurs.join (hstring "Url") ?_
      decide
    · obtain rfl := List.mem_singleton.mp h
      have hbytes :
          Text.Occurs ("pub struct " ++ "Body" ++ "(pub ") "pub struct Body(pub Vec<u8>);" :=
        ⟨"", "Vec<u8>);", by decide⟩
      refine hbytes.join ?_
      decide

end Code

namespace Target

variable (target : Target)

/-- What an expression calls in a target. -/
def called : Target → Expr → Option String
  | .python => Python.called
  | .rust => Rust.called

/-- What a function calls in a target. -/
def calls (f : Function) : List String :=
  (f.nodes.map Prod.snd).filterMap target.called

/-- The identifiers that no parameter of a function may have : what the function calls, and in Rust
all tuple structs. -/
def unhideable (m : Module) (f : Function) : List String :=
  match target with
  | .python => target.calls f
  | .rust => target.calls f ++ m.tupleStructs

theorem mem_calls_iff {f : Function} {callee : String} :
    callee ∈ target.calls f ↔ ∃ node ∈ f.nodes, target.called node.2 = some callee := by
  rw [calls, List.filterMap_map, List.mem_filterMap]
  rfl

theorem expr_called {e : Expr} {callee : String} (h : target.called e = some callee) :
    ∃ rest, target.expr e = callee ++ "(" ++ rest := by
  cases target with
  | python => exact Python.expr_called h
  | rust => exact Rust.expr_called h

theorem length_escape (name : String) : (target.escape name).length = name.length + 1 := by
  cases target with
  | python => exact String.length_append name "_"
  | rust => exact (String.length_append "_" name).trans (Nat.add_comm _ _)

/-- A reserved word is written as none. -/
theorem ident_not_mem_reserved (name : String) : target.ident name ∉ target.reserved := by
  rw [ident_eq]
  by_cases hname : name ∈ target.reserved
  · rw [escapeReserved_of_mem hname]
    exact target.escape_not_mem_reserved name hname
  · rwa [escapeReserved_of_not_mem hname]

/-- A word that is neither reserved nor an escaped form is written by its own name only. -/
theorem ident_eq_word_iff {name word : String} (hword : word ∉ target.reserved)
    (hescaped : ∀ w ∈ target.reserved, target.escape w ≠ word) :
    target.ident name = word ↔ name = word := by
  have hself : target.ident word = word := by rw [ident_eq, escapeReserved_of_not_mem hword]
  constructor
  · intro heq
    rcases target.ident_eq_iff.mp (heq.trans hself.symm) with heq | ⟨hname, heq⟩ | ⟨hword', -⟩
    · exact heq
    · exact absurd heq.symm (hescaped name hname)
    · exact absurd hword' hword
  · rintro rfl
    exact hself

end Target

/-! ## Where expressions stand -/

namespace Code

/-- The expression of a statement. -/
def Stmt.value : Stmt → Expr
  | .bind _ value _ => value
  | .push _ value => value
  | .result value => value

/-- What is inside of the expression of a statement is inside of a body that has the statement. -/
theorem Stmt.exists_mem_nodes {s : Stmt} {e : Expr} (he : e ∈ s.value.nodes) :
    ∀ {body : List Stmt} {scope : List String}, s ∈ body →
      ∃ node ∈ Stmt.nodes scope body, node.2 = e
  | .bind name value isMutable :: rest, scope, h => by
    rcases List.mem_cons.mp h with rfl | h
    · exact ⟨_, List.mem_append_left _ (List.mem_map_of_mem he), rfl⟩
    · obtain ⟨node, hnode, heq⟩ := Stmt.exists_mem_nodes he h
      exact ⟨node, List.mem_append_right _ hnode, heq⟩
  | .push buffer value :: rest, scope, h => by
    rcases List.mem_cons.mp h with rfl | h
    · exact ⟨_, List.mem_append_left _ (List.mem_cons_of_mem _ (List.mem_map_of_mem he)), rfl⟩
    · obtain ⟨node, hnode, heq⟩ := Stmt.exists_mem_nodes he h
      exact ⟨node, List.mem_append_right _ hnode, heq⟩
  | .result value :: rest, scope, h => by
    rcases List.mem_cons.mp h with rfl | h
    · exact ⟨_, List.mem_append_left _ (List.mem_map_of_mem he), rfl⟩
    · obtain ⟨node, hnode, heq⟩ := Stmt.exists_mem_nodes he h
      exact ⟨node, List.mem_append_right _ hnode, heq⟩

theorem Expr.mem_nodes_self (e : Expr) : e ∈ e.nodes := by
  cases e <;> simp [Expr.nodes]

/-- What is inside of the first summand is inside of the sum. -/
theorem Expr.mem_nodes_foldl_sum_start {e : Expr} :
    ∀ (terms : List Expr) {start : Expr}, e ∈ start.nodes →
      e ∈ (terms.foldl Expr.sum start).nodes
  | [], _, h => h
  | term :: terms, start, h => by
    refine Expr.mem_nodes_foldl_sum_start terms ?_
    rw [Expr.nodes]
    exact List.mem_cons_of_mem _ (List.mem_append_left _ h)

end Code

/-! ## What generated functions call -/

namespace Request

variable {e : Endpoint} {method : HttpMethod} {tokens : List String} {strategy : Strategy}
  {path : UrlPath} {callee : String}

/-- A url function that pushes measures texts, makes a buffer and makes a url; one that formats
makes a url only. -/
theorem mem_pythonCalls_functionFor (hplain : Segment.PlainLiterals path.segments) :
    callee ∈ Target.python.calls (functionFor e method tokens strategy path) ↔
      callee = "Url" ∨
        (bufferName ∈ Stmt.bindings (functionFor e method tokens strategy path).body ∧
          (callee = "UrlBuffer" ∨ callee = "len")) := by
  rw [Target.mem_calls_iff]
  obtain ⟨value, hresult⟩ : ∃ value, Stmt.result (.convert urlType value) ∈
      (functionFor e method tokens strategy path).body := by
    cases strategy with
    | push => exact ⟨_, List.mem_append_right _ (List.mem_singleton_self _)⟩
    | format => exact ⟨_, List.mem_singleton_self _⟩
  have hurl : ∃ node ∈ (functionFor e method tokens strategy path).nodes,
      Target.python.called node.2 = some "Url" := by
    obtain ⟨node, hnode, heq⟩ := Stmt.exists_mem_nodes (Expr.mem_nodes_self _) hresult
    exact ⟨node, hnode, heq ▸ rfl⟩
  cases strategy with
  | push =>
    have hbuffer : bufferName ∈ Stmt.bindings
        (functionFor e method tokens .push path).body := List.mem_cons_self
    rw [and_iff_right hbuffer]
    constructor
    · rintro ⟨node, hnode, hcalled⟩
      have hurl := UrlBuilder.urlNode_of_mem_functionOf hplain _ _ _ _ hnode
      generalize node.2 = value at hurl hcalled
      cases hurl with
      | convert => exact .inl (Option.some.inj hcalled).symm
      | newBuffer => exact .inr (.inl (Option.some.inj hcalled).symm)
      | length value => exact .inr (.inr (Python.called_length hcalled))
      | literal | bound | sum | finishBuffer | format => cases hcalled
    · have hcapacity : Expr.length (.variable baseParam) ∈
          (Expr.newBuffer (UrlBuilder.capacityExpr path.segments)).nodes :=
        List.mem_cons_of_mem _ (Expr.mem_nodes_foldl_sum_start _ List.mem_cons_self)
      have hbind : Stmt.bind bufferName (.newBuffer (UrlBuilder.capacityExpr path.segments)) true ∈
          (functionFor e method tokens .push path).body := List.mem_cons_self
      rintro (rfl | rfl | rfl)
      · exact hurl
      · obtain ⟨node, hnode, heq⟩ := Stmt.exists_mem_nodes (Expr.mem_nodes_self _) hbind
        exact ⟨node, hnode, heq ▸ rfl⟩
      · obtain ⟨node, hnode, heq⟩ := Stmt.exists_mem_nodes hcapacity hbind
        exact ⟨node, hnode, heq ▸ rfl⟩
  | format =>
    have hnone : bufferName ∉ Stmt.bindings
        (functionFor e method tokens .format path).body := List.not_mem_nil
    rw [or_iff_left fun h => hnone h.1]
    refine ⟨?_, fun heq => heq ▸ hurl⟩
    rintro ⟨node, hnode, hcalled⟩
    rw [Function.nodes, functionFor, UrlBuilder.functionOf, UrlBuilder.ofPath, UrlBuilder.bodyOf,
      ← List.map_cons, Stmt.nodes, Stmt.nodes, Expr.nodes, Expr.nodes, Expr.nodesOfAll_variables,
      List.append_nil] at hnode
    obtain ⟨e, he, rfl⟩ := List.mem_map.mp hnode
    rcases List.mem_cons.mp he with rfl | he
    · exact (Option.some.inj hcalled).symm
    rcases List.mem_cons.mp he with rfl | he
    · cases hcalled
    · obtain ⟨name, -, rfl⟩ := List.mem_map.mp he
      cases hcalled

/-- A url function calls nothing in Rust. -/
theorem rustCalls_functionFor (hplain : Segment.PlainLiterals path.segments) :
    callee ∉ Target.rust.calls (functionFor e method tokens strategy path) := by
  intro h
  obtain ⟨node, hnode, hcalled⟩ := Target.rust.mem_calls_iff.mp h
  have hurl := UrlBuilder.urlNode_of_mem_functionOf hplain _ _ _ _ hnode
  generalize node.2 = e at hurl hcalled
  cases hurl <;> cases hcalled

/-- A constructor calls the url function of its path, and in Python the record that it is of. -/
theorem mem_calls_makerDecl (target : Target) :
    callee ∈ target.calls (forPath e method tokens strategy path).makerDecl ↔
      (target = .python ∧ callee = "cls") ∨
        callee = target.ident (urlFunctionName tokens path.params) := by
  have hvariables : ∀ names : List String,
      (names.map Expr.variable).filterMap target.called = [] := fun names => by
    rw [List.filterMap_map, List.filterMap_eq_nil_iff]
    cases target <;> exact fun _ _ => rfl
  have hcalls : target.calls (forPath e method tokens strategy path).makerDecl =
      (if target = .python then ["cls"] else []) ++
        [target.ident (urlFunctionName tokens path.params)] := by
    have hsnd : ∀ nodes : List Expr, nodes.map (Prod.snd ∘ (makerNames e path, ·)) = nodes :=
      List.map_id
    rw [Target.calls, nodes_makerDecl, List.map_map, hsnd, urlCall_forPath]
    have hcall : ∀ function arguments, target.called (.call function arguments) =
        some (target.ident function) := fun _ _ => by cases target <;> rfl
    cases target with
    | python =>
      have hmake : ∀ fields, Target.python.called (.construct .enclosing fields) = some "cls" :=
        fun _ => rfl
      rw [List.filterMap_cons_some (hmake _), List.filterMap_cons_some (hcall _ _), hvariables]
      rfl
    | rust =>
      rw [List.filterMap_cons_none rfl, List.filterMap_cons_some (hcall _ _), hvariables]
      rfl
  rw [hcalls]
  cases target <;> simp

end Request

/-! ## Names of url functions -/

/-- No parameter is written as the url function of its path is. -/
theorem Target.ident_ne_urlFunctionName (target : Target) {e : Endpoint} {tokens : List String}
    {path : UrlPath} {name : String} (hname : name ∈ Request.makerNames e path) :
    target.ident name ≠ target.ident (urlFunctionName tokens path.params) := by
  have hown : ∀ w ∈ [baseParam, bodyParam], '_' ∉ w.toList ∧ w ∉ target.reserved := by
    cases target <;> decide
  have hreserved : ∀ w ∈ target.reserved, ¬"_url".toList.Sublist w.toList := by
    cases target <;> decide
  have hname : name ∈ path.params ∨ name ∈ [baseParam, bodyParam] := by
    rcases List.mem_append.mp hname with hname | hname
    · rcases List.mem_cons.mp hname with rfl | hname
      · exact .inr List.mem_cons_self
      · exact .inl hname
    · split_ifs at hname
      · exact .inr (List.mem_cons_of_mem _ hname)
      · exact absurd hname List.not_mem_nil
  intro heq
  rcases target.ident_eq_iff.mp heq with heq | ⟨hescaped, heq⟩ | ⟨hurl, -⟩
  · rcases hname with hname | hname
    · have hlt := length_lt_urlFunctionName tokens hname
      rw [← heq] at hlt
      omega
    · exact (hown name hname).1 (heq ▸ underscore_mem_urlFunctionName tokens path.params)
  · rcases hname with hname | hname
    · have hlt := length_lt_urlFunctionName tokens hname
      rw [heq, target.length_escape] at hlt
      omega
    · exact (hown name hname).2 hescaped
  · exact hreserved _ hurl (url_sublist_urlFunctionName tokens path.params)

/-! ## Tuple structs -/

theorem SharedTypes.tupleStructs_items (types : SharedTypes) :
    types.items.flatMap Item.tupleStructs = ["Url", "Body"] ++ types.declared.map Rust.ident := by
  rw [items, List.flatMap_append, List.flatMap_cons, List.flatMap_map, List.flatMap_map, declared,
    Table.keys, List.map_append, List.map_map, List.map_eq_flatMap, List.map_eq_flatMap,
    List.append_assoc]
  rfl

/-- The tuple structs of generated code are those of the prelude and the text types. -/
theorem mem_tupleStructs_of_generate {endpoints : List Endpoint} {g : Generated}
    (h : generate endpoints policy = .ok g) {name : String} :
    name ∈ g.code.tupleStructs ↔
      name ∈ ["Url", "Body"] ∨ ∃ type ∈ g.types.names, Rust.ident type = name := by
  obtain ⟨-, lowered, -, hcode, -⟩ := items_of_generate h
  have hnone : ∀ l : Lowered policy, l.items.flatMap Item.tupleStructs = [] := fun l => by
    obtain ⟨functions, -, hitems⟩ := Request.items_eq_ok l.items_eq
    simp [hitems, Item.tupleStructs]
  rw [hcode, Module.tupleStructs, items_assemble, List.flatMap_append, List.flatMap_assoc,
    SharedTypes.tupleStructs_items]
  simp [hnone, SharedTypes.mem_declared, or_assoc]

/-- A parameter has the identifier of a text type just when it has that of its own wrapper. -/
theorem exists_ident_eq_iff {endpoints : List Endpoint} {g : Generated}
    (h : generate endpoints policy = .ok g) {name : String} :
    (∃ type ∈ g.types.names, Rust.ident type = Rust.ident name) ↔
      sharedTypeName name ∈ g.types.names ∧ Rust.ident (sharedTypeName name) = Rust.ident name := by
  refine ⟨?_, fun hwrapper => ⟨_, hwrapper⟩⟩
  rintro ⟨type, htype, heq⟩
  suffices hself : sharedTypeName name = type from hself ▸ ⟨htype, heq⟩
  obtain ⟨-, lowered, -, -, types, hsubset, htypes⟩ := items_of_generate h
  obtain ⟨l, -, hl, hmem⟩ := exists_of_mem_types hsubset (htypes ▸ htype)
  obtain ⟨s, rfl⟩ := Endpoint.mem_names_sharedTypes hl hmem
  rcases Target.rust.ident_eq_iff.mp heq with rfl | ⟨-, rfl⟩ | ⟨-, hescaped⟩
  · exact sharedTypeName_sharedTypeName s
  · exact (sharedTypeName_underscore _).trans (sharedTypeName_sharedTypeName s)
  · refine absurd ?_ (underscore_not_mem_sharedTypeName s)
    rw [hescaped, Target.escape, String.toList_append]
    exact List.mem_cons_self

/-! ## Parameters that hide what is called -/

namespace Endpoint.HasRequests

variable {l : Lowered policy} {method : HttpMethod} {tokens : List String} {path : UrlPath}
  {name : String}

/-- A parameter of a constructor hides nothing that the constructor calls. -/
theorem ident_not_mem_calls_makerDecl
    (h : l.endpoint.HasRequests policy method tokens l.requests l.types)
    (hpath : path ∈ l.endpoint.paths) (hname : name ∈ Request.makerNames l.endpoint path)
    (strategy : Strategy) (target : Target) :
    target.ident name ∉
      target.calls (Request.forPath l.endpoint method tokens strategy path).makerDecl := by
  rw [Request.mem_calls_makerDecl, not_or]
  refine ⟨?_, target.ident_ne_urlFunctionName hname⟩
  rintro ⟨rfl, heq⟩
  have hcls : name = "cls" :=
    (Target.python.ident_eq_word_iff (by decide) (by decide)).mp heq
  exact h.not_mem_makerNames hpath (by decide) (by decide) (by decide) (hcls ▸ hname)

end Endpoint.HasRequests

/-- A parameter of a url function hides the url type in Python, and the buffer where there is one,
just when it has the name of it. -/
theorem Request.ident_mem_pythonCalls_functionFor {e : Endpoint} {method : HttpMethod}
    {tokens : List String} {strategy : Strategy} {path : UrlPath} {name : String}
    (hplain : Segment.PlainLiterals path.segments) :
    Python.ident name ∈ Target.python.calls (functionFor e method tokens strategy path) ↔
      name = "Url" ∨ (bufferName ∈
        Stmt.bindings (functionFor e method tokens strategy path).body ∧ name = "UrlBuffer") := by
  have hlen : Python.ident name ≠ "len" := by
    intro heq
    have hreserved : Python.ident name ∈ Python.reserved := heq ▸ by decide
    exact Target.python.ident_not_mem_reserved name hreserved
  rw [mem_pythonCalls_functionFor hplain, or_iff_left hlen]
  exact or_congr (Target.python.ident_eq_word_iff (by decide) (by decide))
    (and_congr_right fun _ => Target.python.ident_eq_word_iff (by decide) (by decide))

/-- In code that is generated from parsed paths, what a function calls stands in front of its
arguments. A parameter is written in Python as what its function calls just when the function makes
a url and the parameter is called `Url`, or makes a buffer and the parameter is called `UrlBuffer`.
In Rust it is written as what its function calls or as a tuple struct just when it is called `Url`
or `Body`, or has the identifier of its own wrapper. -/
theorem generate_params_hide_iff {endpoints : List Endpoint} {g : Generated}
    (hparsed : ∀ e ∈ endpoints, ∀ path ∈ e.paths, UrlPath.parse path.template = .ok path)
    (h : generate endpoints policy = .ok g) {f : Function} (hf : f ∈ g.code.functions) :
    (∀ target : Target, ∀ node ∈ f.nodes, ∀ callee, target.called node.2 = some callee →
      ∃ rest, target.expr node.2 = callee ++ "(" ++ rest) ∧
    ∀ name ∈ f.params.map Param.name,
      (Python.ident name ∈ Target.python.unhideable g.code f ↔ f.kind = .free ∧
        (name = "Url" ∨ (bufferName ∈ Stmt.bindings f.body ∧ name = "UrlBuffer"))) ∧
      (Rust.ident name ∈ Target.rust.unhideable g.code f ↔ name = "Url" ∨ name = "Body" ∨
        (sharedTypeName name ∈ g.types.names ∧
          Rust.ident (sharedTypeName name) = Rust.ident name)) := by
  refine ⟨fun target _ _ _ hcalled => target.expr_called hcalled, fun name hname => ?_⟩
  obtain ⟨l, he, item, hitem, hf⟩ := function_of_generate h hf
  obtain ⟨method, tokens, hrequests⟩ := Endpoint.requests_eq_ok l.requests_eq
  have hparse := forall_paths_of_normalize (items_of_generate h).1 hparsed l.endpoint he
  have hstructs : Rust.ident name ∈ g.code.tupleStructs ↔ name = "Url" ∨ name = "Body" ∨
      (sharedTypeName name ∈ g.types.names ∧
        Rust.ident (sharedTypeName name) = Rust.ident name) := by
    rw [mem_tupleStructs_of_generate h, exists_ident_eq_iff h, List.mem_pair, or_assoc]
    exact or_congr (Target.rust.ident_eq_word_iff (by decide) (by decide))
      (or_congr_left (Target.rust.ident_eq_word_iff (by decide) (by decide)))
  rcases hrequests.of_mem_functions hitem hf with ⟨path, hpath, rfl⟩ | ⟨path, hpath, rfl⟩ | ⟨r, rfl⟩
  · have hplain := UrlPath.plainLiterals (hparse path hpath)
    refine ⟨?_, ?_⟩
    · rw [Target.unhideable, Request.ident_mem_pythonCalls_functionFor hplain]
      exact (and_iff_right rfl).symm
    · rw [Target.unhideable, List.mem_append, hstructs]
      exact or_iff_right (Request.rustCalls_functionFor hplain)
  · rw [Request.map_name_makerDecl] at hname
    have hcalls := hrequests.ident_not_mem_calls_makerDecl hpath hname
      (policy.strategyFor l.endpoint.name)
    refine ⟨?_, ?_⟩
    · exact iff_of_false (hcalls .python) fun hfree => nomatch hfree.1
    · rw [Target.unhideable, List.mem_append, hstructs]
      exact or_iff_right (hcalls .rust)
  · exact absurd hname List.not_mem_nil

/-- Parameters that differ from the types in their first letter hide nothing, and one with the name
of what measures texts in Python is escaped. -/
theorem generate_params_hide_none :
    ∃ (get : Endpoint) (g : Generated) (f : Function),
      (∀ e ∈ [get], ∀ path ∈ e.paths, UrlPath.parse path.template = .ok path) ∧
      generate [get] {} = .ok g ∧ f ∈ g.code.functions ∧
      f.params.map Param.name = ["base", "url", "len"] ∧
      Target.rust.unhideable g.code f = ["Url", "Body", "Len", "UrlPart"] ∧
      ∀ name ∈ ["base", "url", "len"], Python.ident name ∉ Target.python.unhideable g.code f ∧
        Rust.ident name ∉ Target.rust.unhideable g.code f := by
  let get : Endpoint :=
    { name := "get", methods := [.get],
      paths := [⟨"/{url}/{len}", [.literal "/", .param "url", .literal "/", .param "len"]⟩] }
  have hparsed : ∀ e ∈ [get], ∀ path ∈ e.paths, UrlPath.parse path.template = .ok path := by
    decide
  obtain ⟨g, f, hg, hf, hnames, hstructs⟩ :
      ∃ g f, generate [get] {} = .ok g ∧ f ∈ g.code.functions ∧
        f.params.map Param.name = ["base", "url", "len"] ∧
        Target.rust.unhideable g.code f = ["Url", "Body", "Len", "UrlPart"] := by
    subst get
    exact ⟨_, _, rfl, List.mem_cons_self, rfl, rfl⟩
  have hothers : ∀ name ∈ ["base", "url", "len"],
      name ≠ "Url" ∧ name ≠ "Body" ∧ name ≠ "UrlBuffer" ∧
        Rust.ident (sharedTypeName name) ≠ Rust.ident name := by decide
  obtain ⟨-, hiff⟩ := generate_params_hide_iff hparsed hg hf
  refine ⟨get, g, f, hparsed, hg, hf, hnames, hstructs, fun name hname => ?_⟩
  obtain ⟨hpython, hrust⟩ := hiff name (hnames ▸ hname)
  obtain ⟨hurl, hbody, hbuffer, hwrapper⟩ := hothers name hname
  refine ⟨fun hmem => ?_, fun hmem => ?_⟩
  · rcases (hpython.mp hmem).2 with heq | ⟨-, heq⟩
    · exact hurl heq
    · exact hbuffer heq
  · rcases hrust.mp hmem with heq | heq | ⟨-, heq⟩
    · exact hurl heq
    · exact hbody heq
    · exact hwrapper heq

/-- Parameters that are called like the types that a url function makes are written like them in
Python, and one that is called like its own wrapper is written like it in Rust. -/
theorem params_hide_types :
    ∃ (get : Endpoint) (g : Generated) (f : Function),
      (∀ e ∈ [get], ∀ path ∈ e.paths, UrlPath.parse path.template = .ok path) ∧
      generate [get] {} = .ok g ∧ f ∈ g.code.functions ∧
      f.params.map Param.name = ["base", "Url", "UrlBuffer", "Index"] ∧
      Python.ident "Url" ∈ Target.python.unhideable g.code f ∧
      Python.ident "UrlBuffer" ∈ Target.python.unhideable g.code f ∧
      Rust.ident "Url" ∈ Target.rust.unhideable g.code f ∧
      Rust.ident "Index" ∈ Target.rust.unhideable g.code f := by
  let get : Endpoint :=
    { name := "get", methods := [.get],
      paths := [⟨"/{Url}/{UrlBuffer}/{Index}",
        [.literal "/", .param "Url", .literal "/", .param "UrlBuffer", .literal "/",
          .param "Index"]⟩] }
  have hparsed : ∀ e ∈ [get], ∀ path ∈ e.paths, UrlPath.parse path.template = .ok path := by
    decide
  obtain ⟨g, f, hg, hf, hnames, hcalls, hstructs⟩ :
      ∃ g f, generate [get] {} = .ok g ∧ f ∈ g.code.functions ∧
        f.params.map Param.name = ["base", "Url", "UrlBuffer", "Index"] ∧
        Target.python.unhideable g.code f =
          ["UrlBuffer", "len", "len", "len", "len", "Url"] ∧
        Target.rust.unhideable g.code f =
          ["Url", "Body", "Index", "UrlBufferPart", "UrlPart"] := by
    subst get
    exact ⟨_, _, rfl, List.mem_cons_self, rfl, rfl, rfl⟩
  exact ⟨get, g, f, hparsed, hg, hf, hnames, hcalls ▸ by decide, hcalls ▸ by decide,
    hstructs ▸ by decide, hstructs ▸ by decide⟩

end Routewright
