import Routewright.Proofs.Transport

/-!
# What generated functions are made of

All expressions of a function with the names that each may refer to (`Function.nodes`), and which
expressions these are for the functions that requests lead to. The function of a path is made of the
expressions that `UrlNode` lists, a constructor of one call and one variable for each parameter
(`nodes_makerDecl`), and the conversion refers to no name at all (`nodes_conversionDecl`).
-/

namespace Routewright

open Code Outcome

variable {policy : Policy}

/-! ## Expressions inside of expressions -/

namespace Code

mutual

/-- An expression and all expressions inside of it, from the outside in. -/
def Expr.nodes : Expr → List Expr
  | .literal value => [.literal value]
  | .variable name => [.variable name]
  | .receiver => [.receiver]
  | .member value name => .member value name :: value.nodes
  | .length value => .length value :: value.nodes
  | .sum left right => .sum left right :: (left.nodes ++ right.nodes)
  | .call function arguments => .call function arguments :: Expr.nodesOfAll arguments
  | .format template arguments => .format template arguments :: Expr.nodesOfAll arguments
  | .convert typeName value => .convert typeName value :: value.nodes
  | .construct type fields => .construct type fields :: Expr.nodesOfFields fields
  | .enumMember enumeration name => [.enumMember enumeration name]
  | .present value => .present value :: value.nodes
  | .newBuffer capacity => .newBuffer capacity :: capacity.nodes
  | .finishBuffer buffer => .finishBuffer buffer :: buffer.nodes

/-- The expressions inside of some expressions. -/
def Expr.nodesOfAll : List Expr → List Expr
  | [] => []
  | e :: rest => e.nodes ++ Expr.nodesOfAll rest

/-- The expressions inside of some named ones. -/
def Expr.nodesOfFields : List (String × Expr) → List Expr
  | [] => []
  | (_, e) :: rest => e.nodes ++ Expr.nodesOfFields rest

end

/-- The expressions of statements, each with the names that it may refer to, the newest first. A
statement that pushes refers to its buffer. -/
def Stmt.nodes (scope : List String) : List Stmt → List (List String × Expr)
  | [] => []
  | .bind name value _ :: rest => value.nodes.map (scope, ·) ++ Stmt.nodes (name :: scope) rest
  | .push buffer value :: rest =>
    (scope, .variable buffer) :: value.nodes.map (scope, ·) ++ Stmt.nodes scope rest
  | .result value :: rest => value.nodes.map (scope, ·) ++ Stmt.nodes scope rest

/-- The expressions of a function, each with the names that it may refer to. -/
def Function.nodes (f : Function) : List (List String × Expr) :=
  Stmt.nodes (f.params.map Param.name) f.body

theorem Expr.nodesOfAll_variables :
    ∀ names : List String, Expr.nodesOfAll (names.map Expr.variable) = names.map Expr.variable
  | [] => rfl
  | name :: names => congrArg (Expr.variable name :: ·) (Expr.nodesOfAll_variables names)

/-- Inside of a sum nested to the left there are sums, and what is inside of its summands. -/
theorem Expr.mem_nodes_foldl_sum {e : Expr} :
    ∀ (terms : List Expr) {start : Expr}, e ∈ (terms.foldl Expr.sum start).nodes →
      (∃ left right, e = .sum left right) ∨ ∃ term ∈ start :: terms, e ∈ term.nodes
  | [], _, h => .inr ⟨_, List.mem_singleton_self _, h⟩
  | term :: terms, start, h => by
    rcases Expr.mem_nodes_foldl_sum terms h with hsum | ⟨t, ht, he⟩
    · exact .inl hsum
    rcases List.mem_cons.mp ht with rfl | ht
    · rw [Expr.nodes, List.mem_cons, List.mem_append] at he
      rcases he with rfl | he | he
      · exact .inl ⟨_, _, rfl⟩
      · exact .inr ⟨start, List.mem_cons_self, he⟩
      · exact .inr ⟨term, List.mem_cons_of_mem _ List.mem_cons_self, he⟩
    · exact .inr ⟨t, List.mem_cons_of_mem _ (List.mem_cons_of_mem _ ht), he⟩

end Code

/-! ## Walks over segments -/

namespace Segment

/-- What a segment is in generated code. -/
def value : Segment → Expr
  | .literal text => .literal (.text text)
  | .param name => .variable name

theorem mem_params_iff {name : String} :
    ∀ {segments : List Segment}, name ∈ Segment.params segments ↔ .param name ∈ segments
  | [] => iff_of_false List.not_mem_nil List.not_mem_nil
  | .literal text :: rest => by
    rw [Segment.params, mem_params_iff, List.mem_cons, or_iff_right (by simp)]
  | .param other :: rest => by
    rw [Segment.params, List.mem_cons, mem_params_iff, List.mem_cons, Segment.param.injEq]

end Segment

namespace UrlBuilder

/-- A walk over segments that leaves empty literals out and does the same to all others. -/
theorem walk_eq_map_filter {α : Type} {walk : List Segment → List α} {item : Segment → α}
    (hnil : walk [] = [])
    (hliteral : ∀ text rest, walk (.literal text :: rest) =
      if text.isEmpty then walk rest else item (.literal text) :: walk rest)
    (hparam : ∀ name rest, walk (.param name :: rest) = item (.param name) :: walk rest) :
    ∀ segments, walk segments = (segments.filter (· ≠ .literal "")).map item
  | [] => hnil
  | .literal text :: rest => by
    have hrest := walk_eq_map_filter hnil hliteral hparam rest
    rw [hliteral, hrest]
    split_ifs with hempty
    · rw [String.isEmpty_iff.mp hempty, List.filter_cons_of_neg (by simp)]
    · have hkept : Segment.literal text ≠ .literal "" := fun heq =>
        hempty (String.isEmpty_iff.mpr (Segment.literal.inj heq))
      rw [List.filter_cons_of_pos (by simpa using hkept), List.map_cons]
  | .param name :: rest => by
    have hrest := walk_eq_map_filter hnil hliteral hparam rest
    rw [hparam, hrest, List.filter_cons_of_pos (by simp), List.map_cons]

theorem segmentLengths_eq_map (segments : List Segment) :
    segmentLengths segments =
      (segments.filter (· ≠ .literal "")).map fun s => .length s.value :=
  walk_eq_map_filter rfl (fun _ _ => rfl) (fun _ _ => rfl) segments

theorem segmentPushes_eq_map (segments : List Segment) :
    segmentPushes segments =
      (segments.filter (· ≠ .literal "")).map fun s => .push bufferName s.value :=
  walk_eq_map_filter rfl (fun _ _ => rfl) (fun _ _ => rfl) segments

/-- A length that is added up is that of a segment, no empty literal. -/
theorem mem_segmentLengths_iff {segments : List Segment} {e : Expr} :
    e ∈ segmentLengths segments ↔ ∃ s ∈ segments, s ≠ .literal "" ∧ .length s.value = e := by
  rw [segmentLengths_eq_map, List.mem_map]
  simp [and_assoc]

/-- What is pushed is a segment, no empty literal. -/
theorem mem_segmentPushes_iff {segments : List Segment} {pushed : Stmt} :
    pushed ∈ segmentPushes segments ↔
      ∃ s ∈ segments, s ≠ .literal "" ∧ .push bufferName s.value = pushed := by
  rw [segmentPushes_eq_map, List.mem_map]
  simp [and_assoc]

end UrlBuilder

/-! ## Url functions -/

/-- The expressions that url functions are made of, where names of `scope` may be referred to. -/
inductive UrlNode (scope : List String) : Expr → Prop
  | literal (value : Literal) : UrlNode scope (.literal value)
  | bound {name : String} (h : name ∈ scope) : UrlNode scope (.variable name)
  | length (value : Expr) : UrlNode scope (.length value)
  | sum (left right : Expr) : UrlNode scope (.sum left right)
  | newBuffer (capacity : Expr) : UrlNode scope (.newBuffer capacity)
  | finishBuffer (buffer : Expr) : UrlNode scope (.finishBuffer buffer)
  | convert (value : Expr) : UrlNode scope (.convert urlType value)
  | format {template : String} {arguments : List Expr}
    (h : countHoles template.toList = arguments.length) : UrlNode scope (.format template arguments)

namespace UrlBuilder

theorem urlNode_of_mem_segmentLengths {scope : List String} {segments : List Segment}
    {term e : Expr} (hscope : Segment.params segments ⊆ scope)
    (hterm : term ∈ segmentLengths segments) (he : e ∈ term.nodes) : UrlNode scope e := by
  obtain ⟨s, hs, -, rfl⟩ := mem_segmentLengths_iff.mp hterm
  cases s with
  | literal text =>
    simp only [Segment.value, Expr.nodes, List.mem_cons, List.not_mem_nil, or_false] at he
    rcases he with rfl | rfl
    · exact .length _
    · exact .literal _
  | param name =>
    simp only [Segment.value, Expr.nodes, List.mem_cons, List.not_mem_nil, or_false] at he
    rcases he with rfl | rfl
    · exact .length _
    · exact .bound (hscope (Segment.mem_params_iff.mpr hs))

theorem urlNode_of_mem_capacityExpr {scope : List String} {segments : List Segment} {e : Expr}
    (hbase : baseParam ∈ scope) (hscope : Segment.params segments ⊆ scope)
    (he : e ∈ (capacityExpr segments).nodes) : UrlNode scope e := by
  rcases Expr.mem_nodes_foldl_sum _ he with ⟨left, right, rfl⟩ | ⟨term, hterm, he⟩
  · exact .sum left right
  rcases List.mem_cons.mp hterm with rfl | hterm
  · simp only [Expr.nodes, List.mem_cons, List.not_mem_nil, or_false] at he
    rcases he with rfl | rfl
    · exact .length _
    · exact .bound hbase
  · exact urlNode_of_mem_segmentLengths hscope hterm he

/-- The pushes of segments refer to the buffer and to parameters. -/
theorem urlNode_of_mem_segmentPushes {scope : List String} (hbuffer : bufferName ∈ scope)
    {tail : List Stmt} {node : List String × Expr} :
    ∀ (segments : List Segment), Segment.params segments ⊆ scope →
      node ∈ Stmt.nodes scope (segmentPushes segments ++ tail) →
      node ∈ Stmt.nodes scope tail ∨ UrlNode node.1 node.2
  | [], _, h => .inl h
  | .literal text :: rest, hscope, h => by
    rw [segmentPushes] at h
    split_ifs at h
    · exact urlNode_of_mem_segmentPushes hbuffer rest hscope h
    rw [List.cons_append, Stmt.nodes, Expr.nodes] at h
    rcases List.mem_cons.mp h with rfl | h
    · exact .inr (.bound hbuffer)
    rcases List.mem_cons.mp h with rfl | h
    · exact .inr (.literal _)
    · exact urlNode_of_mem_segmentPushes hbuffer rest hscope h
  | .param name :: rest, hscope, h => by
    obtain ⟨hname, hrest⟩ := List.cons_subset.mp hscope
    rw [segmentPushes, List.cons_append, Stmt.nodes, Expr.nodes] at h
    rcases List.mem_cons.mp h with rfl | h
    · exact .inr (.bound hbuffer)
    rcases List.mem_cons.mp h with rfl | h
    · exact .inr (.bound hname)
    · exact urlNode_of_mem_segmentPushes hbuffer rest hrest h

variable {path : UrlPath}

theorem urlNode_of_mem_pushBody {scope : List String} (params : List String)
    {segments : List Segment} {node : List String × Expr} (hbase : baseParam ∈ scope)
    (hscope : Segment.params segments ⊆ scope)
    (h : node ∈ Stmt.nodes scope (bodyOf (.push segments params))) : UrlNode node.1 node.2 := by
  rw [bodyOf, List.cons_append, Stmt.nodes, Expr.nodes, List.cons_append, Stmt.nodes,
    Expr.nodes] at h
  rcases List.mem_append.mp h with h | h
  · obtain ⟨e, he, rfl⟩ := List.mem_map.mp h
    rcases List.mem_cons.mp he with rfl | he
    · exact .newBuffer _
    · exact urlNode_of_mem_capacityExpr hbase hscope he
  rcases List.mem_cons.mp h with rfl | h
  · exact .bound List.mem_cons_self
  rcases List.mem_cons.mp h with rfl | h
  · exact .bound (List.mem_cons_of_mem _ hbase)
  rcases urlNode_of_mem_segmentPushes List.mem_cons_self segments
    (fun name hname => List.mem_cons_of_mem _ (hscope hname)) h with h | h
  · simp only [Stmt.nodes, Expr.nodes, List.map_cons, List.map_nil, List.append_nil, List.mem_cons,
      List.not_mem_nil, or_false] at h
    rcases h with rfl | rfl | rfl
    · exact .convert _
    · exact .finishBuffer _
    · exact .bound List.mem_cons_self
  · exact h

theorem urlNode_of_mem_formatBody {scope : List String} {segments : List Segment}
    {node : List String × Expr} (hplain : Segment.PlainLiterals segments)
    (hbase : baseParam ∈ scope) (hscope : Segment.params segments ⊆ scope)
    (h : node ∈ Stmt.nodes scope
      (bodyOf (.format (holeTemplate segments) (Segment.params segments)))) :
    UrlNode node.1 node.2 := by
  have hcount : countHoles (holeTemplate segments).toList =
      ((baseParam :: Segment.params segments).map Expr.variable).length := by
    rw [List.length_map, List.length_cons, ← countHoles_holes hplain, holeTemplate,
      String.toList_append]
    rfl
  rw [bodyOf, ← List.map_cons, Stmt.nodes, Stmt.nodes, Expr.nodes, Expr.nodes,
    Expr.nodesOfAll_variables, List.append_nil] at h
  obtain ⟨e, he, rfl⟩ := List.mem_map.mp h
  rcases List.mem_cons.mp he with rfl | he
  · exact .convert _
  rcases List.mem_cons.mp he with rfl | he
  · exact .format hcount
  obtain ⟨name, hname, rfl⟩ := List.mem_map.mp he
  rcases List.mem_cons.mp hname with rfl | hname
  · exact .bound hbase
  · exact .bound (hscope hname)

/-- The function of a path is made of these expressions, by either strategy. -/
theorem urlNode_of_mem_functionOf (hplain : Segment.PlainLiterals path.segments)
    (strategy : Strategy) (name : String) (typeOf : String → String) (doc : String)
    {node : List String × Expr}
    (h : node ∈ ((ofPath path strategy).functionOf name typeOf doc).nodes) :
    UrlNode node.1 node.2 := by
  rw [Function.nodes, map_name_functionOf] at h
  cases strategy with
  | push =>
    exact urlNode_of_mem_pushBody path.params List.mem_cons_self
      (List.subset_cons_self _ _) h
  | format =>
    exact urlNode_of_mem_formatBody hplain List.mem_cons_self (List.subset_cons_self _ _) h

end UrlBuilder

/-! ## Declarations of an endpoint -/

namespace Request

section OnePath

variable {e : Endpoint} {method : HttpMethod} {tokens : List String} {strategy : Strategy}
  {path : UrlPath}

/-- The url function for one path of an endpoint. -/
def functionFor (e : Endpoint) (method : HttpMethod) (tokens : List String) (strategy : Strategy)
    (path : UrlPath) : Function :=
  let r := forPath e method tokens strategy path
  (UrlBuilder.ofPath path strategy).functionOf r.urlFunction r.typeOfParam r.urlDoc

theorem eq_functionFor_of_urlFunctionDecl {f : Function}
    (h : urlFunctionDecl (forPath e method tokens strategy path) = .ok f) :
    f = functionFor e method tokens strategy path := by
  obtain ⟨_, -, h⟩ := bind_eq_ok.mp h
  cases h
  rfl

theorem map_name_functionFor :
    (functionFor e method tokens strategy path).params.map Param.name =
      baseParam :: path.params := by
  rw [functionFor, UrlBuilder.map_name_functionOf, UrlBuilder.params_ofPath]

theorem typeOfParam_forPath {name : String} (hname : name ∈ path.params) :
    (forPath e method tokens strategy path).typeOfParam name = sharedTypeName name := by
  rw [typeOfParam, pathParams_forPath, List.map_map]
  exact congrArg (Option.getD · "") (Table.find?_map_of_mem sharedTypeName hname)

/-- A url function has the parameters of the constructor for its path, the body apart. -/
theorem params_functionFor :
    (functionFor e method tokens strategy path).params =
      (forPath e method tokens strategy path).urlParams path := by
  rw [functionFor, UrlBuilder.functionOf, UrlBuilder.params_ofPath, urlParams, List.map_cons,
    List.map_map]
  refine congrArg (UrlBuilder.baseParamDecl :: ·) (List.map_congr_left fun name hname => ?_)
  rw [typeOfParam_forPath hname]
  rfl

end OnePath

end Request

/-- An endpoint declares a url function for each of its paths and one record. -/
theorem Endpoint.HasRequests.items_eq {l : Lowered policy} {method : HttpMethod}
    {tokens : List String}
    (h : l.endpoint.HasRequests policy method tokens l.requests l.types) :
    l.items = (l.endpoint.paths.map (Request.functionFor l.endpoint method tokens
        (policy.strategyFor l.endpoint.name))).map Item.function ++
      (Request.recordsOf l.requests).map Item.record := by
  obtain ⟨functions, hfunctions, heq⟩ := Request.items_eq_ok l.items_eq
  rw [h.requests_eq, List.forall₂_map_left_iff] at hfunctions
  rw [heq]
  refine congrArg (List.map Item.function · ++ _) ?_
  rw [← List.forall₂_eq_eq_eq, List.forall₂_map_right_iff]
  exact hfunctions.flip.imp fun _ _ hf => Request.eq_functionFor_of_urlFunctionDecl hf

/-! ## Constructors and conversions -/

namespace Request

section OnePath

variable {e : Endpoint} {method : HttpMethod} {tokens : List String} {strategy : Strategy}
  {path : UrlPath}

/-- The names of the parameters of the constructor for a path. -/
def makerNames (e : Endpoint) (path : UrlPath) : List String :=
  baseParam :: path.params ++ if e.body.isSome then [bodyParam] else []

theorem map_name_makerDecl :
    (forPath e method tokens strategy path).makerDecl.params.map Param.name =
      makerNames e path := by
  rw [params_makerDecl, List.map_append, map_name_urlParams, makerNames, bodyParams, forPath]
  cases e.body <;> rfl

/-- A constructor makes the record of one call and its own parameters. -/
theorem nodes_makerDecl :
    (forPath e method tokens strategy path).makerDecl.nodes =
      (.construct .enclosing (("url", (forPath e method tokens strategy path).urlCall) ::
          (forPath e method tokens strategy path).bodyFields) ::
        (forPath e method tokens strategy path).urlCall ::
        (makerNames e path).map Expr.variable).map (makerNames e path, ·) := by
  have hcall : (forPath e method tokens strategy path).urlCall.nodes =
      (forPath e method tokens strategy path).urlCall ::
        (baseParam :: path.params).map Expr.variable := by
    rw [urlCall_forPath, Expr.nodes, Expr.nodesOfAll_variables]
  have hbody : Expr.nodesOfFields (forPath e method tokens strategy path).bodyFields =
      (if e.body.isSome then [bodyParam] else []).map Expr.variable := by
    rw [bodyFields, forPath]
    cases e.body <;> rfl
  rw [Function.nodes, map_name_makerDecl, makerDecl, Stmt.nodes, Stmt.nodes, List.append_nil,
    Expr.nodes, Expr.nodesOfFields, hcall, makerNames, List.map_append, ← hbody]
  rfl

end OnePath

/-- The conversion of a request refers to no name. -/
theorem nodes_conversionDecl (r : Request) :
    ∃ fields, r.conversionDecl.nodes =
      (Expr.construct (.named requestType false false) fields ::
        Expr.enumMember methodType r.method.name :: Expr.member .receiver "url" :: Expr.receiver ::
        (r.bodyExpr.nodes ++ [Expr.call headersFunction []])).map ([], ·) := by
  rw [Function.nodes, conversionDecl, Stmt.nodes, Stmt.nodes, List.append_nil, Expr.nodes]
  exact ⟨_, rfl⟩

end Request

namespace Endpoint.HasRequests

variable {l : Lowered policy} {method : HttpMethod} {tokens : List String} {path : UrlPath}

/-- Parameters that are not reserved keep clear of the base address. -/
theorem nodup_base_params (h : l.endpoint.HasRequests policy method tokens l.requests l.types)
    (hpath : path ∈ l.endpoint.paths) (hparse : UrlPath.parse path.template = .ok path) :
    (baseParam :: path.params).Nodup :=
  List.nodup_cons.mpr ⟨fun hbase => h.unreserved path hpath _ hbase (by decide),
    UrlPath.nodup_params hparse⟩

theorem nodup_makerNames (h : l.endpoint.HasRequests policy method tokens l.requests l.types)
    (hpath : path ∈ l.endpoint.paths) (hparse : UrlPath.parse path.template = .ok path) :
    (Request.makerNames l.endpoint path).Nodup := by
  refine (h.nodup_base_params hpath hparse).append (by split_ifs <;> simp) ?_
  intro name hname hbody
  have hbody : name = bodyParam := by
    split_ifs at hbody
    · exact List.mem_singleton.mp hbody
    · exact absurd hbody List.not_mem_nil
  subst hbody
  rcases List.mem_cons.mp hname with heq | hname
  · exact absurd heq (by decide)
  · exact h.unreserved path hpath _ hname (by decide)

end Endpoint.HasRequests

end Routewright
