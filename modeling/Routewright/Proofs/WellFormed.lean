import Routewright.Proofs.Nodes

/-!
# Generated code is closed

What generated code refers to is there. `Module.WellFormed` says so of a module : types in
signatures, fields and expressions are declared, calls pass the parameters of a declared function
on, names are bound, records are made with the fields that they have, and templates have a hole for
each argument.

Functions and the types that they refer to come from different passes. `Module.Provides` is what
they have to agree on for one endpoint, and each function of an endpoint is well-formed in every
module that provides it.
-/

namespace Routewright

open Code Outcome

variable {policy : Policy}

/-! ## Well-formed modules -/

namespace Code

/-- The names of the types that a declaration adds. -/
def Item.typeNames : Item → List String
  | .function _ => []
  | .record r => [r.name]
  | .wrapper w => [w.name]
  | .namedText t => [t.name]
  | .prelude => sharedTypeNames

/-- The names of all types of a module. -/
def Module.typeNames (m : Module) : List String :=
  m.items.flatMap Item.typeNames

/-- A function is declared among the requests of a module. -/
def Module.DeclaresRequest (m : Module) (f : Function) : Prop :=
  ∃ group ∈ m.namespaces, group.name = "requests" ∧ .function f ∈ group.items

/-- A type has one of some names, or is the record that encloses it. -/
def TypeRef.Declared (types : List String) (enclosing : Option Record) : TypeRef → Prop
  | .host type _ => type.Declared types
  | .named name _ _ => name ∈ types
  | .enclosing => enclosing.isSome

/-- The arguments of a call are the parameters of the callee, which the caller has under the same
names and with the same types. -/
def Function.Passes (caller callee : Function) (arguments : List Expr) : Prop :=
  arguments = callee.params.map (fun p => Expr.variable p.name) ∧
    ∀ p ∈ callee.params, ∃ q ∈ caller.params, q.name = p.name ∧ q.type = p.type

/-- What an expression of a function refers to is there : the inside of the expression is not looked
at, and `scope` has the names that it may refer to. -/
def Expr.Resolved (m : Module) (enclosing : Option Record) (f : Function) (scope : List String) :
    Expr → Prop
  | .variable name => name ∈ scope
  | .call name arguments =>
    (name = headersFunction ∧ .prelude ∈ m.items ∧ arguments = []) ∨
      ∃ callee, m.DeclaresRequest callee ∧ callee.name = name ∧ f.Passes callee arguments
  | .format template arguments => countHoles template.toList = arguments.length
  | .convert typeName _ => typeName ∈ m.typeNames
  | .construct type fields => type.Declared m.typeNames enclosing ∧
      (type = .enclosing → ∀ r ∈ enclosing, fields.map Prod.fst = r.fields.map Field.name)
  | .enumMember enumeration _ => enumeration ∈ m.typeNames
  | _ => True

/-- What a function refers to is there. -/
structure Function.WellFormed (m : Module) (enclosing : Option Record) (f : Function) : Prop where
  nodup_params : (f.params.map Param.name).Nodup
  params : ∀ p ∈ f.params, p.type.Declared m.typeNames enclosing
  returns : f.returns.Declared m.typeNames enclosing
  body : ∀ node ∈ f.nodes, node.2.Resolved m enclosing f node.1

/-- What the declarations of a module refer to is there. -/
structure Module.WellFormed (m : Module) : Prop where
  functions : ∀ f, .function f ∈ m.items → f.WellFormed m none
  fields : ∀ r, .record r ∈ m.items → ∀ field ∈ r.fields,
    field.type.Declared m.typeNames (some r)
  members : ∀ r, .record r ∈ m.items → ∀ f ∈ r.functions, f.WellFormed m (some r)
  wrappers : ∀ w, .wrapper w ∈ m.items → ∀ host ∈ w.hosts, host.Declared m.typeNames

/-- A module has what the declarations of an endpoint refer to. -/
structure Module.Provides (m : Module) (l : Lowered policy) : Prop where
  shared : sharedTypeNames ⊆ m.typeNames
  types : l.types.names ⊆ m.typeNames
  prelude : .prelude ∈ m.items
  functions : ∀ f, .function f ∈ l.items → m.DeclaresRequest f

end Code

/-! ## Functions of one endpoint -/

section OneEndpoint

variable {m : Module} {l : Lowered policy} {method : HttpMethod} {tokens : List String}
  {path : UrlPath}

theorem UrlNode.resolved {scope : List String} {e : Expr} (h : UrlNode scope e)
    (hshared : sharedTypeNames ⊆ m.typeNames) (enclosing : Option Record) (f : Function) :
    e.Resolved m enclosing f scope := by
  cases h with
  | bound hname => exact hname
  | convert => exact hshared (by decide)
  | format hcount => exact hcount
  | literal | length | sum | newBuffer | finishBuffer => trivial

namespace Endpoint.HasRequests

/-- The parameters that constructors share with url functions have types that are there. -/
theorem declared_urlParams (h : l.endpoint.HasRequests policy method tokens l.requests l.types)
    (hm : m.Provides l) (hpath : path ∈ l.endpoint.paths) (r : Request)
    (enclosing : Option Record) :
    ∀ p ∈ r.urlParams path, p.type.Declared m.typeNames enclosing := by
  intro p hp
  obtain ⟨param, hparam, rfl⟩ := List.mem_map.mp hp
  rcases List.mem_cons.mp hparam with rfl | hparam
  · exact fun hnamed => absurd hnamed (by decide)
  · obtain ⟨name, hname, rfl⟩ := List.mem_map.mp hparam
    exact hm.types (Endpoint.sharedTypeName_mem_names h.sharedTypes_eq hpath hname)

/-- The url function of a parsed path is well-formed. -/
theorem wellFormed_functionFor
    (h : l.endpoint.HasRequests policy method tokens l.requests l.types) (hm : m.Provides l)
    (hpath : path ∈ l.endpoint.paths) (hparse : UrlPath.parse path.template = .ok path) :
    (Request.functionFor l.endpoint method tokens (policy.strategyFor l.endpoint.name)
      path).WellFormed m none where
  nodup_params := by
    rw [Request.map_name_functionFor]
    exact h.nodup_base_params hpath hparse
  params := by
    rw [Request.params_functionFor]
    exact h.declared_urlParams hm hpath _ none
  returns := hm.shared (by decide)
  body _ hnode :=
    (UrlBuilder.urlNode_of_mem_functionOf (UrlPath.plainLiterals hparse) _ _ _ _ hnode).resolved
      hm.shared none _

/-- The call in a constructor passes its parameters on to the url function of its path. -/
theorem resolved_urlCall (h : l.endpoint.HasRequests policy method tokens l.requests l.types)
    (hm : m.Provides l) (hpath : path ∈ l.endpoint.paths) (enclosing : Option Record)
    (scope : List String) :
    (Request.forPath l.endpoint method tokens (policy.strategyFor l.endpoint.name)
        path).urlCall.Resolved m enclosing
      (Request.forPath l.endpoint method tokens (policy.strategyFor l.endpoint.name)
        path).makerDecl scope := by
  set callee := Request.functionFor l.endpoint method tokens
    (policy.strategyFor l.endpoint.name) path
  have hcallee : Item.function callee ∈ l.items := by
    rw [h.items_eq]
    exact List.mem_append_left _ (List.mem_map_of_mem (List.mem_map_of_mem hpath))
  have hnames : callee.params.map Param.name = baseParam :: path.params :=
    Request.map_name_functionFor
  have harguments : (baseParam :: path.params).map Expr.variable =
      callee.params.map fun p => Expr.variable p.name := by
    rw [← hnames, List.map_map]
    rfl
  rw [Request.urlCall_forPath]
  refine .inr ⟨callee, hm.functions callee hcallee, rfl, harguments, fun p hp => ?_⟩
  rw [Request.params_functionFor] at hp
  exact ⟨p, Request.params_makerDecl ▸ List.mem_append_left _ hp, rfl, rfl⟩

/-- The constructor for a path is well-formed in a record with the fields that all requests of the
endpoint have. -/
theorem wellFormed_makerDecl
    (h : l.endpoint.HasRequests policy method tokens l.requests l.types)
    (hparsed : ∀ path ∈ l.endpoint.paths, UrlPath.parse path.template = .ok path)
    (hm : m.Provides l) (hpath : path ∈ l.endpoint.paths) {r : Record}
    (hfields : r.fields.map Field.name =
      "url" :: if l.endpoint.body.isSome then [bodyParam] else []) :
    (Request.forPath l.endpoint method tokens (policy.strategyFor l.endpoint.name)
      path).makerDecl.WellFormed m (some r) where
  nodup_params := by
    rw [Request.map_name_makerDecl]
    exact h.nodup_makerNames hpath (hparsed path hpath)
  params := by
    rw [Request.params_makerDecl, List.forall_mem_append]
    refine ⟨h.declared_urlParams hm hpath _ (some r), fun p hp => ?_⟩
    unfold Request.bodyParams at hp
    split_ifs at hp
    · obtain rfl := List.mem_singleton.mp hp
      exact hm.shared (by decide)
    · exact absurd hp List.not_mem_nil
  returns := rfl
  body := by
    rw [Request.nodes_makerDecl, List.forall_mem_map, List.forall_mem_cons, List.forall_mem_cons,
      List.forall_mem_map]
    refine ⟨⟨rfl, fun _ other hother => ?_⟩, h.resolved_urlCall hm hpath _ _,
      fun name hname => hname⟩
    obtain rfl := Option.mem_some_iff.mp hother
    rw [hfields, List.map_cons, Request.bodyFields, Request.forPath]
    cases l.endpoint.body <;> rfl

end Endpoint.HasRequests

/-- The conversion of a request is well-formed wherever what every module has is there. -/
theorem Request.wellFormed_conversionDecl (r : Request)
    (hshared : sharedTypeNames ⊆ m.typeNames) (hprelude : .prelude ∈ m.items)
    (enclosing : Option Record) : r.conversionDecl.WellFormed m enclosing where
  nodup_params := List.nodup_nil
  params _ hp := absurd hp List.not_mem_nil
  returns := hshared (by decide)
  body := by
    have hbody : ∀ e ∈ r.bodyExpr.nodes, e.Resolved m enclosing r.conversionDecl [] := by
      unfold Request.bodyExpr
      split_ifs <;> simp [Expr.nodes, Expr.Resolved]
    obtain ⟨fields, hnodes⟩ := r.nodes_conversionDecl
    rw [hnodes, List.forall_mem_map]
    simp only [List.forall_mem_cons, List.forall_mem_append]
    exact ⟨⟨hshared (by decide), fun heq => absurd heq (by decide)⟩, hshared (by decide), trivial,
      trivial, hbody, .inl ⟨rfl, hprelude, rfl⟩, fun _ he => absurd he List.not_mem_nil⟩

namespace Endpoint.HasRequests

/-- The functions that an endpoint declares are well-formed. -/
theorem wellFormed_function
    (h : l.endpoint.HasRequests policy method tokens l.requests l.types)
    (hparsed : ∀ path ∈ l.endpoint.paths, UrlPath.parse path.template = .ok path)
    (hm : m.Provides l) {f : Function} (hf : .function f ∈ l.items) : f.WellFormed m none := by
  rw [h.items_eq] at hf
  obtain ⟨path, hpath, rfl⟩ : ∃ path ∈ l.endpoint.paths, Request.functionFor l.endpoint method
      tokens (policy.strategyFor l.endpoint.name) path = f := by simpa using hf
  exact h.wellFormed_functionFor hm hpath (hparsed path hpath)

/-- The record that an endpoint declares has fields of types that are there, and well-formed
functions. -/
theorem wellFormed_record
    (h : l.endpoint.HasRequests policy method tokens l.requests l.types)
    (hparsed : ∀ path ∈ l.endpoint.paths, UrlPath.parse path.template = .ok path)
    (hm : m.Provides l) {r : Record} (hr : .record r ∈ l.items) :
    (∀ field ∈ r.fields, field.type.Declared m.typeNames (some r)) ∧
      ∀ f ∈ r.functions, f.WellFormed m (some r) := by
  rw [h.items_eq] at hr
  obtain ⟨first, hfirst, rfl⟩ := h.mem_recordsOf (by simpa using hr : r ∈ _)
  constructor
  · simp only [Request.recordDecl, Request.bodyTypeRef, List.forall_mem_cons]
    refine ⟨hm.shared (by decide), fun field hfield => ?_⟩
    split_ifs at hfield
    · obtain rfl := List.mem_singleton.mp hfield
      exact hm.shared (by decide)
    · exact absurd hfield List.not_mem_nil
  · intro f hf
    rcases List.mem_append.mp hf with hf | hf
    · obtain ⟨request, hrequest, rfl⟩ := List.mem_map.mp hf
      rw [h.requests_eq] at hrequest
      obtain ⟨path, hpath, rfl⟩ := List.mem_map.mp hrequest
      refine h.wellFormed_makerDecl hparsed hm hpath ?_
      rw [Request.recordDecl, Request.forPath]
      cases l.endpoint.body <;> rfl
    · obtain rfl := List.mem_singleton.mp hf
      exact Request.wellFormed_conversionDecl _ hm.shared hm.prelude _

end Endpoint.HasRequests

end OneEndpoint

/-! ## The whole module -/

theorem SharedTypes.typeNames_items (types : SharedTypes) :
    types.items.flatMap Item.typeNames = sharedTypeNames ++ types.declared := by
  rw [items, List.flatMap_append, List.flatMap_cons, List.flatMap_map, List.flatMap_map,
    declared, Table.keys, List.map_eq_flatMap, List.append_assoc]
  simp only [Item.typeNames, wrapperDecl, ← List.map_eq_flatMap, List.map_id']

namespace Generated.IsMadeOf

variable {g : Generated} {lowered : List (Lowered policy)}

/-- The types of all endpoints, and those that every module has, are among the types. -/
theorem subset_typeNames (h : g.IsMadeOf lowered) :
    sharedTypeNames ++ g.types.names ⊆ g.code.typeNames := by
  rw [Module.typeNames, h.items_eq, List.flatMap_append, SharedTypes.typeNames_items]
  refine List.subset_append_of_subset_right _ fun name hname => ?_
  rw [List.mem_append, SharedTypes.mem_declared]
  exact List.mem_append.mp hname

/-- The module provides what each endpoint refers to. -/
theorem provides (h : g.IsMadeOf lowered) {l : Lowered policy} (hl : l ∈ lowered) :
    g.code.Provides l where
  shared _ hname := h.subset_typeNames (List.mem_append_left _ hname)
  types name hname := by
    refine h.subset_typeNames (List.mem_append_right _ ?_)
    rw [h.types_eq, SharedTypes.mem_names_mergeTypes]
    exact ⟨_, List.mem_map_of_mem hl, hname⟩
  prelude := h.items_eq ▸ List.mem_append_right _ List.mem_cons_self
  functions f hf := by
    rw [h.code_eq]
    exact ⟨_, List.mem_cons_self, rfl, List.mem_flatMap.mpr ⟨l, hl, hf⟩⟩

/-- The host types of all wrappers are there. -/
theorem closed_types (h : g.IsMadeOf lowered) : g.types.Closed := by
  rw [h.types_eq]
  refine SharedTypes.closed_mergeTypes fun t ht => ?_
  obtain ⟨l, -, rfl⟩ := List.mem_map.mp ht
  obtain ⟨method, tokens, hl⟩ := Endpoint.requests_eq_ok l.requests_eq
  exact Endpoint.closed_sharedTypes hl.sharedTypes_eq

theorem declared_host (h : g.IsMadeOf lowered) {w : Wrapper} (hw : .wrapper w ∈ g.code.items)
    {host : HostType} (hhost : host ∈ w.hosts) : host.Declared g.code.typeNames := by
  rw [h.items_eq, List.mem_append] at hw
  rcases hw with hw | hw
  · obtain ⟨l, -, hw⟩ := List.mem_flatMap.mp hw
    obtain ⟨functions, -, hitems⟩ := Request.items_eq_ok l.items_eq
    simp [hitems] at hw
  · obtain ⟨name, hosts, hentry, rfl⟩ : ∃ name hosts, (name, hosts) ∈ g.types.wrappers ∧
        SharedTypes.wrapperDecl name hosts = w := by simpa [SharedTypes.items] using hw
    have hhost : host ∈ g.types.hosts :=
      List.mem_flatMap.mpr ⟨_, hentry, List.mem_of_mem_filter hhost⟩
    exact (h.closed_types host hhost).mono fun _ hname =>
      h.subset_typeNames (List.mem_append_right _ hname)

/-- Functions are those of endpoints. -/
theorem mem_items_of_function (h : g.IsMadeOf lowered) {f : Function}
    (hf : Item.function f ∈ g.code.items) : ∃ l ∈ lowered, Item.function f ∈ l.items := by
  rw [h.items_eq] at hf
  rcases List.mem_append.mp hf with hf | hf
  · exact List.mem_flatMap.mp hf
  · simp [SharedTypes.items] at hf

end Generated.IsMadeOf

/-- Code that is generated from endpoints of distinct names and parsed paths refers to nothing that
is not there : types of parameters, fields and results are declared, as are those that expressions
convert to or make and those that wrappers convert from, each call passes the parameters of a
declared function on under their names, each name is that of a parameter or was bound before, the
record of an endpoint is made with the fields that it has, and each template has a hole for each
argument. -/
theorem generate_wellFormed {endpoints : List Endpoint} {g : Generated}
    (hnodup : (endpoints.map Endpoint.name).Nodup)
    (hparsed : ∀ e ∈ endpoints, ∀ path ∈ e.paths, UrlPath.parse path.template = .ok path)
    (h : generate endpoints policy = .ok g) : g.code.WellFormed := by
  obtain ⟨hnormalized, lowered, hmade⟩ := generate_eq_ok hnodup h
  have hparse : ∀ l ∈ lowered, ∀ path ∈ l.endpoint.paths,
      UrlPath.parse path.template = .ok path := fun l hl =>
    forall_paths_of_normalize hnormalized hparsed l.endpoint
      (hmade.endpoints_eq ▸ List.mem_map_of_mem hl)
  have hrecord : ∀ r, .record r ∈ g.code.items →
      (∀ field ∈ r.fields, field.type.Declared g.code.typeNames (some r)) ∧
        ∀ f ∈ r.functions, f.WellFormed g.code (some r) := by
    intro r hr
    obtain ⟨l, hl, hr⟩ := hmade.mem_items_of_record hr
    obtain ⟨method, tokens, hrequests⟩ := Endpoint.requests_eq_ok l.requests_eq
    exact hrequests.wellFormed_record (hparse l hl) (hmade.provides hl) hr
  refine ⟨fun f hf => ?_, fun r hr => (hrecord r hr).1, fun r hr => (hrecord r hr).2,
    fun w hw host hhost => hmade.declared_host hw hhost⟩
  obtain ⟨l, hl, hf⟩ := hmade.mem_items_of_function hf
  obtain ⟨method, tokens, hrequests⟩ := Endpoint.requests_eq_ok l.requests_eq
  exact hrequests.wellFormed_function (hparse l hl) (hmade.provides hl) hf

/-- A part that is declared with a type of its own has a wrapper that converts from it. -/
theorem generate_wellFormed_named :
    ∃ (get : Endpoint) (g : Generated), ([get].map Endpoint.name).Nodup ∧
      (∀ e ∈ [get], ∀ path ∈ e.paths, UrlPath.parse path.template = .ok path) ∧
      generate [get] {} = .ok g ∧
      g.types =
        { wrappers := [("Index", [⟨.named, some "IndexName"⟩]), ("Time", [⟨.named, some "Time"⟩])],
          named := ["IndexName", "Time"] } ∧
      g.code.WellFormed := by
  let get : Endpoint :=
    { name := "get", methods := [.get],
      paths := [⟨"/{index}/{time}", [.literal "/", .param "index", .literal "/", .param "time"]⟩],
      parts := [("index", ⟨.other, some "index_name"⟩), ("time", ⟨.other, some "time"⟩)] }
  have hnodup : ([get].map Endpoint.name).Nodup := List.nodup_singleton _
  have hparsed : ∀ e ∈ [get], ∀ path ∈ e.paths, UrlPath.parse path.template = .ok path := by
    decide
  obtain ⟨g, hg, htypes⟩ : ∃ g, generate [get] {} = .ok g ∧ g.types =
      { wrappers := [("Index", [⟨.named, some "IndexName"⟩]), ("Time", [⟨.named, some "Time"⟩])],
        named := ["IndexName", "Time"] } := by
    subst get
    exact ⟨_, rfl, rfl⟩
  exact ⟨get, g, hnodup, hparsed, hg, htypes, generate_wellFormed hnodup hparsed hg⟩

end Routewright
