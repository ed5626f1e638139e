import Routewright.Proofs.Names

/-!
# Requests ready for transport

A constructor of generated code, run on a base address, one text for each parameter of its path and
what the endpoint takes as body, makes a record whose conversion gives the request that was meant.
The constructor finds the url function of its path by name among all declarations of the module
(`apply_makerDecl`), and what it keeps of a body is what the conversion hands on
(`BodyPassed.keeps`).
-/

namespace Routewright

open Code Outcome

variable {policy : Policy}

/-! ## Bodies -/

/-- What may be passed to a constructor for the body that an endpoint declares, and the body that is
sent then. An optional body may be withheld or left out. -/
inductive BodyPassed : Option BodySpec → List Datum → Datum → Prop
  | undeclared : BodyPassed none [] .absent
  | required {spec : BodySpec} (h : spec.required = true) (body : Datum) :
    BodyPassed (some spec) [body] (.present body)
  | given {spec : BodySpec} (h : spec.required = false) (body : Datum) :
    BodyPassed (some spec) [.present body] (.present body)
  | withheld {spec : BodySpec} (h : spec.required = false) :
    BodyPassed (some spec) [.absent] .absent
  | omitted {spec : BodySpec} (h : spec.required = false) :
    BodyPassed (some spec) [] .absent

namespace Request

/-- The parameters of a constructor that take a body. -/
def bodyParams (r : Request) : List Param :=
  if r.hasBody then [r.paramDecl ⟨bodyParam, .body, bodyType⟩] else []

/-- What a constructor keeps of a body, beside the url. -/
def bodyFields (r : Request) : List (String × Expr) :=
  if r.hasBody then [(bodyParam, .variable bodyParam)] else []

end Request

/-- How a request keeps what is passed for its body, so that the conversion hands on `body`. -/
structure Request.Keeps (r : Request) (arguments : List Datum) (held : Locals) (body : Datum) :
    Prop where
  bind : bindArguments r.bodyParams arguments = .ok held
  fields : ∀ frame locals, Table.find? bodyParam locals = Table.find? bodyParam held →
    Expr.evalFields frame locals r.bodyFields = .ok held
  convert : ∀ frame locals typeName url,
    frame.receiver = some (.record typeName (("url", url) :: held)) →
    r.bodyExpr.eval frame locals = .ok body

section Keeps

variable {r : Request} {frame : Frame} {locals : Locals}

theorem Request.bind_bodyParams (hhas : r.hasBody = true) (d : Datum) :
    bindArguments r.bodyParams [d] = .ok [(bodyParam, d)] := by
  rw [bodyParams, if_pos hhas]
  rfl

theorem Request.bind_bodyParams_nil (hhas : r.hasBody = true) (hoptional : r.bodyRequired = false) :
    bindArguments r.bodyParams [] = .ok [(bodyParam, .absent)] := by
  have hdefaults : (r.paramDecl ⟨bodyParam, .body, bodyType⟩).defaultsToAbsent = true := by
    rw [paramDecl, hoptional]
    rfl
  rw [bodyParams, if_pos hhas, bindArguments, if_pos hdefaults]
  rfl

theorem Request.eval_bodyFields (hhas : r.hasBody = true) {d : Datum}
    (hd : Table.find? bodyParam locals = some d) :
    Expr.evalFields frame locals r.bodyFields = .ok [(bodyParam, d)] := by
  rw [bodyFields, if_pos hhas, Expr.evalFields, Expr.eval_variable hd]
  rfl

theorem Request.eval_bodyExpr (hhas : r.hasBody = true) {typeName : String} {url d : Datum}
    (hreceiver : frame.receiver = some (.record typeName [("url", url), (bodyParam, d)])) :
    r.bodyExpr.eval frame locals = .ok (if r.bodyRequired then .present d else d) := by
  have hd : Expr.eval frame locals (.member .receiver bodyParam) = .ok d :=
    Expr.eval_member hreceiver rfl
  rw [bodyExpr, hhas]
  cases r.bodyRequired with
  | true =>
    change Expr.eval frame locals (.present (.member .receiver bodyParam)) = .ok (.present d)
    rw [Expr.eval, hd]
    rfl
  | false => exact hd

/-- A declared body is kept as it is passed, and handed on as present if it is required. -/
theorem Request.keeps_declared (hhas : r.hasBody = true) {arguments : List Datum} {d : Datum}
    (hbind : bindArguments r.bodyParams arguments = .ok [(bodyParam, d)]) :
    r.Keeps arguments [(bodyParam, d)] (if r.bodyRequired then .present d else d) where
  bind := hbind
  fields _ _ hfind := eval_bodyFields hhas hfind
  convert _ _ _ _ hreceiver := eval_bodyExpr hhas hreceiver

/-- Whatever may be passed for a body is kept in the same way by all requests of the endpoint. -/
theorem BodyPassed.keeps {spec : Option BodySpec} {arguments : List Datum} {body : Datum}
    (h : BodyPassed spec arguments body) :
    ∃ held : Locals, ∀ r : Request, r.hasBody = spec.isSome →
      r.bodyRequired = (spec.map (·.required)).getD false → r.Keeps arguments held body := by
  cases h with
  | undeclared =>
    refine ⟨[], fun r hhas _ => ⟨?_, fun _ _ _ => ?_, fun _ _ _ _ _ => ?_⟩⟩
    · simp [Request.bodyParams, hhas, bindArguments]
    · simp [Request.bodyFields, hhas, Expr.evalFields]
    · simp [Request.bodyExpr, hhas, Expr.eval]
  | required hrequired d =>
    refine ⟨[(bodyParam, d)], fun r hhas hreq => ?_⟩
    have hkeeps := Request.keeps_declared hhas (Request.bind_bodyParams hhas d)
    rwa [if_pos (hreq.trans hrequired)] at hkeeps
  | given hoptional d =>
    refine ⟨[(bodyParam, .present d)], fun r hhas hreq => ?_⟩
    have hkeeps := Request.keeps_declared hhas (Request.bind_bodyParams hhas (.present d))
    rwa [hreq.trans hoptional] at hkeeps
  | withheld hoptional =>
    refine ⟨[(bodyParam, .absent)], fun r hhas hreq => ?_⟩
    have hkeeps := Request.keeps_declared hhas (Request.bind_bodyParams hhas .absent)
    rwa [hreq.trans hoptional] at hkeeps
  | omitted hoptional =>
    refine ⟨[(bodyParam, .absent)], fun r hhas hreq => ?_⟩
    have hkeeps := Request.keeps_declared hhas
      (Request.bind_bodyParams_nil hhas (hreq.trans hoptional))
    rwa [hreq.trans hoptional] at hkeeps

end Keeps

/-! ## Constructors and conversions -/

namespace Request

section OnePath

variable {e : Endpoint} {method : HttpMethod} {tokens : List String} {strategy : Strategy}
  {path : UrlPath} {frame : Frame}

/-- The parameters of the constructor for a path, before the one that takes a body. -/
def urlParams (r : Request) (path : UrlPath) : List Param :=
  (⟨baseParam, .base, "text"⟩ ::
    path.params.map fun name => ⟨name, .path, sharedTypeName name⟩).map r.paramDecl

theorem map_name_urlParams (r : Request) :
    (r.urlParams path).map Param.name = baseParam :: path.params := by
  simp [urlParams, paramDecl, Function.comp_def]

theorem params_makerDecl :
    (forPath e method tokens strategy path).makerDecl.params =
      (forPath e method tokens strategy path).urlParams path ++
        (forPath e method tokens strategy path).bodyParams := by
  rw [makerDecl, forPath, paramsFor, List.map_append, urlParams, bodyParams]
  cases e.body <;> rfl

theorem urlCall_forPath :
    (forPath e method tokens strategy path).urlCall =
      .call (urlFunctionName tokens path.params)
        ((baseParam :: path.params).map Expr.variable) := by
  cases hbody : e.body <;>
    simp [urlCall, forPath, paramsFor, hbody, List.filter_map, Function.comp_def]

/-- A constructor calls the url function of its path on its own arguments, and keeps the url. -/
theorem apply_makerDecl (hnodup : path.params.Nodup)
    (hfree : ∀ name ∈ path.params, name ∉ reservedParams) {start url : Datum}
    {parts arguments : List Datum} (hlen : path.params.length = parts.length) {held : Locals}
    {body : Datum} (hkeeps : (forPath e method tokens strategy path).Keeps arguments held body)
    {record : String} (henclosing : frame.enclosing = some record)
    (hcall : frame.call (urlFunctionName tokens path.params) (start :: parts) = .ok url) :
    (forPath e method tokens strategy path).makerDecl.apply frame
        (start :: parts ++ arguments) =
      .ok (.record record (("url", url) :: held)) := by
  set r := forPath e method tokens strategy path
  have hnames : (baseParam :: path.params).Nodup :=
    List.nodup_cons.mpr ⟨fun h => hfree _ h (by decide), hnodup⟩
  have hbodyFree : bodyParam ∉ baseParam :: path.params :=
    List.not_mem_cons_of_ne_of_not_mem (by decide) fun h => hfree _ h (by decide)
  have hcount : (baseParam :: path.params).length = (start :: parts).length := by
    rw [List.length_cons, List.length_cons, hlen]
  have hbind : bindArguments r.makerDecl.params (start :: parts ++ arguments) =
      .ok ((baseParam :: path.params).zip (start :: parts) ++ held) := by
    rw [params_makerDecl, bindArguments_append _ _ (by simp [urlParams, hlen]), hkeeps.bind,
      map_name_urlParams]
    rfl
  set locals : Locals := (baseParam :: path.params).zip (start :: parts) ++ held
  have hurl : r.urlCall.eval frame locals = .ok url := by
    rw [urlCall_forPath, Expr.eval,
      Expr.evalAll_variables frame (Table.map_find?_zip held hnames hcount)]
    exact hcall
  have hbody : Expr.evalFields frame locals r.bodyFields = .ok held :=
    hkeeps.fields frame locals (Table.find?_zip_append held _ hbodyFree)
  have htype : frame.recordName .enclosing = .ok record := by rw [Frame.recordName, henclosing]
  rw [Function.apply, hbind, ok_bind, makerDecl, Stmt.run]
  exact Expr.eval_construct htype (Expr.evalFields_cons hurl hbody)

/-- The conversion of a record gives the request that the record holds. -/
theorem apply_conversionDecl {r : Request} {record : String} {url body : Datum} {held : Locals}
    {arguments : List Datum} (hkeeps : r.Keeps arguments held body)
    (hreceiver : frame.receiver = some (.record record (("url", url) :: held)))
    (hheaders : frame.call headersFunction [] = .ok defaultHeaders) :
    r.conversionDecl.apply frame [] = .ok (.record requestType
      [("method", .member methodType r.method.name), ("url", url), ("body", body),
        ("headers", defaultHeaders)]) := by
  have hmethod : Expr.eval frame [] (.enumMember methodType r.method.name) =
      .ok (.member methodType r.method.name) := by rw [Expr.eval]
  have hurl : Expr.eval frame [] (.member .receiver "url") = .ok url :=
    Expr.eval_member hreceiver (if_pos rfl)
  have hbody := hkeeps.convert frame [] record url hreceiver
  have hcall : Expr.eval frame [] (.call headersFunction []) = .ok defaultHeaders := by
    rw [Expr.eval, Expr.evalAll, ok_bind, hheaders]
  rw [Function.apply, conversionDecl, bindArguments, ok_bind, Stmt.run]
  exact Expr.eval_construct rfl (Expr.evalFields_cons hmethod (Expr.evalFields_cons hurl
    (Expr.evalFields_cons hbody (Expr.evalFields_cons hcall rfl))))

end OnePath

end Request

/-! ## Names in the module -/

namespace Endpoint.HasRequests

variable {l : Lowered policy} {method : HttpMethod} {tokens : List String} {m : Module}
  {unit : TextUnit} {path : UrlPath}

/-- A call of the name of a url function runs the function of the path it is named after. -/
theorem call_urlFunction (h : l.endpoint.HasRequests policy method tokens l.requests l.types)
    (hnames : m.names.Nodup) (hitems : l.items ⊆ m.items) (hpath : path ∈ l.endpoint.paths)
    (hparse : UrlPath.parse path.template = .ok path) (depth : Nat) {start : Datum}
    {base : String} {parts : List Datum} {values : List String}
    (hbase : start.text? = some base) (hparts : parts.map Datum.text? = values.map some)
    (hlen : values.length = path.params.length) :
    m.call unit (depth + 1) (urlFunctionName tokens path.params) (start :: parts) =
      .ok (.wrapped urlType (base ++ filledTemplate path.template values)) := by
  set r := Request.forPath l.endpoint method tokens (policy.strategyFor l.endpoint.name) path
  have hr : r ∈ l.requests := h.requests_eq ▸ List.mem_map.mpr ⟨path, hpath, rfl⟩
  obtain ⟨functions, hfunctions, heq⟩ := Request.items_eq_ok l.items_eq
  obtain ⟨f, hf, hdecl⟩ := exists_of_mem_left hfunctions hr
  have hmem : Item.function f ∈ m.items :=
    hitems (heq ▸ List.mem_append_left _ (List.mem_map.mpr ⟨f, hf, rfl⟩))
  have hname : f.name = urlFunctionName tokens path.params :=
    Request.name_of_urlFunctionDecl hdecl
  rw [← hname, Module.call_of_mem hnames hmem]
  have hfunction := UrlBuilder.toFunction_ofPath (UrlPath.plainLiterals hparse)
    (policy.strategyFor l.endpoint.name) r.urlFunction r.typeOfParam r.urlDoc
  obtain rfl : f = _ := Except.ok.inj (hdecl.symm.trans hfunction)
  exact UrlBuilder.apply_functionOf hparse (h.unreserved path hpath) _ _ _ _ _ hbase hparts hlen

/-- An endpoint with a path declares a record, whose conversion is that of its first path. -/
theorem exists_record (h : l.endpoint.HasRequests policy method tokens l.requests l.types)
    (hpath : path ∈ l.endpoint.paths) :
    ∃ first, Item.record (Request.recordDecl (Request.forPath l.endpoint method tokens
      (policy.strategyFor l.endpoint.name) first) l.requests) ∈ l.items := by
  obtain ⟨functions, -, heq⟩ := Request.items_eq_ok l.items_eq
  cases hpaths : l.endpoint.paths with
  | nil => exact absurd (hpaths ▸ hpath) List.not_mem_nil
  | cons first rest =>
    have hhead : l.requests.head? = some (Request.forPath l.endpoint method tokens
        (policy.strategyFor l.endpoint.name) first) := by
      rw [h.requests_eq, hpaths]
      rfl
    refine ⟨first, heq ▸ List.mem_append_right _ (List.mem_map_of_mem ?_)⟩
    rw [Request.recordsOf, hhead]
    exact List.mem_singleton_self _

/-- The members of the record are the constructors of all paths and the conversion of one. -/
theorem memberOf_record (h : l.endpoint.HasRequests policy method tokens l.requests l.types)
    (hnames : m.names.Nodup) (hitems : l.items ⊆ m.items) (hpath : path ∈ l.endpoint.paths) :
    m.memberOf (requestTypeName tokens) (makerName path.params) .maker =
      .ok (Request.forPath l.endpoint method tokens
        (policy.strategyFor l.endpoint.name) path).makerDecl ∧
    ∃ first, m.memberOf (requestTypeName tokens) "into_http_request" .method =
      .ok (Request.forPath l.endpoint method tokens
        (policy.strategyFor l.endpoint.name) first).conversionDecl := by
  obtain ⟨first, hrecord⟩ := h.exists_record hpath
  have hmember := fun (f : Function) =>
    Module.memberOf_of_mem hnames (hitems hrecord) (l.nodup_functions hrecord).1 (f := f)
  have hr : Request.forPath l.endpoint method tokens (policy.strategyFor l.endpoint.name) path ∈
      l.requests := h.requests_eq ▸ List.mem_map.mpr ⟨path, hpath, rfl⟩
  refine ⟨?_, first, hmember _ (List.mem_append_right _ (List.mem_singleton_self _))⟩
  rw [← Request.maker_forPath]
  exact hmember _ (List.mem_append_left _ (List.mem_map_of_mem hr))

end Endpoint.HasRequests

/-! ## From a constructor to the request -/

/-- In code that is generated from endpoints of distinct names and parsed paths, the constructor for
a path makes a record that is converted into the request that was meant : with the only method of
the endpoint, the base address followed by the template with its holes filled from left to right,
the body that was passed, and the headers that every request has. -/
theorem generate_requests_carried {endpoints : List Endpoint} {g : Generated}
    (hnodup : (endpoints.map Endpoint.name).Nodup)
    (hparsed : ∀ e ∈ endpoints, ∀ path ∈ e.paths, UrlPath.parse path.template = .ok path)
    (h : generate endpoints policy = .ok g) {e : Endpoint} (he : e ∈ g.endpoints)
    {path : UrlPath} (hpath : path ∈ e.paths) (unit : TextUnit) (depth : Nat) (base : String)
    {parts : List Datum} {values : List String} (hparts : parts.map Datum.text? = values.map some)
    (hlen : values.length = path.params.length) {arguments : List Datum} {body : Datum}
    (hbody : BodyPassed e.body arguments body) :
    ∃ method tokens made, e.methods = [method] ∧ modulePath e.name = .ok tokens ∧
      g.code.construct unit (depth + 1) (requestTypeName tokens) (makerName path.params)
        (.text base :: parts ++ arguments) = .ok made ∧
      g.code.invoke unit (depth + 1) made "into_http_request" [] = .ok (.record requestType
        [("method", .member methodType method.name),
          ("url", .wrapped urlType (base ++ filledTemplate path.template values)),
          ("body", body), ("headers", defaultHeaders)]) := by
  obtain ⟨hnormalized, lowered, hmade⟩ := generate_eq_ok hnodup h
  obtain ⟨declared, hdeclared, hdeclaredPath⟩ := mem_paths_of_normalize hnormalized he hpath
  have hparse := hparsed declared hdeclared path hdeclaredPath
  rw [hmade.endpoints_eq] at he
  obtain ⟨l, hl, rfl⟩ := List.mem_map.mp he
  obtain ⟨method, tokens, hrequests⟩ := Endpoint.requests_eq_ok l.requests_eq
  have hnames := hmade.nodup_names
  have hitems : l.items ⊆ g.code.items := fun i hi =>
    hmade.items_eq ▸ List.mem_append_left _ (List.mem_flatMap.mpr ⟨l, hl, hi⟩)
  have hprelude : Item.prelude ∈ g.code.items :=
    hmade.items_eq ▸ List.mem_append_right _ List.mem_cons_self
  have hcount : parts.length = path.params.length := (Datum.length_eq hparts).trans hlen
  obtain ⟨held, hkeeps⟩ := hbody.keeps
  obtain ⟨hmaker, first, hconversion⟩ := hrequests.memberOf_record hnames hitems hpath
  set url : Datum := .wrapped urlType (base ++ filledTemplate path.template values)
  have hcall : g.code.call unit (depth + 1) (urlFunctionName tokens path.params)
      (.text base :: parts) = .ok url :=
    hrequests.call_urlFunction hnames hitems hpath hparse depth rfl hparts hlen
  refine ⟨method, tokens, .record (requestTypeName tokens) (("url", url) :: held),
    hrequests.methods_eq, hrequests.modulePath_eq, ?_, ?_⟩
  · rw [Module.construct, hmaker, ok_bind]
    exact Request.apply_makerDecl (UrlPath.nodup_params hparse) (hrequests.unreserved path hpath)
      hcount.symm (hkeeps _ rfl rfl) rfl hcall
  · rw [Module.invoke, hconversion, ok_bind]
    exact Request.apply_conversionDecl (hkeeps _ rfl rfl) rfl
      (Module.call_headersFunction hnames hprelude)

/-- A document is put under an index. -/
theorem generate_requests_carried_put :
    ∃ (put : Endpoint) (path : UrlPath) (g : Generated) (made : Datum),
      ([put].map Endpoint.name).Nodup ∧
      (∀ e ∈ [put], ∀ path ∈ e.paths, UrlPath.parse path.template = .ok path) ∧
      generate [put] {} = .ok g ∧ put ∈ g.endpoints ∧ path ∈ put.paths ∧
      BodyPassed put.body [.text "{}"] (.present (.text "{}")) ∧
      g.code.construct .bytes 1 "DocPutRequest" "for_index_id"
        [.text "h", .wrapped "Index" "ü", .text "1", .text "{}"] = .ok made ∧
      g.code.invoke .bytes 1 made "into_http_request" [] = .ok (.record requestType
        [("method", .member methodType "PUT"), ("url", .wrapped urlType "h/ü/_doc/1"),
          ("body", .present (.text "{}")), ("headers", defaultHeaders)]) := by
  let path : UrlPath :=
    ⟨"/{index}/_doc/{id}", [.literal "/", .param "index", .literal "/_doc/", .param "id"]⟩
  let put : Endpoint :=
    { name := "doc.put", methods := [.put], paths := [path], body := some { required := true } }
  have hnodup : ([put].map Endpoint.name).Nodup := List.nodup_singleton _
  have hparsed : ∀ e ∈ [put], ∀ path ∈ e.paths, UrlPath.parse path.template = .ok path := by
    decide
  obtain ⟨g, hg, hput⟩ : ∃ g, generate [put] {} = .ok g ∧ put ∈ g.endpoints := by
    subst put path
    exact ⟨_, rfl, List.mem_cons_self⟩
  have hpath : path ∈ put.paths := List.mem_cons_self
  have hparts : [Datum.wrapped "Index" "ü", .text "1"].map Datum.text? = ["ü", "1"].map some := rfl
  have hbody : BodyPassed put.body [.text "{}"] (.present (.text "{}")) :=
    .required rfl _
  obtain ⟨method, tokens, made, hmethod, htokens, hmade, hconverted⟩ :=
    generate_requests_carried hnodup hparsed hg hput hpath .bytes 0 "h" hparts rfl hbody
  obtain rfl : HttpMethod.put = method := (List.cons.inj hmethod).1
  obtain rfl : ["doc", "put"] = tokens := Except.ok.inj (htokens.symm.trans (by decide)).symm
  have hurl : "h" ++ filledTemplate path.template ["ü", "1"] = "h/ü/_doc/1" := by decide
  rw [hurl] at hconverted
  exact ⟨put, path, g, made, hnodup, hparsed, hg, hput, hpath, hbody, hmade, hconverted⟩

end Routewright
