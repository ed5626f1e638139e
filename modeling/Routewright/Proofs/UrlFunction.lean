import Routewright.Proofs.Evaluation
import Routewright.Proofs.Request
import Routewright.Request.Lowering

/-!
# Url functions when they run

The body of a url function measures the url first and puts it together afterwards. Both walks over
the segments leave out the same empty literals, so the sum that the buffer is made with is the size
of what is pushed (`eval_segmentLengths`, `run_segmentPushes`), whatever unit texts are measured in.
A body that formats gives the same url.
-/

namespace Routewright

open Code

namespace UrlBuilder

variable {frame : Frame} {locals : Locals}

theorem size_literal (unit : TextUnit) (text : String) (chars : List Char) :
    unit.size (String.ofList (text.toList ++ chars)) =
      unit.size text + unit.size (String.ofList chars) := by
  rw [String.ofList_append, String.ofList_toList, unit.size_append]

/-- The lengths of segments add up to the size of the segments, filled. -/
theorem eval_segmentLengths :
    ∀ (segments : List Segment) {values : List String} {start : Expr} {n : Nat},
      start.eval frame locals = .ok (.number n) →
      (Segment.params segments).map locals.text? = values.map some →
      ((segmentLengths segments).foldl Expr.sum start).eval frame locals =
        .ok (.number ((n + frame.unit.size
          (String.ofList (Segment.filled segments values)) : Nat) : Int))
  | [], _, _, n, hstart, _ => by
    simpa [segmentLengths, Segment.filled] using hstart
  | .literal text :: rest, values, start, n, hstart, hvalues => by
    rw [segmentLengths, Segment.filled, size_literal, ← Nat.add_assoc]
    split_ifs with hempty
    · rw [String.isEmpty_iff.mp hempty, TextUnit.size_empty, Nat.add_zero]
      exact eval_segmentLengths rest hstart hvalues
    · have hlit : Expr.eval frame locals (.length (.literal (.text text))) =
          .ok (.number (frame.unit.size text)) := Expr.eval_length rfl rfl
      exact eval_segmentLengths rest (Expr.eval_sum hstart hlit) hvalues
  | .param _ :: rest, [], _, _, _, hvalues => absurd hvalues (List.cons_ne_nil _ _)
  | .param name :: rest, v :: values, start, n, hstart, hvalues => by
    obtain ⟨hv, hvalues⟩ := List.cons_eq_cons.mp hvalues
    obtain ⟨d, hd, hs⟩ := Expr.eval_text frame hv
    rw [segmentLengths, Segment.filled, size_literal, ← Nat.add_assoc]
    exact eval_segmentLengths rest (Expr.eval_sum hstart (Expr.eval_length hd hs)) hvalues

/-- With room for the segments, filled, the pushes put them into the buffer. -/
theorem run_segmentPushes (tail : List Stmt) {capacity : Int} :
    ∀ (segments : List Segment) {locals : Locals} {values : List String} {content : String},
      bufferName ∉ Segment.params segments →
      Table.find? bufferName locals = some (.buffer capacity content) →
      (Segment.params segments).map locals.text? = values.map some →
      ((frame.unit.size content + frame.unit.size
        (String.ofList (Segment.filled segments values)) : Nat) : Int) ≤ capacity →
      ∃ after, Table.find? bufferName after = some (.buffer capacity
          (content ++ String.ofList (Segment.filled segments values))) ∧
        Stmt.run frame locals (segmentPushes segments ++ tail) = Stmt.run frame after tail
  | [], locals, _, content, _, hbuffer, _, _ => by
    refine ⟨locals, ?_, rfl⟩
    rw [hbuffer, Segment.filled, String.ofList_nil, String.append_empty]
  | .literal text :: rest, locals, values, content, hfree, hbuffer, hvalues, hroom => by
    rw [Segment.filled, size_literal, ← Nat.add_assoc] at hroom
    rw [segmentPushes, Segment.filled, String.ofList_append, String.ofList_toList]
    split_ifs with hempty
    · rw [String.isEmpty_iff.mp hempty, String.empty_append]
      rw [String.isEmpty_iff.mp hempty, TextUnit.size_empty, Nat.add_zero] at hroom
      exact run_segmentPushes tail rest hfree hbuffer hvalues hroom
    · rw [List.cons_append, Stmt.run_push hbuffer rfl rfl (by omega), ← String.append_assoc]
      exact run_segmentPushes tail rest hfree (if_pos rfl)
        ((Locals.map_text?_cons hfree _).trans hvalues) (by rwa [TextUnit.size_append])
  | .param _ :: rest, _, [], _, _, _, hvalues, _ => absurd hvalues (List.cons_ne_nil _ _)
  | .param name :: rest, locals, v :: values, content, hfree, hbuffer, hvalues, hroom => by
    obtain ⟨-, hfree⟩ := not_or.mp (mt List.mem_cons.mpr hfree)
    obtain ⟨hv, hvalues⟩ := List.cons_eq_cons.mp hvalues
    obtain ⟨d, hd, hs⟩ := Expr.eval_text frame hv
    rw [Segment.filled, List.headD_cons, List.tail_cons, size_literal, ← Nat.add_assoc] at hroom
    rw [segmentPushes, Segment.filled, List.headD_cons, List.tail_cons, String.ofList_append,
      String.ofList_toList, List.cons_append, Stmt.run_push hbuffer hd hs (by omega),
      ← String.append_assoc]
    exact run_segmentPushes tail rest hfree (if_pos rfl)
      ((Locals.map_text?_cons hfree _).trans hvalues) (by rwa [TextUnit.size_append])

/-- A body that pushes makes a buffer of the size of the url, and fills it. -/
theorem run_pushBody {segments : List Segment} (params : List String) {base : String}
    {values : List String} (hfree : bufferName ∉ Segment.params segments)
    (hbase : locals.text? baseParam = some base)
    (hvalues : (Segment.params segments).map locals.text? = values.map some) :
    Stmt.run frame locals (bodyOf (.push segments params)) =
      .ok (.wrapped urlType (base ++ String.ofList (Segment.filled segments values))) := by
  obtain ⟨d, hd, hs⟩ := Expr.eval_text frame hbase
  have hcapacity := eval_segmentLengths segments (Expr.eval_length hd hs) hvalues
  rw [← frame.unit.size_append, ← capacityExpr] at hcapacity
  set url := base ++ String.ofList (Segment.filled segments values) with hurl
  -- the buffer hides neither the base address nor a parameter
  set held : Locals := (bufferName, .buffer (frame.unit.size url) "") :: locals
  have hbaseHeld : held.text? baseParam = some base := by
    rwa [Locals.text?_cons_of_ne (by decide)]
  have hheld : Table.find? bufferName held = some (.buffer (frame.unit.size url) "") := if_pos rfl
  obtain ⟨b, hb, hbs⟩ := Expr.eval_text frame hbaseHeld
  set filling : Locals := (bufferName, .buffer (frame.unit.size url) ("" ++ base)) :: held
  have hfilling : Table.find? bufferName filling =
      some (.buffer (frame.unit.size url) ("" ++ base)) := if_pos rfl
  have hvaluesFilling : (Segment.params segments).map filling.text? = values.map some := by
    rw [Locals.map_text?_cons hfree, Locals.map_text?_cons hfree, hvalues]
  have hsize : frame.unit.size url = frame.unit.size base +
      frame.unit.size (String.ofList (Segment.filled segments values)) :=
    frame.unit.size_append _ _
  obtain ⟨after, hafter, hpushes⟩ :=
    run_segmentPushes [.result (.convert urlType (.finishBuffer (.variable bufferName)))] segments
      hfree hfilling hvaluesFilling
      (Int.ofNat_le.mpr (Nat.le_of_eq (by rw [String.empty_append, hsize])))
  rw [String.empty_append, ← hurl] at hafter
  rw [bodyOf, List.cons_append, Stmt.run_bind (Expr.eval_newBuffer hcapacity), List.cons_append,
    Stmt.run_push hheld hb hbs (by rw [TextUnit.size_empty]; omega), hpushes, Stmt.run]
  exact Expr.eval_convert (Expr.eval_finishBuffer hafter rfl) rfl

/-- A body that formats fills the hole template. -/
theorem run_formatBody {segments : List Segment} {base : String} {values : List String}
    (hplain : Segment.PlainLiterals segments) (hbase : locals.text? baseParam = some base)
    (hvalues : (Segment.params segments).map locals.text? = values.map some) :
    Stmt.run frame locals (bodyOf (.format (holeTemplate segments) (Segment.params segments))) =
      .ok (.wrapped urlType (base ++ String.ofList (Segment.filled segments values))) := by
  have hnames : (baseParam :: Segment.params segments).map locals.text? =
      (base :: values).map some := by rw [List.map_cons, hbase, hvalues, List.map_cons]
  obtain ⟨data, hdata, htexts⟩ := Expr.evalAll_texts frame hnames
  have hlen : (Segment.params segments).length = values.length := by
    simpa using congrArg List.length hvalues
  have hformat := Formatting.format_holeTemplate hplain base values
  rw [if_pos (Nat.le_of_eq hlen)] at hformat
  rw [List.map_cons] at hdata
  rw [bodyOf, Stmt.run, Expr.eval, Expr.eval, hdata, Outcome.ok_bind,
    Datum.mapM_asText htexts, Outcome.ok_bind, hformat]
  rfl

/-! ## Functions -/

/-- The function that a builder gives if it binds one parameter for each hole. -/
def functionOf (builder : UrlBuilder) (name : String) (typeOf : String → String) (doc : String) :
    Function where
  name
  params := baseParamDecl
    :: builder.params.map fun p => { name := p, type := .named (typeOf p) true false }
  returns := .named urlType false false
  body := builder.bodyOf
  doc

theorem map_name_functionOf (builder : UrlBuilder) (name : String) (typeOf : String → String)
    (doc : String) :
    (builder.functionOf name typeOf doc).params.map Param.name = baseParam :: builder.params := by
  simp [functionOf, baseParamDecl, Function.comp_def]

theorem countHoles_plain :
    ∀ (text rest : List Char), (∀ c ∈ text, IsPlain c) →
      countHoles (text ++ rest) = countHoles rest
  | [], _, _ => rfl
  | c :: text, rest, h => by
    have hc := (h c List.mem_cons_self).1
    rw [List.cons_append, countHoles.eq_2 _ _ fun _ heq => absurd heq hc,
      countHoles_plain text rest fun d hd => h d (List.mem_cons_of_mem _ hd)]

/-- Without braces in literals, the holes of a template are the parameters. -/
theorem countHoles_holes :
    ∀ {segments : List Segment}, Segment.PlainLiterals segments →
      countHoles (Segment.holes segments).toList = (Segment.params segments).length
  | [], _ => rfl
  | .literal text :: rest, h => by
    rw [Segment.holes, String.toList_append, countHoles_plain _ _ (h text List.mem_cons_self),
      countHoles_holes h.tail, Segment.params]
  | .param _ :: rest, h => by
    rw [Segment.holes, String.toList_append, Segment.params, List.length_cons,
      ← countHoles_holes h.tail]
    rfl

variable {path : UrlPath}

/-- The builder for a parsed path becomes a function. -/
theorem toFunction_ofPath (hplain : Segment.PlainLiterals path.segments) (strategy : Strategy)
    (name : String) (typeOf : String → String) (doc : String) :
    (ofPath path strategy).toFunction name typeOf doc =
      .ok ((ofPath path strategy).functionOf name typeOf doc) := by
  have hvalid : (ofPath path strategy).validate = .ok () := by
    cases strategy with
    | push => simp [ofPath, validate, UrlPath.params]
    | format =>
      have hcount : countHoles (holeTemplate path.segments).toList =
          (Segment.params path.segments).length + 1 := by
        rw [holeTemplate, String.toList_append, ← countHoles_holes hplain]
        rfl
      simp [ofPath, validate, UrlPath.params, hcount]
  rw [toFunction, hvalid]
  rfl

/-- The function of a parsed path, whose parameters keep clear of the names it uses itself, gives
the base address and the template with its holes filled from left to right. -/
theorem apply_functionOf (hpath : UrlPath.parse path.template = .ok path)
    (hfree : ∀ name ∈ path.params, name ∉ reservedParams) (strategy : Strategy) (name : String)
    (typeOf : String → String) (doc : String) (frame : Frame) {start : Datum} {base : String}
    {parts : List Datum} {values : List String} (hbase : start.text? = some base)
    (hparts : parts.map Datum.text? = values.map some)
    (hlen : values.length = path.params.length) :
    ((ofPath path strategy).functionOf name typeOf doc).apply frame (start :: parts) =
      .ok (.wrapped urlType (base ++ filledTemplate path.template values)) := by
  have hcount : parts.length = path.params.length := (Datum.length_eq hparts).trans hlen
  have hbind : bindArguments (functionOf (ofPath path strategy) name typeOf doc).params
      (start :: parts) = .ok ((baseParam, start) :: path.params.zip parts) := by
    rw [bindArguments_zip (by simp [functionOf, hcount]), map_name_functionOf, params_ofPath,
      List.zip_cons_cons]
  set locals : Locals := (baseParam, start) :: path.params.zip parts
  have hstart : locals.text? baseParam = some base := by
    rw [Locals.text?, Table.find?, if_pos rfl]
    exact hbase
  have hbaseFree : baseParam ∉ path.params := fun h => hfree _ h (by decide)
  have hvalues : path.params.map locals.text? = values.map some := by
    rw [Locals.map_text?_cons hbaseFree,
      Locals.map_text?_zip (UrlPath.nodup_params hpath) hcount.symm hparts]
  rw [Function.apply, hbind, Outcome.ok_bind, UrlPath.fillFrom_template hpath]
  cases strategy with
  | push => exact run_pushBody path.params (fun h => hfree _ h (by decide)) hstart hvalues
  | format => exact run_formatBody (UrlPath.plainLiterals hpath) hstart hvalues

end UrlBuilder

/-! ## Pushing into a buffer of exact size -/

/-- The url function of a request that pushes, run on a base address and one text for each
parameter, never fails and gives the url that its builder renders. Its buffer has a fixed capacity,
so it is filled exactly, in whichever unit the frame measures texts. -/
theorem Request.push_fills_buffer {e : Endpoint} {policy : Policy} {requests : List Request}
    {types : SharedTypes} (hparsed : ∀ path ∈ e.paths, UrlPath.parse path.template = .ok path)
    (he : e.requests policy = .ok (requests, types)) {r : Request} (hr : r ∈ requests)
    {segments : List Segment} {params : List String}
    (hpush : r.urlBuilder = .push segments params)
    (name : String) (typeOf : String → String) (doc : String) (frame : Frame) (base : String)
    {parts : List Datum} {values : List String}
    (hparts : parts.map Datum.text? = values.map some) (hlen : values.length = r.shape.length) :
    ∃ f url, r.urlBuilder.toFunction name typeOf doc = .ok f ∧
      r.urlBuilder.render base values = .ok url ∧
      f.apply frame (.text base :: parts) = .ok (.wrapped urlType url) := by
  obtain ⟨method, tokens, hrequests⟩ := Endpoint.requests_eq_ok he
  rw [hrequests.requests_eq] at hr
  obtain ⟨path, hmem, rfl⟩ := List.mem_map.mp hr
  rw [Request.shape_forPath] at hlen
  have hpath := hparsed path hmem
  -- the builder is the one that pushes
  have hbuilder : (Request.forPath e method tokens (policy.strategyFor e.name) path).urlBuilder =
      .ofPath path .push := by
    cases hstrategy : policy.strategyFor e.name with
    | push => rfl
    | format =>
      rw [hstrategy] at hpush
      cases hpush
  rw [hbuilder]
  refine ⟨_, _, UrlBuilder.toFunction_ofPath (UrlPath.plainLiterals hpath) .push name typeOf doc,
    ?_, UrlBuilder.apply_functionOf hpath (hrequests.unreserved path hmem) .push name typeOf doc
      frame rfl hparts hlen⟩
  have hrender := (UrlBuilder.render_push hpath (UrlPath.nodup_params hpath) rfl base values).1
    (Nat.le_of_eq hlen.symm)
  rwa [UrlPath.params, Segment.rename_params] at hrender

/-- The buffer of an url with letters outside ASCII is filled exactly when it is measured in
bytes. -/
theorem Request.push_fills_buffer_bytes :
    ∃ (e : Endpoint) (requests : List Request) (types : SharedTypes) (r : Request)
      (segments : List Segment) (f : Function) (url : String),
      (∀ path ∈ e.paths, UrlPath.parse path.template = .ok path) ∧
      e.requests {} = .ok (requests, types) ∧ r ∈ requests ∧
      r.urlBuilder = .push segments ["index"] ∧ r.shape.length = 1 ∧
      r.urlBuilder.toFunction "search_url_index" (fun _ => "Index") "" = .ok f ∧
      r.urlBuilder.render "h" ["ü"] = .ok url ∧
      f.apply { unit := .bytes, call := fun name _ => .error (.unknown name) }
        [.text "h", .wrapped "Index" "ü"] = .ok (.wrapped urlType url) := by
  let path : UrlPath := ⟨"/{index}/_é", [.literal "/", .param "index", .literal "/_é"]⟩
  let e : Endpoint := { name := "search", methods := [.get], paths := [path] }
  let r := Request.forPath e .get ["search"] .push path
  have hparsed : ∀ path ∈ e.paths, UrlPath.parse path.template = .ok path := by decide
  have hrequests : e.requests {} = .ok ([r], { wrappers := [("Index", [HostType.plain])] }) := by
    decide
  have hr : r ∈ [r] := List.mem_cons_self
  have hpush : r.urlBuilder = .push path.segments ["index"] := rfl
  have hparts : [Datum.wrapped "Index" "ü"].map Datum.text? = ["ü"].map some := rfl
  obtain ⟨f, url, hf, hurl, hfilled⟩ := push_fills_buffer hparsed hrequests hr hpush
    "search_url_index" (fun _ => "Index") ""
    { unit := .bytes, call := fun name _ => .error (.unknown name) } "h" hparts rfl
  exact ⟨e, [r], _, r, path.segments, f, url, hparsed, hrequests, hr, hpush, rfl, hf, hurl,
    hfilled⟩

end Routewright
