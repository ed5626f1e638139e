import Routewright.Proofs.Nodes
import Routewright.Proofs.TameFile
import Routewright.Proofs.TemplateForm

/-!
# Text of endpoints stays inside

Every name in a tree that is generated from parsed paths is put together from identifiers and from
words of letters and digits, so that the tree is tame, whatever documentation says and whatever
stands between the parameters of a path (`Endpoint.HasRequests.tame_items`,
`SharedTypes.Closed.tame_items`). Its source text can then be read by the lexical rules of either
target (`generate_text_contained`).
-/

namespace Routewright

open Code Target

variable {policy : Policy}

/-! ## Names -/

theorem inert_of_isIdentifier {name : String} (h : isIdentifier name.toList = true) :
    Inert name := by
  intro c hc
  rcases (of_isIdentifier h).2 c hc with hc | rfl
  · exact isInert_of_isNameChar hc
  · decide

theorem inert_of_isAlphanum {name : String} (h : ∀ c ∈ name.toList, c.isAlphanum) : Inert name :=
  fun c hc => isInert_of_isAlphanum (h c hc)

section Shapes

variable {shape : List String}

theorem inert_urlFunctionName {tokens : List String} (htokens : ∀ token ∈ tokens, Inert token)
    (h : ∀ name ∈ shape, Inert name) : Inert (urlFunctionName tokens shape) := by
  have hword : Inert "_url" := by decide
  exact (forall_mem_urlFunctionName hword).mpr ⟨htokens, h⟩

theorem inert_makerName (h : ∀ name ∈ shape, Inert name) : Inert (makerName shape) := by
  have hfor : Inert "for_" := by decide
  have hunderscore : Inert "_" := by decide
  unfold makerName
  split_ifs
  · decide
  · rw [Inert, String.toList_append]
    exact List.forall_mem_append.mpr ⟨hfor, (Text.forall_mem_join hunderscore).mpr h⟩

end Shapes

/-- The parameters of a parsed path are identifiers. -/
theorem UrlPath.isIdentifier_of_mem_params {template : String} {path : UrlPath}
    (h : UrlPath.parse template = .ok path) :
    ∀ name ∈ path.params, isIdentifier name.toList = true := by
  obtain ⟨-, pieces, hreads, hsegments⟩ := reads_of_parse h
  unfold UrlPath.params
  rw [hsegments]
  split_ifs
  · exact fun name hname => absurd hname List.not_mem_nil
  · exact hreads.identifiers

/-- Methods are named in letters, also where Rust changes their case. -/
theorem HttpMethod.inert_name (m : HttpMethod) :
    Inert m.name ∧ Inert (String.ofList (Text.capitalize m.name.toList)) := by
  have hall : ∀ m ∈ HttpMethod.all,
      Inert m.name ∧ Inert (String.ofList (Text.capitalize m.name.toList)) := by decide +kernel
  exact hall m (by cases m <;> decide)

/-! ## Url functions -/

namespace Code

theorem Expr.allTame_variables :
    ∀ {names : List String}, (∀ name ∈ names, Inert name) →
      Expr.AllTame (names.map Expr.variable)
  | [], _ => trivial
  | _ :: _, h =>
    have ⟨hname, hnames⟩ := List.forall_mem_cons.mp h
    ⟨hname, Expr.allTame_variables hnames⟩

/-- A sum of tame expressions is tame. -/
theorem Expr.tame_foldl_sum :
    ∀ (terms : List Expr) {start : Expr}, start.Tame → (∀ e ∈ terms, e.Tame) →
      (terms.foldl Expr.sum start).Tame
  | [], _, hstart, _ => hstart
  | term :: terms, start, hstart, h => by
    obtain ⟨hterm, hterms⟩ := List.forall_mem_cons.mp h
    have hsum : (Expr.sum start term).Tame := ⟨hstart, hterm⟩
    exact Expr.tame_foldl_sum terms hsum hterms

end Code

namespace UrlBuilder

section Segments

variable {segments : List Segment} (h : ∀ name ∈ Segment.params segments, Inert name)

include h

theorem tame_value {s : Segment} (hs : s ∈ segments) (hne : s ≠ .literal "") : s.value.Tame := by
  cases s with
  | literal text => exact fun heq => hne (congrArg Segment.literal heq)
  | param name => exact h name (Segment.mem_params_iff.mpr hs)

theorem tame_of_mem_segmentLengths {e : Expr} (he : e ∈ segmentLengths segments) : e.Tame := by
  obtain ⟨s, hs, hne, rfl⟩ := mem_segmentLengths_iff.mp he
  exact tame_value h hs hne

theorem tame_of_mem_segmentPushes {pushed : Stmt} (hpushed : pushed ∈ segmentPushes segments) :
    pushed.Tame := by
  have hbuffer : Inert bufferName := by decide
  obtain ⟨s, hs, hne, rfl⟩ := mem_segmentPushes_iff.mp hpushed
  exact ⟨hbuffer, tame_value h hs hne⟩

end Segments

/-- What a path becomes is tame, by either strategy and whatever its literals are. -/
theorem tame_bodyOf {path : UrlPath} (h : ∀ name ∈ path.params, Inert name) (strategy : Strategy) :
    ∀ s ∈ (ofPath path strategy).bodyOf, s.Tame := by
  have hbuffer : Inert bufferName := by decide
  have hbase : Inert baseParam := by decide
  have hurl : Inert urlType := by decide
  cases strategy with
  | format =>
    have htemplate : holeTemplate path.segments ≠ "" := by
      intro heq
      have hchars := congrArg String.toList heq
      rw [holeTemplate, String.toList_append] at hchars
      cases hchars
    exact List.forall_mem_singleton.mpr
      ⟨hurl, htemplate, Expr.allTame_variables (List.forall_mem_cons.mpr ⟨hbase, h⟩)⟩
  | push =>
    have hcapacity : (capacityExpr path.segments).Tame :=
      Expr.tame_foldl_sum _ hbase fun e he => tame_of_mem_segmentLengths h he
    refine List.forall_mem_append.mpr ⟨?_, List.forall_mem_singleton.mpr ⟨hurl, hbuffer⟩⟩
    exact List.forall_mem_cons.mpr ⟨⟨hbuffer, hcapacity⟩, List.forall_mem_cons.mpr
      ⟨⟨hbuffer, hbase⟩, fun s hs => tame_of_mem_segmentPushes h hs⟩⟩

end UrlBuilder

/-! ## Declarations of an endpoint -/

namespace Request

section OnePath

variable {e : Endpoint} {method : HttpMethod} {tokens : List String} {strategy : Strategy}
  {path : UrlPath}

theorem tame_urlParams (r : Request) (h : ∀ name ∈ path.params, Inert name) :
    ∀ p ∈ r.urlParams path, p.Tame := by
  have hbase : Inert baseParam := by decide
  refine List.forall_mem_map.mpr (List.forall_mem_cons.mpr ⟨?_, List.forall_mem_map.mpr ?_⟩)
  · exact ⟨hbase, fun hkind => absurd hkind (by decide)⟩
  · exact fun name hname => ⟨h name hname, inert_of_isAlphanum isAlphanum_of_mem_sharedTypeName⟩

/-- The url function of a path is tame if the tokens and the parameters are. -/
theorem tame_functionFor (htokens : ∀ token ∈ tokens, Inert token)
    (h : ∀ name ∈ path.params, Inert name) :
    (functionFor e method tokens strategy path).Tame where
  name := inert_urlFunctionName htokens h
  params := params_functionFor ▸ tame_urlParams _ h
  returns := (by decide : Inert urlType)
  body := UrlBuilder.tame_bodyOf h strategy

theorem tame_bodyTypeRef (r : Request) : r.bodyTypeRef.Tame :=
  (by decide : Inert bodyType)

/-- The constructor for a path is tame if the tokens and the parameters are. -/
theorem tame_makerDecl (htokens : ∀ token ∈ tokens, Inert token)
    (h : ∀ name ∈ path.params, Inert name) :
    (forPath e method tokens strategy path).makerDecl.Tame where
  name := by
    rw [makerDecl, maker_forPath]
    exact inert_makerName h
  params := by
    have hbody : Inert bodyParam := by decide
    rw [params_makerDecl]
    refine List.forall_mem_append.mpr ⟨tame_urlParams _ h, fun p hp => ?_⟩
    unfold bodyParams at hp
    split_ifs at hp
    · rw [List.mem_singleton.mp hp]
      exact ⟨hbody, tame_bodyTypeRef _⟩
    · exact absurd hp List.not_mem_nil
  returns := trivial
  body := by
    have hurl : Inert "url" := by decide
    have hbase : Inert baseParam := by decide
    have hbody : Inert bodyParam := by decide
    have hname : Inert (urlFunctionName tokens path.params) := inert_urlFunctionName htokens h
    have hcall : (forPath e method tokens strategy path).urlCall.Tame := by
      rw [urlCall_forPath]
      exact ⟨hname, Expr.allTame_variables (List.forall_mem_cons.mpr ⟨hbase, h⟩)⟩
    refine List.forall_mem_singleton.mpr ⟨trivial, hurl, hcall, ?_⟩
    split_ifs
    · exact ⟨hbody, hbody, trivial⟩
    · trivial

end OnePath

theorem tame_bodyExpr (r : Request) : r.bodyExpr.Tame := by
  have hbody : Inert bodyParam := by decide
  unfold bodyExpr
  split_ifs
  · trivial
  · exact ⟨trivial, hbody⟩
  · exact ⟨trivial, hbody⟩

/-- The conversion of a request is tame. -/
theorem tame_conversionDecl (r : Request) : r.conversionDecl.Tame where
  name := (by decide : Inert "into_http_request")
  params _ hp := absurd hp List.not_mem_nil
  returns := (by decide : Inert requestType)
  body := by
    have htype : Inert requestType := by decide
    have hmethods : Inert methodType := by decide
    have hmethod := r.method.inert_name
    have hfields : Inert "method" ∧ Inert "url" ∧ Inert "body" ∧ Inert "headers" := by decide
    have hheaders : Inert "default_headers" := by decide
    obtain ⟨hmethodField, hurl, hbody, hheadersField⟩ := hfields
    exact List.forall_mem_singleton.mpr ⟨htype, hmethodField, ⟨hmethods, hmethod⟩,
      hurl, ⟨trivial, hurl⟩, hbody, r.tame_bodyExpr, hheadersField, ⟨hheaders, trivial⟩, trivial⟩

end Request

namespace Endpoint.HasRequests

variable {l : Lowered policy} {method : HttpMethod} {tokens : List String}

theorem inert_tokens (h : l.endpoint.HasRequests policy method tokens l.requests l.types) :
    ∀ token ∈ tokens, Inert token :=
  fun token htoken => inert_of_isIdentifier ((modulePath_eq_ok h.modulePath_eq).1 token htoken)

/-- The record of an endpoint is tame if the parameters of its paths are. -/
theorem tame_record (h : l.endpoint.HasRequests policy method tokens l.requests l.types)
    (hparams : ∀ path ∈ l.endpoint.paths, ∀ name ∈ path.params, Inert name) {r : Record}
    (hr : r ∈ Request.recordsOf l.requests) : r.Tame := by
  have hfields : Inert "url" ∧ Inert urlType ∧ Inert bodyParam := by decide
  obtain ⟨hurl, hurlType, hbody⟩ := hfields
  obtain ⟨first, -, rfl⟩ := h.mem_recordsOf hr
  refine ⟨inert_of_isAlphanum isAlphanum_of_mem_requestTypeName, ?_, ?_⟩
  · refine List.forall_mem_cons.mpr ⟨⟨hurl, hurlType⟩, fun f hf => ?_⟩
    split_ifs at hf
    · rw [List.mem_singleton.mp hf]
      exact ⟨hbody, Request.tame_bodyTypeRef _⟩
    · exact absurd hf List.not_mem_nil
  · refine List.forall_mem_append.mpr ⟨?_, List.forall_mem_singleton.mpr
      (Request.tame_conversionDecl _)⟩
    rw [h.requests_eq, List.map_map]
    exact List.forall_mem_map.mpr fun path hpath =>
      Request.tame_makerDecl h.inert_tokens (hparams path hpath)

/-- The declarations of an endpoint are tame if the parameters of its paths are. -/
theorem tame_items (h : l.endpoint.HasRequests policy method tokens l.requests l.types)
    (hparams : ∀ path ∈ l.endpoint.paths, ∀ name ∈ path.params, Inert name) :
    ∀ i ∈ l.items, i.Tame ∧ i ≠ .prelude := by
  rw [h.items_eq, List.forall_mem_append, List.forall_mem_map, List.forall_mem_map,
    List.forall_mem_map]
  exact ⟨fun path hpath => ⟨Request.tame_functionFor h.inert_tokens (hparams path hpath), nofun⟩,
    fun r hr => ⟨h.tame_record hparams hr, nofun⟩⟩

end Endpoint.HasRequests

/-! ## Shared types -/

/-- The declarations of types that are closed and have words for names, what every file holds
apart. -/
theorem SharedTypes.Closed.tame_items {types : SharedTypes} (h : types.Closed)
    (hnames : ∀ name ∈ types.names, NameText name) :
    ∃ rest, types.items = .prelude :: rest ∧ ∀ i ∈ rest, i.Tame ∧ i.textType?.isSome := by
  have hhost : ∀ host ∈ types.hosts, host.kind = .named → NameText (host.name.getD "") := by
    intro host hhost hkind
    obtain ⟨name, hname, heq⟩ := h host hhost hkind
    rw [heq]
    exact hnames name hname
  refine ⟨_, List.cons_append, List.forall_mem_append.mpr
    ⟨List.forall_mem_map.mpr fun w hw => ⟨⟨?_, fun host hmem => ?_, rfl⟩, rfl⟩,
      List.forall_mem_map.mpr fun name hname => ⟨⟨?_, rfl⟩, rfl⟩⟩⟩
  · exact hnames _ (SharedTypes.mem_names.mpr (.inl (List.mem_map_of_mem hw)))
  · exact hhost host (List.mem_flatMap.mpr ⟨w, hw, (List.mem_filter.mp hmem).1⟩)
  · exact hnames _ (SharedTypes.mem_names.mpr (.inr (List.mem_filter.mp hname).1))

/-- The types of all endpoints are closed. -/
theorem closed_of_subset_typeTable {lowered : List (Lowered policy)}
    {types : List (String × SharedTypes)} (h : types ⊆ Lowered.typeTable lowered) :
    (mergeTypes types).Closed := by
  refine SharedTypes.closed_mergeTypes fun t ht => ?_
  obtain ⟨l, -, rfl⟩ := List.mem_map.mp (h ht)
  obtain ⟨method, tokens, hrequests⟩ := Endpoint.requests_eq_ok l.requests_eq
  exact Endpoint.closed_sharedTypes hrequests.sharedTypes_eq

/-! ## All declarations -/

/-- The literals of every file that are written over several lines. -/
def Target.longLiterals : Target → List String
  | .python => [Python.bufferDoc]
  | .rust => []

/-- What is generated from endpoints with parsed paths, whatever is written in their documentation
and between the parameters of their paths, is source text that can be read by the lexical rules of
either target : every literal and every comment ends, brackets outside of them are closed in turn,
and no literal goes on over the end of a line but the one that every Python file holds. -/
theorem generate_text_contained {endpoints : List Endpoint} {g : Generated}
    (hparsed : ∀ e ∈ endpoints, ∀ path ∈ e.paths, UrlPath.parse path.template = .ok path)
    (h : generate endpoints policy = .ok g) (target : Target) (marked : Bool) :
    ∃ literals, target.literals? (target.source g.code marked) = some literals ∧
      literals.filter spansLines = target.longLiterals := by
  obtain ⟨hnormalized, lowered, hendpoints, hcode, types, hsubset, htypes⟩ := items_of_generate h
  have hpaths := forall_paths_of_normalize hnormalized hparsed
  have hitems : ∀ i ∈ lowered.flatMap Lowered.items, i.Tame ∧ i ≠ .prelude := by
    refine List.forall_mem_flatMap.mpr fun l hl => ?_
    obtain ⟨method, tokens, hrequests⟩ := Endpoint.requests_eq_ok l.requests_eq
    have hmem : l.endpoint ∈ g.endpoints := hendpoints ▸ List.mem_map_of_mem hl
    exact hrequests.tame_items fun path hpath name hname => inert_of_isIdentifier
      (UrlPath.isIdentifier_of_mem_params (hpaths _ hmem path hpath) name hname)
  have hnames : ∀ name ∈ g.types.names, NameText name := fun name hname =>
    (isWord_iff.mp (isWord_of_mem_types hsubset (htypes ▸ hname))).2
  have hclosed : g.types.Closed := htypes ▸ closed_of_subset_typeTable hsubset
  obtain ⟨rest, hrest, htame⟩ := hclosed.tame_items hnames
  rw [hcode, assemble, hrest]
  refine Reads.literals?_eq ?_
  cases target with
  | python =>
    have hname : spansLines "requests" = false := rfl
    exact Python.reads_module hitems hname htame marked
  | rust =>
    have hrequests : Inert "requests" := by decide
    have hparams : Inert "params" := by decide
    have hprelude : Item.prelude.Tame := trivial
    refine Rust.reads_module (List.cons_ne_nil _ _) (List.forall_mem_cons.mpr
      ⟨⟨hrequests, List.forall_mem_singleton.mpr hparams, fun i hi => (hitems i hi).1⟩,
        List.forall_mem_singleton.mpr ⟨hparams, fun _ huse => absurd huse List.not_mem_nil,
          List.forall_mem_cons.mpr ⟨hprelude, fun i hi => (htame i hi).1⟩⟩⟩) marked

/-- Quotes, backslashes, line ends, brackets and marks of comments in documentation and a path. -/
theorem generate_text_contained_quotes :
    ∃ (get : Endpoint) (g : Generated),
      (∀ e ∈ [get], ∀ path ∈ e.paths, UrlPath.parse path.template = .ok path) ∧
      generate [get] {} = .ok g ∧
      get.documentation = "\"\"\" */ /* // # ([\x7b \\\r\nend\\" ∧
      get.paths.map UrlPath.template = ["/\"(#\\\r\n\x7bindex\x7d]//'\\"] ∧
      ∀ (target : Target) (marked : Bool),
        ∃ literals, target.literals? (target.source g.code marked) = some literals ∧
          literals.filter spansLines = target.longLiterals := by
  let path : UrlPath := ⟨"/\"(#\\\r\n\x7bindex\x7d]//'\\",
    [.literal "/\"(#\\\r\n", .param "index", .literal "]//'\\"]⟩
  let get : Endpoint :=
    { name := "doc.get", methods := [.get], paths := [path]
      documentation := "\"\"\" */ /* // # ([\x7b \\\r\nend\\" }
  have hparsed : ∀ e ∈ [get], ∀ path ∈ e.paths, UrlPath.parse path.template = .ok path := by
    decide
  obtain ⟨g, hg⟩ : ∃ g, generate [get] {} = .ok g := by
    subst get path
    exact ⟨_, rfl⟩
  exact ⟨get, g, hparsed, hg, rfl, rfl, generate_text_contained hparsed hg⟩

end Routewright
