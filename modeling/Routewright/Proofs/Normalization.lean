import Routewright.Proofs.Outcome
import Routewright.Proofs.Shapes

/-!
# Normalized endpoints

Once the rules have been applied each endpoint is settled by itself : a method is chosen, and the
paths of one shape collapse (`normalize_eq_ok_iff`). A rule derives an endpoint only under a name
that is new, and nothing else that normalization does renames an endpoint, so endpoints of distinct
names stay distinct (`nodup_of_normalize`). All their paths are those of declared endpoints
(`mem_paths_of_normalize`). What is settled does not change any more (`normalForm_exact`).
-/

namespace Routewright

open Outcome

namespace DerivedRule

variable {rule : DerivedRule} {endpoints all : List Endpoint}

theorem of_last?_eq_some {name : String} {e : Endpoint}
    (h : Endpoint.last? (fun e => e.name = name) endpoints = some e) :
    e ∈ endpoints ∧ e.name = name := by
  rw [Endpoint.last?] at h
  exact ⟨List.mem_reverse.mp (List.mem_of_find?_eq_some h), by simpa using List.find?_some h⟩

/-- A rule clones an endpoint that has the name of its source, under a name that is new. -/
theorem apply_eq_ok_iff {derived : Endpoint} :
    rule.apply endpoints = .ok derived ↔ rule.target ∉ endpoints.map Endpoint.name ∧
      ∃ source, Endpoint.last? (fun e => e.name = rule.source) endpoints = some source ∧
        derived = rule.clone source := by
  have hany : (endpoints.any fun e => e.name = rule.target) = true ↔
      rule.target ∈ endpoints.map Endpoint.name := by
    rw [List.any_eq_true, List.mem_map]
    simp only [decide_eq_true_eq]
  unfold apply
  split_ifs with htaken
  · exact iff_of_false nofun fun h => h.1 (hany.mp htaken)
  · rw [and_iff_right (mt hany.mpr htaken)]
    cases Endpoint.last? (fun e => e.name = rule.source) endpoints with
    | none => exact iff_of_false nofun fun ⟨_, h, _⟩ => nomatch h
    | some source => simp [eq_comm]

/-- Derived endpoints are distinct from all others. -/
theorem nodup_applyAll :
    ∀ {rules : List DerivedRule} {endpoints : List Endpoint},
      applyAll endpoints rules = .ok all → (endpoints.map Endpoint.name).Nodup →
      (all.map Endpoint.name).Nodup
  | [], _, h, hnodup => by
    cases h
    exact hnodup
  | rule :: rules, endpoints, h, hnodup => by
    obtain ⟨derived, hderived, h⟩ := bind_eq_ok.mp h
    obtain ⟨hnew, source, -, rfl⟩ := apply_eq_ok_iff.mp hderived
    refine nodup_applyAll h ?_
    rw [List.map_append]
    exact hnodup.append (List.nodup_singleton _) (List.disjoint_singleton.mpr hnew)

/-- A derived endpoint is another one but for its name, its methods and its body. -/
theorem exists_source_applyAll {e : Endpoint} :
    ∀ {rules : List DerivedRule} {endpoints : List Endpoint},
      applyAll endpoints rules = .ok all → e ∈ all →
      ∃ declared ∈ endpoints, ∃ name methods body, e = { declared with name, methods, body }
  | [], _, h, he => by
    cases h
    exact ⟨e, he, _, _, _, rfl⟩
  | rule :: rules, endpoints, h, he => by
    obtain ⟨derived, hderived, h⟩ := bind_eq_ok.mp h
    obtain ⟨-, source, hsource, rfl⟩ := apply_eq_ok_iff.mp hderived
    obtain ⟨e', he', name, methods, body, rfl⟩ := exists_source_applyAll h he
    rcases List.mem_append.mp he' with he' | he'
    · exact ⟨e', he', name, methods, body, rfl⟩
    · obtain rfl := List.mem_singleton.mp he'
      exact ⟨source, (of_last?_eq_some hsource).1, name, methods, body, rfl⟩

/-- The paths of derived endpoints are paths of endpoints. -/
theorem mem_paths_applyAll {rules : List DerivedRule} {path : UrlPath} {e : Endpoint}
    (hpath : path ∈ e.paths) (h : applyAll endpoints rules = .ok all) (he : e ∈ all) :
    ∃ declared ∈ endpoints, path ∈ declared.paths := by
  obtain ⟨declared, hdeclared, name, methods, body, rfl⟩ := exists_source_applyAll h he
  exact ⟨declared, hdeclared, hpath⟩

/-! A change of endpoints that keeps their names, and that a rule carries over to the clone, may be
made before rules are applied or after. -/

section Change

variable {change : Endpoint → Endpoint}

/-- A rule finds the same endpoint after a change as before. -/
theorem apply_map (hname : ∀ e, (change e).name = e.name)
    (hclone : ∀ rule e, clone rule (change e) = change (clone rule e)) (rule : DerivedRule)
    (endpoints : List Endpoint) :
    rule.apply (endpoints.map change) = (rule.apply endpoints).map change := by
  have hlast : Endpoint.last? (fun e => e.name = rule.source) (endpoints.map change) =
      (Endpoint.last? (fun e => e.name = rule.source) endpoints).map change := by
    rw [Endpoint.last?, Endpoint.last?, ← List.map_reverse, List.find?_map]
    simp only [Function.comp_def, hname]
  have hany : (endpoints.map change).any (fun e => e.name = rule.target) =
      endpoints.any fun e => e.name = rule.target := by
    rw [List.any_map]
    simp only [Function.comp_def, hname]
  unfold apply
  rw [hany, hlast]
  split_ifs
  · rfl
  · cases Endpoint.last? (fun e => e.name = rule.source) endpoints with
    | none => rfl
    | some e => exact congrArg Except.ok (hclone rule e)

/-- Rules derive the same after a change as before. -/
theorem applyAll_map (hname : ∀ e, (change e).name = e.name)
    (hclone : ∀ rule e, clone rule (change e) = change (clone rule e)) :
    ∀ (rules : List DerivedRule) (endpoints : List Endpoint),
      applyAll (endpoints.map change) rules = (applyAll endpoints rules).map (List.map change)
  | [], _ => rfl
  | rule :: rules, endpoints => by
    unfold applyAll
    rw [apply_map hname hclone]
    cases rule.apply endpoints with
    | error fault => rfl
    | ok derived =>
      have ih := applyAll_map hname hclone rules (endpoints ++ [derived])
      rw [List.map_append] at ih
      exact ih

end Change

end DerivedRule

theorem HttpMethod.choose_eq_none_iff {methods : List HttpMethod}
    {order : Option (List HttpMethod)} : choose methods order = none ↔ methods = [] := by
  unfold choose
  split
  · exact iff_of_true rfl rfl
  · exact iff_of_false nofun nofun
  · refine iff_of_false ?_ nofun
    split_ifs
    · exact nofun
    · split <;> exact nofun

namespace Endpoint

variable {e : Endpoint} {order : Option (List HttpMethod)}

/-- A method is chosen if there is one. -/
theorem selectMethod_eq_error {error : GenerationError} (h : e.selectMethod order = .error error) :
    e.methods = [] ∧ error = { endpoint := some e.identity, fault := .noMethod } := by
  unfold selectMethod at h
  split at h
  · next hnone =>
    cases h
    exact ⟨HttpMethod.choose_eq_none_iff.mp hnone, rfl⟩
  · cases h

/-- An endpoint as it is once it is normalized : with the method that is chosen, if there is one,
and one path for each shape. -/
def settled (order : Option (List HttpMethod)) (e : Endpoint) : Endpoint :=
  collapsePaths { e with methods := (HttpMethod.choose e.methods order).toList }

theorem selectMethod_eq_ok_iff {chosen : Endpoint} :
    e.selectMethod order = .ok chosen ↔ e.methods ≠ [] ∧
      chosen = { e with methods := (HttpMethod.choose e.methods order).toList } := by
  have hnone : HttpMethod.choose e.methods order = none ↔ e.methods = [] :=
    HttpMethod.choose_eq_none_iff
  rw [selectMethod, Ne, ← hnone]
  cases HttpMethod.choose e.methods order with
  | none => simp
  | some m => simp [eq_comm]

theorem settled_methods (h : e.methods ≠ []) (order : Option (List HttpMethod)) :
    ∃ m, (e.settled order).methods = [m] := by
  obtain ⟨m, hm⟩ := Option.ne_none_iff_exists'.mp (mt HttpMethod.choose_eq_none_iff.mp h)
  refine ⟨m, ?_⟩
  rw [settled, hm]
  rfl

/-- An endpoint that is normalized stays the same, whichever method an order ranks first. -/
theorem settled_settled (h : e.methods ≠ []) (again : Option (List HttpMethod)) :
    (e.settled order).settled again = e.settled order := by
  obtain ⟨m, hmethods⟩ := settled_methods h order
  have hsame : { e.settled order with
      methods := (HttpMethod.choose (e.settled order).methods again).toList } =
      e.settled order := by
    rw [hmethods]
    dsimp only [HttpMethod.choose, Option.toList]
    rw [← hmethods]
  rw [settled, hsame]
  exact collapsePaths_of_increasing (increasing_shapes_collapsePaths _)

end Endpoint

section Normalize

variable {endpoints normalized : List Endpoint} {policy : Policy}

/-- Endpoints normalize if the rules can be applied and each endpoint has a method, and they do so
one by one. -/
theorem normalize_eq_ok_iff :
    normalize endpoints policy = .ok normalized ↔
      ∃ all, DerivedRule.applyAll endpoints policy.derived = .ok all ∧
        (∀ e ∈ all, e.methods ≠ []) ∧ normalized = all.map (Endpoint.settled policy.verbOrder) := by
  have hone (e e' : Endpoint) :
      ((e.selectMethod policy.verbOrder).map Endpoint.collapsePaths).mapError
        GenerationFailure.generation = .ok e' ↔
      e.methods ≠ [] ∧ e.settled policy.verbOrder = e' := by
    rw [mapError_eq_ok, map_eq_ok]
    simp only [Endpoint.selectMethod_eq_ok_iff, and_assoc, exists_and_left, exists_eq_left]
    rfl
  rw [normalize, bind_eq_ok]
  refine exists_congr fun all => ?_
  rw [mapError_eq_ok, mapM_eq_ok]
  simp only [hone]
  rw [List.forall₂_and_left, ← List.forall₂_map_left_iff (f := Endpoint.settled policy.verbOrder),
    List.forall₂_eq_eq_eq]
  exact and_congr_right' (and_congr_right' eq_comm)

/-- Endpoints that normalize have methods. -/
theorem methods_ne_nil_of_normalize (h : normalize endpoints policy = .ok normalized)
    {all : List Endpoint} (hall : DerivedRule.applyAll endpoints policy.derived = .ok all) :
    ∀ e ∈ all, e.methods ≠ [] := by
  obtain ⟨_, hsame, hmethods, -⟩ := normalize_eq_ok_iff.mp h
  obtain rfl := Except.ok.inj (hall.symm.trans hsame)
  exact hmethods

/-- Endpoints fail to normalize because of a rule, or of one that has no method. -/
theorem normalize_eq_error {failure : GenerationFailure}
    (h : normalize endpoints policy = .error failure) :
    (∃ fault, DerivedRule.applyAll endpoints policy.derived = .error fault ∧
        failure = .derivation fault) ∨
      ∃ all, DerivedRule.applyAll endpoints policy.derived = .ok all ∧ ∃ e ∈ all,
        e.methods = [] ∧
        failure = .generation { endpoint := some e.identity, fault := .noMethod } := by
  rcases bind_eq_error.mp h with hrules | ⟨all, hall, h⟩
  · obtain ⟨fault, hfault, rfl⟩ := mapError_eq_error.mp hrules
    exact .inl ⟨fault, hfault, rfl⟩
  · obtain ⟨e, he, hfailure⟩ := exists_of_mapM_eq_error h
    obtain ⟨error, herror, rfl⟩ := mapError_eq_error.mp hfailure
    rcases hselected : e.selectMethod policy.verbOrder with error' | chosen
    · rw [hselected] at herror
      cases herror
      obtain ⟨hnone, rfl⟩ := Endpoint.selectMethod_eq_error hselected
      exact .inr ⟨all, mapError_eq_ok.mp hall, e, he, hnone, rfl⟩
    · rw [hselected] at herror
      cases herror

/-- Normalization renames no endpoint. -/
theorem map_name_of_normalize (h : normalize endpoints policy = .ok normalized) :
    ∃ all, DerivedRule.applyAll endpoints policy.derived = .ok all ∧
      all.map Endpoint.name = normalized.map Endpoint.name := by
  obtain ⟨all, hall, -, rfl⟩ := normalize_eq_ok_iff.mp h
  refine ⟨all, hall, ?_⟩
  rw [List.map_map]
  rfl

/-- Endpoints of distinct names have distinct names once normalized. -/
theorem nodup_of_normalize (h : normalize endpoints policy = .ok normalized)
    (hnodup : (endpoints.map Endpoint.name).Nodup) : (normalized.map Endpoint.name).Nodup := by
  obtain ⟨all, hall, hnames⟩ := map_name_of_normalize h
  exact hnames ▸ DerivedRule.nodup_applyAll hall hnodup

/-- The paths that survive normalization are paths of declared endpoints. -/
theorem mem_paths_of_normalize (h : normalize endpoints policy = .ok normalized) {e : Endpoint}
    (he : e ∈ normalized) {path : UrlPath} (hpath : path ∈ e.paths) :
    ∃ declared ∈ endpoints, path ∈ declared.paths := by
  obtain ⟨all, hall, -, rfl⟩ := normalize_eq_ok_iff.mp h
  obtain ⟨e', he', rfl⟩ := List.mem_map.mp he
  obtain ⟨before, after, hpaths, -⟩ := Endpoint.mem_paths_collapsePaths_iff.mp hpath
  have hkept : path ∈ e'.paths := by
    rw [show e'.paths = before ++ path :: after from hpaths]
    exact List.mem_append_right _ List.mem_cons_self
  exact DerivedRule.mem_paths_applyAll hkept hall he'

/-- What holds of the paths of declared endpoints holds of those that survive normalization. -/
theorem forall_paths_of_normalize (h : normalize endpoints policy = .ok normalized)
    {p : UrlPath → Prop} (hp : ∀ e ∈ endpoints, ∀ path ∈ e.paths, p path) :
    ∀ e ∈ normalized, ∀ path ∈ e.paths, p path := by
  intro e he path hpath
  obtain ⟨declared, hdeclared, hmem⟩ := mem_paths_of_normalize h he hpath
  exact hp declared hdeclared path hmem

/-- What is normalized is not changed by another normalization without rules. -/
theorem normalize_normalize (h : normalize endpoints policy = .ok normalized) {again : Policy}
    (hagain : again.derived = []) : normalize normalized again = .ok normalized := by
  obtain ⟨all, -, hmethods, rfl⟩ := normalize_eq_ok_iff.mp h
  refine normalize_eq_ok_iff.mpr ⟨all.map (Endpoint.settled policy.verbOrder), ?_, ?_, ?_⟩
  · rw [hagain]
    rfl
  · intro e' he'
    obtain ⟨e, he, rfl⟩ := List.mem_map.mp he'
    obtain ⟨m, hm⟩ := Endpoint.settled_methods (hmethods e he) _
    rw [hm]
    exact List.cons_ne_nil m []
  · rw [List.map_map]
    exact List.map_congr_left fun e he => (Endpoint.settled_settled (hmethods e he) _).symm

end Normalize

/-- Of the paths of an endpoint those are kept that are the last of their shapes. Their shapes are
strictly increasing in the order of texts, item by item, and are those of all paths; nothing else
about the endpoint changes. Endpoints that are normalized stay as they are when they are normalized
again, by whatever order methods are ranked. -/
theorem normalForm_exact :
    (∀ e : Endpoint,
      (∀ path, path ∈ e.collapsePaths.paths ↔ path.IsLastOfShape e.paths) ∧
      (shapesOf e.collapsePaths.paths).Pairwise (· < ·) ∧
      (shapesOf e.collapsePaths.paths).Nodup ∧
      (∀ shape, shape ∈ shapesOf e.collapsePaths.paths ↔ shape ∈ shapesOf e.paths) ∧
      e.collapsePaths = { e with paths := e.collapsePaths.paths }) ∧
    ∀ (endpoints : List Endpoint) (policy : Policy) (normalized : List Endpoint),
      normalize endpoints policy = .ok normalized → ∀ again : Policy, again.derived = [] →
        normalize normalized again = .ok normalized := by
  refine ⟨fun e => ⟨fun _ => Endpoint.mem_paths_collapsePaths_iff, ?_, ?_,
    fun _ => Endpoint.mem_shapes_collapsePaths_iff, rfl⟩,
    fun _ _ _ h _ hagain => normalize_normalize h hagain⟩
  · exact e.increasing_shapes_collapsePaths.imp Sorted.rowBefore_iff.mp
  · exact e.increasing_shapes_collapsePaths.nodup Sorted.isLinear_rowBefore.toIsStrict

/-- Two paths of one shape collapse, and a shape comes after those that begin it. The method that
was chosen first is kept although another order would choose the other one. -/
theorem normalForm_exact_aliases :
    ∃ (e : Endpoint) (normalized : List Endpoint),
      e.methods = [.put, .get] ∧ shapesOf e.paths = [["index", "name"], [], ["index"],
        ["index", "name"]] ∧
      normalize [e] {} = .ok normalized ∧
      normalized.map (fun e => shapesOf e.paths) = [[[], ["index"], ["index", "name"]]] ∧
      normalize normalized { verbOrder := some [.get] } = .ok normalized := by
  let e : Endpoint :=
    { name := "indices.put_alias", methods := [.put, .get],
      paths := [
        ⟨"/{index}/_alias/{name}", [.literal "/", .param "index", .literal "/_alias/",
          .param "name"]⟩,
        ⟨"/_alias", [.literal "/_alias"]⟩,
        ⟨"/{index}/_alias", [.literal "/", .param "index", .literal "/_alias"]⟩,
        ⟨"/{index}/_aliases/{name}", [.literal "/", .param "index", .literal "/_aliases/",
          .param "name"]⟩] }
  obtain ⟨normalized, hnormalized, hshapes⟩ : ∃ normalized, normalize [e] {} = .ok normalized ∧
      normalized.map (fun e => shapesOf e.paths) = [[[], ["index"], ["index", "name"]]] := by
    subst e
    exact ⟨_, rfl, by decide⟩
  exact ⟨e, normalized, rfl, rfl, hnormalized, hshapes,
    normalForm_exact.2 [e] {} normalized hnormalized { verbOrder := some [.get] } rfl⟩

end Routewright
