import Routewright.Proofs.Normalization

/-!
# Derived endpoints

Rules are applied one after the other, each to the declared endpoints and those derived so far. All
can be applied just when each has a new target and a known source (`DerivedRule.Follow`), and each
then puts one clone at the end of the list (`DerivedRule.applyAll_eq_ok`). What follows is done to
each endpoint by itself, so that it leaves a clone as like its source as it was
(`normalize_derived`).
-/

namespace Routewright

open Outcome

namespace DerivedRule

variable {rule : DerivedRule} {rules : List DerivedRule} {endpoints all : List Endpoint}

/-- Rules that can be applied one after the other where some names are declared : the target of each
is none of them and no earlier target, and its source is one of them or an earlier target. -/
def Follow (names : List String) (rules : List DerivedRule) : Prop :=
  ∀ i rule, rules[i]? = some rule →
    rule.target ∉ names ++ (rules.take i).map target ∧
      rule.source ∈ names ++ (rules.take i).map target

theorem follow_nil (names : List String) : Follow names [] :=
  fun _ _ h => nomatch h

/-- What the first rule derives is declared for those that follow. -/
theorem follow_cons_iff {names : List String} :
    Follow names (rule :: rules) ↔
      (rule.target ∉ names ∧ rule.source ∈ names) ∧ Follow (names ++ [rule.target]) rules := by
  have happend (i : Nat) : names ++ ((rule :: rules).take (i + 1)).map target =
      names ++ [rule.target] ++ (rules.take i).map target := by
    rw [List.take_succ_cons, List.map_cons, List.append_assoc, List.singleton_append]
  constructor
  · intro h
    refine ⟨?_, fun i later hlater => ?_⟩
    · have hfirst := h 0 rule rfl
      rwa [List.take_zero, List.map_nil, List.append_nil] at hfirst
    · rw [← happend]
      exact h (i + 1) later hlater
  · rintro ⟨hfirst, hrest⟩ i later hlater
    cases i with
    | zero =>
      obtain rfl := Option.some.inj hlater
      rwa [List.take_zero, List.map_nil, List.append_nil]
    | succ i =>
      rw [happend]
      exact hrest i later hlater

/-! ## One rule -/

theorem exists_last?_iff (name : String) :
    (∃ e, Endpoint.last? (fun e => e.name = name) endpoints = some e) ↔
      name ∈ endpoints.map Endpoint.name := by
  rw [Endpoint.last?, ← Option.isSome_iff_exists, List.find?_isSome, List.mem_map]
  simp only [List.mem_reverse, decide_eq_true_eq]

theorem exists_apply_iff :
    (∃ derived, rule.apply endpoints = .ok derived) ↔
      rule.target ∉ endpoints.map Endpoint.name ∧ rule.source ∈ endpoints.map Endpoint.name := by
  simp only [apply_eq_ok_iff, ← exists_last?_iff rule.source]
  constructor
  · rintro ⟨-, hnew, source, hsource, -⟩
    exact ⟨hnew, source, hsource⟩
  · rintro ⟨hnew, source, hsource⟩
    exact ⟨rule.clone source, hnew, source, hsource, rfl⟩

/-! ## All rules -/

/-- Rules can be applied if they follow the names that are declared. -/
theorem exists_applyAll_iff :
    ∀ {rules : List DerivedRule} {endpoints : List Endpoint},
      (∃ all, applyAll endpoints rules = .ok all) ↔
        Follow (endpoints.map Endpoint.name) rules
  | [], endpoints => iff_of_true ⟨endpoints, rfl⟩ (follow_nil _)
  | rule :: rules, endpoints => by
    have hrest {derived : Endpoint} (h : rule.apply endpoints = .ok derived) :
        (∃ all, applyAll (endpoints ++ [derived]) rules = .ok all) ↔
          Follow (endpoints.map Endpoint.name ++ [rule.target]) rules := by
      obtain ⟨-, source, -, rfl⟩ := apply_eq_ok_iff.mp h
      rw [exists_applyAll_iff, List.map_append]
      rfl
    rw [follow_cons_iff, ← exists_apply_iff, applyAll]
    simp only [bind_eq_ok]
    constructor
    · rintro ⟨all, derived, hderived, hall⟩
      exact ⟨⟨derived, hderived⟩, (hrest hderived).mp ⟨all, hall⟩⟩
    · rintro ⟨⟨derived, hderived⟩, hfollow⟩
      obtain ⟨all, hall⟩ := (hrest hderived).mpr hfollow
      exact ⟨all, derived, hderived, hall⟩

/-- Rules leave what is there as it is and put a clone for each of them behind it, in order. The
source of a clone stands before it. -/
theorem applyAll_eq_ok :
    ∀ {rules : List DerivedRule} {endpoints : List Endpoint}, applyAll endpoints rules = .ok all →
      all.take endpoints.length = endpoints ∧ all.length = endpoints.length + rules.length ∧
      ∀ i rule, rules[i]? = some rule → ∃ source ∈ all.take (endpoints.length + i),
        source.name = rule.source ∧ all[endpoints.length + i]? = some (rule.clone source)
  | [], endpoints, h => by
    cases h
    exact ⟨List.take_length, rfl, fun _ _ h => nomatch h⟩
  | rule :: rules, endpoints, h => by
    obtain ⟨derived, hderived, h⟩ := bind_eq_ok.mp h
    obtain ⟨-, source, hsource, rfl⟩ := apply_eq_ok_iff.mp hderived
    obtain ⟨htake, hlength, hclones⟩ := applyAll_eq_ok h
    rw [List.length_append, List.length_singleton] at htake hlength hclones
    have hbefore : all.take endpoints.length = endpoints := by
      have h := congrArg (List.take endpoints.length) htake
      rwa [List.take_take, Nat.min_eq_left (Nat.le_succ _), List.take_left] at h
    refine ⟨hbefore, by rw [hlength, List.length_cons]; omega, fun i later hlater => ?_⟩
    cases i with
    | zero =>
      obtain rfl := Option.some.inj hlater
      obtain ⟨hmem, hname⟩ := of_last?_eq_some hsource
      refine ⟨source, ?_, hname, ?_⟩
      · rwa [Nat.add_zero, hbefore]
      · rw [Nat.add_zero, ← List.getElem?_take_of_lt (Nat.lt_succ_self _), htake]
        exact List.getElem?_concat_length
    | succ i =>
      obtain hclone := hclones i later hlater
      rwa [Nat.add_right_comm, Nat.add_assoc] at hclone

/-- Each endpoint is declared, or cloned by a rule. -/
theorem of_mem_applyAll {e : Endpoint} (h : applyAll endpoints rules = .ok all) (he : e ∈ all) :
    e ∈ endpoints ∨ ∃ rule source, e = clone rule source := by
  obtain ⟨htake, hlength, hclones⟩ := applyAll_eq_ok h
  obtain ⟨j, hj, rfl⟩ := List.mem_iff_getElem.mp he
  rcases Nat.lt_or_ge j endpoints.length with hdeclared | hderived
  · left
    rw [← htake]
    exact List.mem_take_iff_getElem.mpr ⟨j, lt_min hdeclared hj, rfl⟩
  · obtain ⟨i, rfl⟩ := Nat.exists_eq_add_of_le hderived
    have hi : i < rules.length := by omega
    obtain ⟨source, -, -, hclone⟩ := hclones i rules[i] (List.getElem?_eq_getElem hi)
    rw [List.getElem?_eq_getElem hj] at hclone
    exact .inr ⟨rules[i], source, Option.some.inj hclone⟩

/-- What a rule makes of the endpoint that it names : another one with the same documentation, parts
and paths, of the one method of the rule, and without the body if the rule clears it. -/
structure Derives (rule : DerivedRule) (source derived : Endpoint) : Prop where
  source_name : source.name = rule.source
  name_eq : derived.name = rule.target
  methods_eq : derived.methods = [rule.method]
  body_eq : derived.body = if rule.clearBody then none else source.body
  documentation_eq : derived.documentation = source.documentation
  parts_eq : derived.parts = source.parts
  paths_eq : derived.paths = source.paths

/-- A clone and its source are normalized alike. -/
theorem derives_settled {source : Endpoint} (h : source.name = rule.source)
    (order : Option (List HttpMethod)) :
    rule.Derives (source.settled order) ((rule.clone source).settled order) :=
  ⟨h, rfl, rfl, rfl, rfl, rfl, rfl⟩

end DerivedRule

variable {endpoints : List Endpoint} {policy : Policy}

/-- Endpoints normalize if each has a method and the rules follow their names. -/
theorem exists_normalize_iff :
    (∃ normalized, normalize endpoints policy = .ok normalized) ↔
      (∀ e ∈ endpoints, e.methods ≠ []) ∧
        DerivedRule.Follow (endpoints.map Endpoint.name) policy.derived := by
  simp only [normalize_eq_ok_iff]
  constructor
  · rintro ⟨normalized, all, hall, hmethods, -⟩
    refine ⟨fun e he => hmethods e ?_, DerivedRule.exists_applyAll_iff.mp ⟨all, hall⟩⟩
    rw [← (DerivedRule.applyAll_eq_ok hall).1] at he
    exact List.mem_of_mem_take he
  · rintro ⟨hmethods, hfollow⟩
    obtain ⟨all, hall⟩ := DerivedRule.exists_applyAll_iff.mpr hfollow
    refine ⟨_, all, hall, fun e he => ?_, rfl⟩
    rcases DerivedRule.of_mem_applyAll hall he with hdeclared | ⟨rule, source, rfl⟩
    · exact hmethods e hdeclared
    · exact List.cons_ne_nil _ _

/-- Endpoints of distinct names normalize just when each declares a method, each rule has a target
that is no name so far, and its source is such a name. The declared endpoints are normalized as if
there were no rules, and each rule adds one endpoint behind them, in order : the endpoint that its
source names, declared or derived before, but for the name, the method and the body. All names are
distinct. -/
theorem normalize_derived (policy : Policy) (hnodup : (endpoints.map Endpoint.name).Nodup) :
    ((∃ normalized, normalize endpoints policy = .ok normalized) ↔
      (∀ e ∈ endpoints, e.methods ≠ []) ∧
        DerivedRule.Follow (endpoints.map Endpoint.name) policy.derived) ∧
    ∀ normalized, normalize endpoints policy = .ok normalized →
      normalize endpoints { policy with derived := [] } =
        .ok (normalized.take endpoints.length) ∧
      normalized.length = endpoints.length + policy.derived.length ∧
      (∀ i rule, policy.derived[i]? = some rule →
        ∃ derived, normalized[endpoints.length + i]? = some derived ∧
          ∃ source ∈ normalized.take (endpoints.length + i), rule.Derives source derived) ∧
      (normalized.map Endpoint.name).Nodup := by
  refine ⟨exists_normalize_iff, fun normalized h => ?_⟩
  have hdistinct := nodup_of_normalize h hnodup
  obtain ⟨all, hall, hmethods, rfl⟩ := normalize_eq_ok_iff.mp h
  obtain ⟨htake, hlength, hclones⟩ := DerivedRule.applyAll_eq_ok hall
  refine ⟨normalize_eq_ok_iff.mpr ⟨endpoints, rfl, fun e he => hmethods e ?_, ?_⟩, ?_,
    fun i rule hrule => ?_, hdistinct⟩
  · rw [← htake] at he
    exact List.mem_of_mem_take he
  · rw [← List.map_take, htake]
  · rw [List.length_map, hlength]
  · obtain ⟨source, hsource, hname, hclone⟩ := hclones i rule hrule
    refine ⟨_, by rw [List.getElem?_map, hclone]; rfl, source.settled policy.verbOrder, ?_,
      DerivedRule.derives_settled hname policy.verbOrder⟩
    rw [← List.map_take]
    exact List.mem_map_of_mem hsource

/-- A rule derives from what the rule before it derives. What has lost its body has none to keep. -/
theorem normalize_derived_chain :
    ∃ (search : Endpoint) (policy : Policy) (normalized : List Endpoint),
      ([search].map Endpoint.name).Nodup ∧ search.methods = [.post, .get] ∧
      policy.derived.map (fun rule => (rule.source, rule.target)) =
        [("search", "simple_search"), ("simple_search", "plain_search")] ∧
      normalize [search] policy = .ok normalized ∧
      normalized.map Endpoint.name = ["search", "simple_search", "plain_search"] ∧
      (∃ plain, normalized[2]? = some plain ∧ ∃ source ∈ normalized.take 2,
        DerivedRule.Derives ⟨"simple_search", "plain_search", .get, false⟩ source plain) ∧
      (normalized.map Endpoint.name).Nodup := by
  let search : Endpoint :=
    { name := "search", methods := [.post, .get], body := some {},
      paths := [⟨"/_search", [.literal "/_search"]⟩, ⟨"/_all", [.literal "/_all"]⟩] }
  let policy : Policy :=
    { derived := [⟨"search", "simple_search", .get, true⟩,
        ⟨"simple_search", "plain_search", .get, false⟩] }
  have hnodup : ([search].map Endpoint.name).Nodup := List.nodup_singleton _
  obtain ⟨hiff, hresult⟩ := normalize_derived policy hnodup
  obtain ⟨normalized, hnormalized, hnames⟩ : ∃ normalized,
      normalize [search] policy = .ok normalized ∧
      normalized.map Endpoint.name = ["search", "simple_search", "plain_search"] := by
    subst search policy
    exact ⟨_, rfl, rfl⟩
  obtain ⟨-, -, hderives, hdistinct⟩ := hresult normalized hnormalized
  exact ⟨search, policy, normalized, hnodup, rfl, rfl, hnormalized, hnames,
    hderives 1 ⟨"simple_search", "plain_search", .get, false⟩ rfl, hdistinct⟩

end Routewright
