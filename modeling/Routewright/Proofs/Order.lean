import Mathlib.Data.List.Perm.Basic
import Routewright.Proofs.TwoRuns
import Routewright.Proofs.Wrappers

/-!
# The order of endpoints

In which order endpoints are declared decides the order of what is generated for them, and nothing
else. Rules look endpoints up by their names, which are distinct, so that they derive the same from
any order (`DerivedRule.applyAll_alike`). Names are refused only if one is declared twice, in
whichever order they are entered (`generate_eq_ok_iff`). Shared types are sets of names and of host
types, kept in increasing order, so that they are equal once they have the same members
(`mergeTypes_congr`).
-/

namespace Routewright

open Code Outcome Sorted

variable {policy : Policy}

/-! ## Endpoints in another order -/

/-- What each item gives, a list in another order gives in that order. -/
theorem mapM_perm {α β ε : Type} {f : α → Except ε β} {items items' : List α} {results : List β}
    (hperm : items.Perm items') (h : items.mapM f = .ok results) :
    ∃ results', items'.mapM f = .ok results' ∧ results.Perm results' := by
  obtain ⟨results', hresults', hperm'⟩ := List.perm_comp_forall₂ hperm.symm (mapM_eq_ok.mp h)
  exact ⟨results', mapM_eq_ok.mpr hresults', hperm'.symm⟩

section Endpoints

variable {endpoints endpoints' : List Endpoint}

/-- Under distinct names, the endpoint that is found by a name is the one that has it. -/
theorem Endpoint.find?_name_eq_some_iff (hnodup : (endpoints.map Endpoint.name).Nodup)
    {name : String} {e : Endpoint} :
    endpoints.find? (fun e => e.name = name) = some e ↔ e ∈ endpoints ∧ e.name = name := by
  constructor
  · intro h
    have hname := List.find?_some h
    exact ⟨List.mem_of_find?_eq_some h, of_decide_eq_true hname⟩
  · rintro ⟨he, rfl⟩
    cases hfound : endpoints.find? fun other => other.name = e.name with
    | none => exact absurd (decide_eq_true rfl) (List.find?_eq_none.mp hfound e he)
    | some other =>
      have hname := List.find?_some hfound
      rw [List.inj_on_of_nodup_map hnodup (List.mem_of_find?_eq_some hfound) he
        (of_decide_eq_true hname)]

/-- An endpoint is found by its name in any order. -/
theorem Endpoint.find?_name_eq_of_perm (hperm : endpoints.Perm endpoints')
    (hnodup : (endpoints.map Endpoint.name).Nodup) (name : String) :
    endpoints.find? (fun e => e.name = name) = endpoints'.find? (fun e => e.name = name) := by
  have hnodup' : (endpoints'.map Endpoint.name).Nodup := (hperm.map _).nodup_iff.mp hnodup
  refine Option.ext fun e => ?_
  rw [find?_name_eq_some_iff hnodup, find?_name_eq_some_iff hnodup', hperm.mem_iff]

/-- A rule derives the same from endpoints in any order. -/
theorem DerivedRule.apply_eq_of_perm (rule : DerivedRule) (hperm : endpoints.Perm endpoints')
    (hnodup : (endpoints.map Endpoint.name).Nodup) :
    rule.apply endpoints = rule.apply endpoints' := by
  have hreversed : endpoints.reverse.Perm endpoints'.reverse :=
    (List.reverse_perm endpoints).trans (hperm.trans (List.reverse_perm endpoints').symm)
  have hnodupReversed : (endpoints.reverse.map Endpoint.name).Nodup := by
    rw [List.map_reverse]
    exact List.nodup_reverse.mpr hnodup
  unfold apply
  rw [hperm.any_eq, Endpoint.last?, Endpoint.last?,
    Endpoint.find?_name_eq_of_perm hreversed hnodupReversed]

/-- Rules refuse endpoints for the same reason in any order, or derive the same from them. -/
theorem DerivedRule.applyAll_alike :
    ∀ (rules : List DerivedRule) {endpoints endpoints' : List Endpoint},
      endpoints.Perm endpoints' → (endpoints.map Endpoint.name).Nodup →
      Outcome.Alike Eq List.Perm (applyAll endpoints rules) (applyAll endpoints' rules)
  | [], _, _, hperm, _ => .ok hperm
  | rule :: rules, endpoints, endpoints', hperm, hnodup => by
    unfold applyAll
    rw [← rule.apply_eq_of_perm hperm hnodup]
    cases hderived : rule.apply endpoints with
    | error fault => exact .error rfl
    | ok derived =>
      obtain ⟨hnew, source, -, rfl⟩ := apply_eq_ok_iff.mp hderived
      refine applyAll_alike rules (hperm.append_right _) ?_
      rw [List.map_append]
      exact hnodup.append (List.nodup_singleton _) (List.disjoint_singleton.mpr hnew)

/-- Endpoints that normalize do so in any order, each to the same. -/
theorem normalize_perm {normalized : List Endpoint} (hperm : endpoints.Perm endpoints')
    (hnodup : (endpoints.map Endpoint.name).Nodup)
    (h : normalize endpoints policy = .ok normalized) :
    ∃ normalized', normalize endpoints' policy = .ok normalized' ∧
      normalized.Perm normalized' := by
  obtain ⟨all, hall, h⟩ := bind_eq_ok.mp h
  have halike := DerivedRule.applyAll_alike policy.derived hperm hnodup
  rw [mapError_eq_ok.mp hall] at halike
  cases hall' : DerivedRule.applyAll endpoints' policy.derived with
  | error fault =>
    rw [hall'] at halike
    cases halike
  | ok all' =>
    rw [hall'] at halike
    obtain ⟨normalized', hnormalized', hsame⟩ := mapM_perm halike.of_ok h
    exact ⟨normalized', bind_eq_ok.mpr ⟨all', mapError_eq_ok.mpr hall', hnormalized'⟩, hsame⟩

end Endpoints

/-! ## Generations as a function of what is lowered -/

namespace Lowered

/-- What is generated from endpoints that are lowered. -/
def generated (lowered : List (Lowered policy)) : Generated where
  endpoints := lowered.map Lowered.endpoint
  requests := requestTable lowered
  types := mergeTypes (typeTable lowered)
  code := assemble (lowered.flatMap Lowered.items) (mergeTypes (typeTable lowered))

/-- No name is declared by two endpoints, and no type has a name that is declared. -/
structure NoClash (lowered : List (Lowered policy)) : Prop where
  nodup_ownedNames : (ownedNames lowered).Nodup
  types_free : ∀ l ∈ lowered, ∀ name ∈ l.types.names, name ∉ ownedNames lowered

/-- What is lowered is decided by the endpoint. -/
theorem endpoint_injective : Function.Injective (endpoint : Lowered policy → Endpoint) := by
  rintro ⟨e, requests, types, items, hrequests, hitems⟩
    ⟨_, requests', types', items', hrequests', hitems'⟩ rfl
  obtain ⟨rfl, rfl⟩ := Prod.mk.inj (Except.ok.inj (hrequests.symm.trans hrequests'))
  obtain rfl : items = items' := Except.ok.inj (hitems.symm.trans hitems')
  rfl

/-- Endpoints that can be lowered lead to one entry each. -/
theorem ofEndpoints_eq :
    ∀ (lowered : List (Lowered policy)) (before : Described),
      Described.ofEndpoints policy before (lowered.map Lowered.endpoint) = .ok {
        requests := (requestTable lowered).foldl (fun table e => Table.put e.1 e.2 table)
          before.requests
        types := (typeTable lowered).foldl (fun table e => Table.put e.1 e.2 table) before.types
        items := before.items ++ lowered.flatMap Lowered.items }
  | [], before => by
    rw [List.flatMap_nil, List.append_nil]
    rfl
  | l :: lowered, before => by
    have hitems : (Request.items l.requests).mapError l.endpoint.failure = .ok l.items :=
      mapError_eq_ok.mpr l.items_eq
    rw [List.map_cons, Described.ofEndpoints, l.requests_eq, ok_bind]
    dsimp only
    rw [hitems, ok_bind, ofEndpoints_eq lowered]
    rw [List.flatMap_cons, List.append_assoc]
    rfl

end Lowered

/-- Names that are new and distinct can be taken. -/
theorem exists_takeNames (endpoint : String) :
    ∀ {names : List String} {owners : List (String × NameOwner)},
      (Table.keys owners ++ names).Nodup →
      ∃ after, takeNames endpoint owners names = .ok after ∧
        Table.keys after = Table.keys owners ++ names
  | [], owners, _ => ⟨owners, rfl, (List.append_nil _).symm⟩
  | name :: names, owners, hnodup => by
    have hfree : name ∉ Table.keys owners := fun hmem =>
      (List.disjoint_of_nodup_append hnodup) hmem List.mem_cons_self
    have hkeys : Table.keys (owners ++ [(name, .endpoint endpoint)]) =
        Table.keys owners ++ [name] := List.map_append
    rw [← List.singleton_append, ← List.append_assoc, ← hkeys] at hnodup
    obtain ⟨after, hafter, hkeysAfter⟩ := exists_takeNames endpoint hnodup
    refine ⟨after, bind_eq_ok.mpr ⟨(), checkFree_eq_ok.mpr hfree, hafter⟩, ?_⟩
    rw [hkeysAfter, hkeys, List.append_assoc, List.singleton_append]

/-- Over all endpoints, names that are new and distinct can be taken. -/
theorem exists_takeAll :
    ∀ {requests : List (String × List Request)} {owners : List (String × NameOwner)},
      (Table.keys owners ++ requests.flatMap fun r => ownNames r.2).Nodup →
      ∃ after, takeAll owners requests = .ok after ∧
        Table.keys after = Table.keys owners ++ requests.flatMap fun r => ownNames r.2
  | [], owners, _ => ⟨owners, rfl, (List.append_nil _).symm⟩
  | (endpoint, requests) :: rest, owners, hnodup => by
    rw [List.flatMap_cons, ← List.append_assoc] at hnodup
    obtain ⟨next, hnext, hkeys⟩ := exists_takeNames endpoint hnodup.of_append_left
    rw [← hkeys] at hnodup
    obtain ⟨after, hafter, hkeysAfter⟩ := exists_takeAll hnodup
    refine ⟨after, bind_eq_ok.mpr ⟨next, hnext, hafter⟩, ?_⟩
    rw [hkeysAfter, hkeys, List.append_assoc, List.flatMap_cons]

namespace Lowered

variable {lowered : List (Lowered policy)}

/-- Names pass their check if none is declared twice. -/
theorem NoClash.checkNames_eq (h : NoClash lowered) :
    checkNames (requestTable lowered) (typeTable lowered) = .ok () := by
  have hnames : (requestTable lowered).flatMap (fun r => ownNames r.2) =
      lowered.flatMap fun l => ownNames l.requests := by
    rw [requestTable, List.flatMap_map]
  have hnodup : (Table.keys sharedOwners ++
      (requestTable lowered).flatMap fun r => ownNames r.2).Nodup := by
    rw [hnames]
    exact h.nodup_ownedNames
  obtain ⟨owners, howners, hkeys⟩ := exists_takeAll hnodup
  rw [hnames] at hkeys
  refine bind_eq_ok.mpr ⟨owners, howners, forM_eq_ok.mpr fun t ht => forM_eq_ok.mpr ?_⟩
  obtain ⟨l, hl, rfl⟩ := List.mem_map.mp ht
  intro name hname
  rw [checkFree_eq_ok, hkeys]
  exact h.types_free l hl name hname

end Lowered

/-- Endpoints of distinct names that are lowered are entered in order. -/
theorem Lowered.ofEndpoints_tables {lowered : List (Lowered policy)}
    (hnodup : ((lowered.map Lowered.endpoint).map Endpoint.name).Nodup) :
    Described.ofEndpoints policy {} (lowered.map Lowered.endpoint) = .ok
      { requests := requestTable lowered, types := typeTable lowered,
        items := lowered.flatMap Lowered.items } := by
  obtain ⟨other, hother, hrequests, htypes, -⟩ :=
    Described.ofEndpoints_eq_ok (ofEndpoints_eq lowered {}) hnodup
      fun _ _ => ⟨List.not_mem_nil, List.not_mem_nil⟩
  obtain rfl : other = lowered := endpoint_injective.list_map hother
  dsimp only at hrequests htypes
  rw [ofEndpoints_eq, hrequests, htypes]
  rfl

/-- Endpoints of distinct names lead to code just when they normalize to endpoints that can be
lowered and that do not declare a name twice, and then to what is generated from these. -/
theorem generate_eq_ok_iff {endpoints : List Endpoint} {g : Generated}
    (hnodup : (endpoints.map Endpoint.name).Nodup) :
    generate endpoints policy = .ok g ↔ ∃ lowered : List (Lowered policy),
      normalize endpoints policy = .ok (lowered.map Lowered.endpoint) ∧
        Lowered.NoClash lowered ∧ g = Lowered.generated lowered := by
  have hgenerated : ∀ lowered : List (Lowered policy),
      normalize endpoints policy = .ok (lowered.map Lowered.endpoint) →
      Lowered.NoClash lowered → generate endpoints policy = .ok (Lowered.generated lowered) := by
    intro lowered hnormalized hnoClash
    rw [generate, hnormalized, ok_bind,
      Lowered.ofEndpoints_tables (nodup_of_normalize hnormalized hnodup), ok_bind,
      hnoClash.checkNames_eq]
    rfl
  constructor
  · intro h
    obtain ⟨hnormalized, lowered, hmade⟩ := generate_eq_ok hnodup h
    rw [hmade.endpoints_eq] at hnormalized
    have hnoClash : Lowered.NoClash lowered := ⟨hmade.nodup_ownedNames, hmade.types_free⟩
    exact ⟨lowered, hnormalized, hnoClash,
      Except.ok.inj (h.symm.trans (hgenerated lowered hnormalized hnoClash))⟩
  · rintro ⟨lowered, hnormalized, hnoClash, rfl⟩
    exact hgenerated lowered hnormalized hnoClash

/-! ## Shared types from endpoints in any order -/

namespace Sorted

/-- Increasing lists with the same members are equal. -/
theorem Increasing.eq_of_mem_iff {α : Type} {before : α → α → Bool} (hstrict : IsStrict before)
    {items items' : List α} (h : Increasing before items) (h' : Increasing before items')
    (hmem : ∀ x, x ∈ items ↔ x ∈ items') : items = items' := by
  have hperm := (List.perm_ext_iff_of_nodup (h.nodup hstrict) (h'.nodup hstrict)).mpr hmem
  exact hperm.eq_of_pairwise
    (fun x y _ _ hxy hyx => absurd (hstrict.trans hxy hyx) (hstrict.irrefl x)) h h'

end Sorted

namespace SharedTypes

section Wrappers

variable {wrappers wrappers' : List (String × List HostType)}

/-- Wrappers are read off their names and hosts. -/
theorem Arranged.map_hostsOf_keys (h : Arranged wrappers) :
    (Table.keys wrappers).map (fun name => (name, hostsOf name wrappers)) = wrappers := by
  have hentries : ∀ entry ∈ wrappers, (entry.1, hostsOf entry.1 wrappers) = entry :=
    fun _ hentry => by rw [h.hostsOf_eq hentry]
  rw [Table.keys, List.map_map]
  exact (List.map_congr_left hentries).trans (List.map_id' wrappers)

/-- Wrappers with the same names and hosts are equal. -/
theorem Arranged.eq_of_mem_iff (h : Arranged wrappers) (h' : Arranged wrappers')
    (hkeys : ∀ name, name ∈ Table.keys wrappers ↔ name ∈ Table.keys wrappers')
    (hhosts : ∀ name host, host ∈ hostsOf name wrappers ↔ host ∈ hostsOf name wrappers') :
    wrappers = wrappers' := by
  have hsameKeys : Table.keys wrappers = Table.keys wrappers' :=
    h.keys.eq_of_mem_iff isLinear_textBefore.toIsStrict h'.keys hkeys
  have hsameHosts : ∀ name, hostsOf name wrappers = hostsOf name wrappers' := fun name =>
    (h.increasing_hostsOf name).eq_of_mem_iff HostType.isStrict_before (h'.increasing_hostsOf name)
      (hhosts name)
  rw [← h.map_hostsOf_keys, ← h'.map_hostsOf_keys, hsameKeys]
  exact List.map_congr_left fun name _ => congrArg (Prod.mk name) (hsameHosts name)

end Wrappers

variable {types types' : List (String × SharedTypes)}

/-- The types of all endpoints have the text types of each. -/
theorem mem_named_mergeTypes {name : String} :
    name ∈ (mergeTypes types).named ↔ ∃ t ∈ types, name ∈ t.2.named :=
  mergeTypes_iff (P := fun _ => True) (Q := fun t => name ∈ t.named) trivial List.not_mem_nil
    (fun _ _ => ⟨trivial, (mem_foldl_insert isLinear_textBefore).trans or_comm⟩)
    fun _ _ => trivial

/-- Which types are merged decides the result, and not in which order or how often. -/
theorem mergeTypes_congr (h : ∀ t ∈ types, Arranged t.2.wrappers)
    (hmem : ∀ t, t ∈ types ↔ t ∈ types') : mergeTypes types = mergeTypes types' := by
  have h' : ∀ t ∈ types', Arranged t.2.wrappers := fun t ht => h t ((hmem t).mpr ht)
  have hwrappers : (mergeTypes types).wrappers = (mergeTypes types').wrappers := by
    refine (arranged_mergeTypes h).eq_of_mem_iff (arranged_mergeTypes h') (fun name => ?_)
      fun name host => ?_
    · simp only [mem_keys_mergeTypes, hmem]
    · simp only [mem_hostsOf_mergeTypes h, mem_hostsOf_mergeTypes h', hmem]
  have hnamed : (mergeTypes types).named = (mergeTypes types').named := by
    refine (ordered_mergeTypes types).named.eq_of_mem_iff isLinear_textBefore.toIsStrict
      (ordered_mergeTypes types').named fun name => ?_
    simp only [mem_named_mergeTypes, hmem]
  calc mergeTypes types = ⟨(mergeTypes types).wrappers, (mergeTypes types).named⟩ := rfl
    _ = mergeTypes types' := by rw [hwrappers, hnamed]

end SharedTypes

/-! ## Whole generations -/

namespace Lowered

variable {lowered lowered' : List (Lowered policy)}

/-- No name is declared twice in whichever order names are declared. -/
theorem NoClash.perm (h : NoClash lowered) (hperm : lowered.Perm lowered') : NoClash lowered' := by
  have hnames : (ownedNames lowered).Perm (ownedNames lowered') :=
    (hperm.flatMap_right _).append_left _
  refine ⟨hnames.nodup_iff.mp h.nodup_ownedNames, fun l hl name hname => ?_⟩
  rw [← hnames.mem_iff]
  exact h.types_free l (hperm.mem_iff.mpr hl) name hname

/-- Endpoints in any order need the same shared types. -/
theorem types_eq_of_perm (hperm : lowered.Perm lowered') :
    (generated lowered).types = (generated lowered').types :=
  SharedTypes.mergeTypes_congr (Generated.IsMadeOf.arranged_typeTable lowered)
    fun _ => (hperm.map _).mem_iff

/-- Under distinct names, what is found under a name is what was made for the endpoint. -/
theorem find?_eq_some_iff {β : Type} (part : Lowered policy → β)
    (hnodup : ((lowered.map Lowered.endpoint).map Endpoint.name).Nodup) {name : String} {b : β} :
    Table.find? name (lowered.map fun l => (l.endpoint.name, part l)) = some b ↔
      ∃ l ∈ lowered, l.endpoint.name = name ∧ part l = b := by
  have hkeys : Table.keys (lowered.map fun l => (l.endpoint.name, part l)) =
      (lowered.map Lowered.endpoint).map Endpoint.name := by
    rw [Table.keys, List.map_map, List.map_map]
    rfl
  constructor
  · intro h
    obtain ⟨l, hl, heq⟩ := List.mem_map.mp (Table.mem_of_find? h)
    exact ⟨l, hl, Prod.mk.inj heq⟩
  · rintro ⟨l, hl, rfl, rfl⟩
    exact Table.find?_of_mem (hkeys ▸ hnodup) (List.mem_map.mpr ⟨l, hl, rfl⟩)

/-- Under a name the same is found in any order. -/
theorem find?_eq_of_perm {β : Type} (part : Lowered policy → β)
    (hnodup : ((lowered.map Lowered.endpoint).map Endpoint.name).Nodup)
    (hperm : lowered.Perm lowered') (name : String) :
    Table.find? name (lowered.map fun l => (l.endpoint.name, part l)) =
      Table.find? name (lowered'.map fun l => (l.endpoint.name, part l)) := by
  have hnodup' : ((lowered'.map Lowered.endpoint).map Endpoint.name).Nodup :=
    ((hperm.map _).map _).nodup_iff.mp hnodup
  refine Option.ext fun b => ?_
  simp only [find?_eq_some_iff part hnodup, find?_eq_some_iff part hnodup', hperm.mem_iff]

/-- The declarations that each name stands for. -/
def block (lowered : List (Lowered policy)) (name : String) : List Item :=
  (Table.find? name (lowered.map fun l => (l.endpoint.name, l.items))).getD []

/-- The declarations of an endpoint are those that its name stands for. -/
theorem block_name (hnodup : ((lowered.map Lowered.endpoint).map Endpoint.name).Nodup)
    {l : Lowered policy} (hl : l ∈ lowered) : block lowered l.endpoint.name = l.items := by
  rw [block, (find?_eq_some_iff Lowered.items hnodup).mpr ⟨l, hl, rfl, rfl⟩]
  rfl

/-- The requests of an endpoint are lowered to the declarations that its name stands for. -/
theorem items_block (hnodup : ((lowered.map Lowered.endpoint).map Endpoint.name).Nodup)
    {e : Endpoint} (he : e ∈ lowered.map Lowered.endpoint) :
    ∃ requests, Table.find? e.name (requestTable lowered) = some requests ∧
      Request.items requests = .ok (block lowered e.name) := by
  obtain ⟨l, hl, rfl⟩ := List.mem_map.mp he
  refine ⟨l.requests, (find?_eq_some_iff Lowered.requests hnodup).mpr ⟨l, hl, rfl, rfl⟩, ?_⟩
  rw [block_name hnodup hl]
  exact l.items_eq

/-- Requests are declared block by block. -/
theorem group_requests_generated (lowered : List (Lowered policy)) :
    (generated lowered).code.group "requests" = lowered.flatMap Lowered.items := by
  simp [generated, Module.group, assemble]

/-- Of some endpoints requests are declared in the blocks that they have among all. -/
theorem group_requests_eq (hnodup : ((lowered.map Lowered.endpoint).map Endpoint.name).Nodup)
    (hsub : lowered' ⊆ lowered) :
    (generated lowered').code.group "requests" =
      (generated lowered').endpoints.flatMap fun e => block lowered e.name := by
  rw [group_requests_generated, generated, List.flatMap_map]
  refine List.flatMap_congr fun l hl => ?_
  rw [block_name hnodup (hsub hl)]

/-- Requests are declared in the order of endpoints, in blocks that do not depend on it. -/
theorem group_requests_eq_of_perm
    (hnodup : ((lowered.map Lowered.endpoint).map Endpoint.name).Nodup)
    (hperm : lowered.Perm lowered') :
    (generated lowered').code.group "requests" =
      (generated lowered').endpoints.flatMap fun e => block lowered e.name :=
  group_requests_eq hnodup hperm.symm.subset

end Lowered

variable {endpoints endpoints' : List Endpoint}

/-- What is generated from endpoints in one order is generated in any, in the order of these. -/
theorem exists_generated_perm {lowered : List (Lowered policy)}
    (hperm : endpoints.Perm endpoints') (hnodup : (endpoints.map Endpoint.name).Nodup)
    (hnormalized : normalize endpoints policy = .ok (lowered.map Lowered.endpoint))
    (hnoClash : Lowered.NoClash lowered) :
    ∃ lowered' : List (Lowered policy), lowered.Perm lowered' ∧
      generate endpoints' policy = .ok (Lowered.generated lowered') := by
  obtain ⟨normalized', hnormalized', hsame⟩ := normalize_perm hperm hnodup hnormalized
  have hlowered : List.Forall₂ (fun e (l : Lowered policy) => l.endpoint = e)
      (lowered.map Lowered.endpoint) lowered := by
    rw [List.forall₂_map_left_iff, List.forall₂_same]
    exact fun _ _ => rfl
  obtain ⟨lowered', hlowered', hpermLowered⟩ := List.perm_comp_forall₂ hsame.symm hlowered
  have hendpoints : normalized' = lowered'.map Lowered.endpoint := by
    rw [← List.forall₂_eq_eq_eq, List.forall₂_map_right_iff]
    exact hlowered'.imp fun _ _ h => h.symm
  refine ⟨lowered', hpermLowered.symm, ?_⟩
  rw [generate_eq_ok_iff ((hperm.map _).nodup_iff.mp hnodup)]
  exact ⟨lowered', hendpoints ▸ hnormalized', hnoClash.perm hpermLowered.symm, rfl⟩

/-- Endpoints of distinct names lead to code in one order just when they do in any other. Both
generations have the same endpoint and the same requests under each name, each declares requests in
blocks, the same for each name, in its own order of endpoints, and both declare the same shared
types. -/
theorem generate_perm (hperm : endpoints.Perm endpoints')
    (hnodup : (endpoints.map Endpoint.name).Nodup) (policy : Policy) :
    ((∃ g, generate endpoints policy = .ok g) ↔ ∃ g', generate endpoints' policy = .ok g') ∧
    ∀ g g', generate endpoints policy = .ok g → generate endpoints' policy = .ok g' →
      g.endpoints.Perm g'.endpoints ∧
      (∀ name, g.endpoints.find? (fun e => e.name = name) =
        g'.endpoints.find? (fun e => e.name = name)) ∧
      (∀ name, Table.find? name g.requests = Table.find? name g'.requests) ∧
      (∃ block : String → List Item,
        (∀ e ∈ g.endpoints, ∃ requests, Table.find? e.name g.requests = some requests ∧
          Request.items requests = .ok (block e.name)) ∧
        g.code.group "requests" = g.endpoints.flatMap (fun e => block e.name) ∧
        g'.code.group "requests" = g'.endpoints.flatMap fun e => block e.name) ∧
      g.code.group "params" = g'.code.group "params" := by
  have hnodup' : (endpoints'.map Endpoint.name).Nodup := (hperm.map _).nodup_iff.mp hnodup
  refine ⟨⟨?_, ?_⟩, ?_⟩
  · rintro ⟨g, hg⟩
    obtain ⟨lowered, hnormalized, hnoClash, -⟩ := (generate_eq_ok_iff hnodup).mp hg
    obtain ⟨lowered', -, hg'⟩ := exists_generated_perm hperm hnodup hnormalized hnoClash
    exact ⟨_, hg'⟩
  · rintro ⟨g', hg'⟩
    obtain ⟨lowered', hnormalized, hnoClash, -⟩ := (generate_eq_ok_iff hnodup').mp hg'
    obtain ⟨lowered, -, hg⟩ := exists_generated_perm hperm.symm hnodup' hnormalized hnoClash
    exact ⟨_, hg⟩
  · intro g g' hg hg'
    obtain ⟨lowered, hnormalized, hnoClash, rfl⟩ := (generate_eq_ok_iff hnodup).mp hg
    obtain ⟨lowered', hpermLowered, hgenerated⟩ :=
      exists_generated_perm hperm hnodup hnormalized hnoClash
    obtain rfl : g' = Lowered.generated lowered' := Except.ok.inj (hg'.symm.trans hgenerated)
    have hnames := nodup_of_normalize hnormalized hnodup
    have htypes := Lowered.types_eq_of_perm hpermLowered
    refine ⟨hpermLowered.map _, Endpoint.find?_name_eq_of_perm (hpermLowered.map _) hnames,
      Lowered.find?_eq_of_perm Lowered.requests hnames hpermLowered,
      ⟨Lowered.block lowered, fun e => Lowered.items_block hnames,
        Lowered.group_requests_eq_of_perm hnames (List.Perm.refl _),
        Lowered.group_requests_eq_of_perm hnames hpermLowered⟩, ?_⟩
    calc (Lowered.generated lowered).code.group "params"
        = (Lowered.generated lowered).types.items := Module.group_assemble _ _
      _ = (Lowered.generated lowered').types.items := by rw [htypes]
      _ = (Lowered.generated lowered').code.group "params" := (Module.group_assemble _ _).symm

/-- Two endpoints the other way round, one of which another is derived from. -/
theorem generate_perm_derived :
    ∃ (get search : Endpoint) (policy : Policy) (g g' : Generated),
      [get, search].Perm [search, get] ∧ ([get, search].map Endpoint.name).Nodup ∧
      generate [get, search] policy = .ok g ∧ generate [search, get] policy = .ok g' ∧
      g.endpoints.map Endpoint.name = ["get", "search", "head"] ∧
      g'.endpoints.map Endpoint.name = ["search", "get", "head"] ∧
      (∀ name, Table.find? name g.requests = Table.find? name g'.requests) ∧
      g.code.group "params" = g'.code.group "params" := by
  let get : Endpoint :=
    { name := "get", methods := [.get], paths := [⟨"/{index}", [.literal "/", .param "index"]⟩] }
  let search : Endpoint :=
    { name := "search", methods := [.post], paths := [⟨"/{index}/_search",
        [.literal "/", .param "index", .literal "/_search"]⟩],
      parts := [("index", ⟨.other, some "index_name"⟩)] }
  let policy : Policy := { derived := [{ source := "get", target := "head", method := .head }] }
  have hperm : [get, search].Perm [search, get] := .swap search get []
  have hnodup : ([get, search].map Endpoint.name).Nodup := by decide
  obtain ⟨g, g', hg, hg', hnames, hnames'⟩ : ∃ g g', generate [get, search] policy = .ok g ∧
      generate [search, get] policy = .ok g' ∧
      g.endpoints.map Endpoint.name = ["get", "search", "head"] ∧
      g'.endpoints.map Endpoint.name = ["search", "get", "head"] := by
    subst get search policy
    exact ⟨_, _, rfl, rfl, rfl, rfl⟩
  obtain ⟨-, -, hrequests, -, hparams⟩ := (generate_perm hperm hnodup policy).2 g g' hg hg'
  exact ⟨get, search, policy, g, g', hperm, hnodup, hg, hg', hnames, hnames', hrequests, hparams⟩

end Routewright
