import Mathlib.Data.List.Flatten
import Routewright.Proofs.Order

/-!
# Some of the endpoints

What is generated from endpoints is put together from what each of them needs, so that some of them
can be generated alone (`generate_sublist`). The requests of an endpoint are declared as if the
others were there. Of the shared types only those remain that some endpoint left needs, and a
wrapper may lose hosts, or the wrapper itself, but no name turns up that was not there.

Derived endpoints are left out : a rule may refer to an endpoint that is not among those chosen.
-/

namespace Routewright

open Code Outcome Sorted

variable {policy : Policy}

/-! ## Endpoints -/

/-- What each item gives, some of the items give. -/
theorem mapM_sublist {α β ε : Type} {f : α → Except ε β} {items items' : List α}
    (hsub : items'.Sublist items) :
    ∀ {results : List β}, items.mapM f = .ok results →
      ∃ results', items'.mapM f = .ok results' ∧ results'.Sublist results := by
  simp only [mapM_eq_ok]
  induction hsub with
  | slnil =>
    rintro _ ⟨⟩
    exact ⟨[], .nil, .slnil⟩
  | cons a _ ih =>
    rintro _ (_ | ⟨-, hrest⟩)
    obtain ⟨results', hresults', hsub'⟩ := ih hrest
    exact ⟨results', hresults', .cons _ hsub'⟩
  | cons_cons a _ ih =>
    rintro _ (_ | ⟨ha, hrest⟩)
    obtain ⟨results', hresults', hsub'⟩ := ih hrest
    exact ⟨_ :: results', .cons ha hresults', .cons_cons _ hsub'⟩

/-- Without rules, endpoints that normalize do so among fewer, each to the same. -/
theorem normalize_sublist {endpoints endpoints' normalized : List Endpoint}
    (hsub : endpoints'.Sublist endpoints) (hderived : policy.derived = [])
    (h : normalize endpoints policy = .ok normalized) :
    ∃ normalized', normalize endpoints' policy = .ok normalized' ∧
      normalized'.Sublist normalized := by
  unfold normalize at h ⊢
  rw [hderived] at h ⊢
  exact mapM_sublist hsub h

namespace Lowered

variable {lowered lowered' : List (Lowered policy)}

/-! ## Names -/

/-- No name is declared twice by fewer endpoints. -/
theorem NoClash.sublist (h : NoClash lowered) (hsub : lowered'.Sublist lowered) :
    NoClash lowered' := by
  have hnames : (ownedNames lowered').Sublist (ownedNames lowered) :=
    (hsub.flatMap _).append_left _
  exact ⟨h.nodup_ownedNames.sublist hnames, fun l hl name hname howned =>
    h.types_free l (hsub.subset hl) name hname (hnames.subset howned)⟩

/-- What is generated without a clash of names is made of its endpoints. -/
theorem NoClash.isMadeOf (h : NoClash lowered) : (generated lowered).IsMadeOf lowered where
  endpoints_eq := rfl
  types_eq := rfl
  code_eq := rfl
  nodup_ownedNames := h.nodup_ownedNames
  types_free := h.types_free

/-! ## Shared types -/

/-- Fewer endpoints declare fewer shared types. -/
theorem names_params_subset (hsub : lowered' ⊆ lowered) :
    ((generated lowered').code.group "params").flatMap Item.names ⊆
      ((generated lowered).code.group "params").flatMap Item.names := by
  have htypes : (mergeTypes (typeTable lowered')).declared ⊆
      (mergeTypes (typeTable lowered)).declared := by
    intro name hname
    rw [SharedTypes.mem_declared, SharedTypes.mem_names_mergeTypes] at hname ⊢
    obtain ⟨t, ht, hname⟩ := hname
    exact ⟨t, List.map_subset _ hsub ht, hname⟩
  simp only [generated, Module.group_assemble, SharedTypes.names_items]
  exact List.append_subset.mpr ⟨List.subset_append_left _ _,
    List.subset_append_of_subset_right _ (List.cons_subset_cons _ htypes)⟩

/-- Each wrapper of fewer endpoints is one of more, with at least the same hosts. -/
theorem exists_wrapper_of_subset (h : NoClash lowered) (h' : NoClash lowered')
    (hsub : lowered' ⊆ lowered) {w' : Wrapper} (hw' : w' ∈ (generated lowered').code.wrappers) :
    ∃ w ∈ (generated lowered).code.wrappers, w.name = w'.name ∧ w'.hosts ⊆ w.hosts := by
  have hname' : w'.name ∈ Table.keys (mergeTypes (typeTable lowered')).wrappers :=
    h'.isMadeOf.map_name_wrappers ▸ List.mem_map_of_mem hw'
  rw [SharedTypes.mem_keys_mergeTypes] at hname'
  obtain ⟨t, ht, hkey⟩ := hname'
  have hname : w'.name ∈ (generated lowered).code.wrappers.map Wrapper.name := by
    rw [h.isMadeOf.map_name_wrappers]
    exact SharedTypes.mem_keys_mergeTypes.mpr ⟨t, List.map_subset _ hsub ht, hkey⟩
  obtain ⟨w, hw, heq⟩ := List.mem_map.mp hname
  refine ⟨w, hw, heq, ?_⟩
  rw [h'.isMadeOf.hosts_of_mem_wrappers hw', h.isMadeOf.hosts_of_mem_wrappers hw, heq]
  -- a wrapper leaves out itself in both runs, so that the hosts before that are compared
  refine List.filter_subset _ fun host hhost => ?_
  rw [generated, SharedTypes.mem_hostsOf_mergeTypes
    (Generated.IsMadeOf.arranged_typeTable _)] at hhost ⊢
  obtain ⟨t, ht, hhost⟩ := hhost
  exact ⟨t, List.map_subset _ hsub ht, hhost⟩

/-! ## Requests -/

/-- Under the name of one of fewer endpoints, what was made for it is found among more. -/
theorem find?_eq_of_subset {β : Type} (part : Lowered policy → β)
    (hnodup : ((lowered.map Lowered.endpoint).map Endpoint.name).Nodup)
    (hnodup' : ((lowered'.map Lowered.endpoint).map Endpoint.name).Nodup)
    (hsub : lowered' ⊆ lowered) {l : Lowered policy} (hl : l ∈ lowered') :
    Table.find? l.endpoint.name (lowered'.map fun l => (l.endpoint.name, part l)) =
      Table.find? l.endpoint.name (lowered.map fun l => (l.endpoint.name, part l)) := by
  rw [(find?_eq_some_iff part hnodup').mpr ⟨l, hl, rfl, rfl⟩,
    (find?_eq_some_iff part hnodup).mpr ⟨l, hsub hl, rfl, rfl⟩]

end Lowered

/-- Endpoints of distinct names that lead to code without any rule do so in part : whichever of them
are left lead to code. Each of these has the same requests and the same block of declarations as
before. What is declared beside the requests was declared before, and each wrapper was one that
converted from at least the same hosts. -/
theorem generate_sublist {endpoints endpoints' : List Endpoint} {g : Generated}
    (hsub : endpoints'.Sublist endpoints) (hnodup : (endpoints.map Endpoint.name).Nodup)
    (hderived : policy.derived = []) (h : generate endpoints policy = .ok g) :
    ∃ g', generate endpoints' policy = .ok g' ∧
      g'.endpoints.map Endpoint.name = endpoints'.map Endpoint.name ∧
      g'.endpoints.Sublist g.endpoints ∧
      (∀ e ∈ g'.endpoints, Table.find? e.name g'.requests = Table.find? e.name g.requests) ∧
      (∃ block : String → List Item,
        (∀ e ∈ g.endpoints, ∃ requests, Table.find? e.name g.requests = some requests ∧
          Request.items requests = .ok (block e.name)) ∧
        g.code.group "requests" = g.endpoints.flatMap (fun e => block e.name) ∧
        g'.code.group "requests" = g'.endpoints.flatMap fun e => block e.name) ∧
      (g'.code.group "params").flatMap Item.names ⊆ (g.code.group "params").flatMap Item.names ∧
      ∀ w' ∈ g'.code.wrappers, ∃ w ∈ g.code.wrappers, w.name = w'.name ∧ w'.hosts ⊆ w.hosts := by
  have hnodup' : (endpoints'.map Endpoint.name).Nodup := hnodup.sublist (hsub.map _)
  obtain ⟨lowered, hnormalized, hnoClash, rfl⟩ := (generate_eq_ok_iff hnodup).mp h
  obtain ⟨_, hnormalized', hsub'⟩ := normalize_sublist hsub hderived hnormalized
  obtain ⟨lowered', hlowered, rfl⟩ := List.sublist_map_iff.mp hsub'
  have hnoClash' : Lowered.NoClash lowered' := hnoClash.sublist hlowered
  have hnames := nodup_of_normalize hnormalized hnodup
  have hnames' := nodup_of_normalize hnormalized' hnodup'
  refine ⟨Lowered.generated lowered',
    (generate_eq_ok_iff hnodup').mpr ⟨lowered', hnormalized', hnoClash', rfl⟩, ?_, hsub', ?_,
    ⟨Lowered.block lowered, fun e => Lowered.items_block hnames,
      Lowered.group_requests_eq hnames (List.Subset.refl _),
      Lowered.group_requests_eq hnames hlowered.subset⟩,
    Lowered.names_params_subset hlowered.subset,
    fun w' => Lowered.exists_wrapper_of_subset hnoClash hnoClash' hlowered.subset⟩
  · obtain ⟨all, hall, heq⟩ := map_name_of_normalize hnormalized'
    rw [hderived] at hall
    cases hall
    exact heq.symm
  · intro e he
    obtain ⟨l, hl, rfl⟩ := List.mem_map.mp he
    exact Lowered.find?_eq_of_subset Lowered.requests hnames hnames' hlowered.subset hl

/-- The endpoint that is left out declares the name of a type, which turns the text type of the
other into a wrapper with a host. -/
theorem generate_sublist_host :
    ∃ (get search : Endpoint) (g g' : Generated),
      [get].Sublist [get, search] ∧ ([get, search].map Endpoint.name).Nodup ∧
      ({} : Policy).derived = [] ∧ generate [get, search] {} = .ok g ∧
      generate [get] {} = .ok g' ∧
      g.code.wrappers = [{ name := "Index", hosts := [⟨.named, some "IndexName"⟩] },
        { name := "IndexName", hosts := [.plain] }] ∧
      g'.code.wrappers = [{ name := "Index", hosts := [⟨.named, some "IndexName"⟩] }] ∧
      (∃ block : String → List Item, g.code.group "requests" = block "get" ++ block "search" ∧
        g'.code.group "requests" = block "get") ∧
      (g'.code.group "params").flatMap Item.names ⊆
        (g.code.group "params").flatMap Item.names := by
  let get : Endpoint :=
    { name := "get", methods := [.get], paths := [⟨"/{index}", [.literal "/", .param "index"]⟩],
      parts := [("index", ⟨.other, some "index_name"⟩)] }
  let search : Endpoint :=
    { name := "search", methods := [.get],
      paths := [⟨"/{index_name}", [.literal "/", .param "index_name"]⟩] }
  have hsub : [get].Sublist [get, search] := .cons_cons get (.cons search .slnil)
  have hnodup : ([get, search].map Endpoint.name).Nodup := by decide
  have hderived : ({} : Policy).derived = [] := rfl
  obtain ⟨g, hg, hendpoints, hwrappers⟩ : ∃ g, generate [get, search] {} = .ok g ∧
      g.endpoints = [get, search] ∧
      g.code.wrappers = [{ name := "Index", hosts := [⟨.named, some "IndexName"⟩] },
        { name := "IndexName", hosts := [.plain] }] := by
    subst get search
    exact ⟨_, rfl, rfl, rfl⟩
  obtain ⟨g', hg', hnames, hkept, -, ⟨block, -, hblocks, hblocks'⟩, hparams, -⟩ :=
    generate_sublist hsub hnodup hderived hg
  obtain ⟨hendpoints', hwrappers'⟩ : g'.endpoints = [get] ∧
      g'.code.wrappers = [{ name := "Index", hosts := [⟨.named, some "IndexName"⟩] }] := by
    have hgenerated : ∃ other, generate [get] {} = .ok other ∧ other.endpoints = [get] ∧
        other.code.wrappers = [{ name := "Index", hosts := [⟨.named, some "IndexName"⟩] }] := by
      subst get search
      exact ⟨_, rfl, rfl, rfl⟩
    obtain ⟨other, hother, hfacts⟩ := hgenerated
    obtain rfl : g' = other := Except.ok.inj (hg'.symm.trans hother)
    exact hfacts
  rw [hendpoints] at hblocks
  rw [hendpoints'] at hblocks'
  refine ⟨get, search, g, g', hsub, hnodup, hderived, hg, hg', hwrappers, hwrappers',
    ⟨block, ?_, ?_⟩, hparams⟩
  · rw [hblocks]
    simp [get, search]
  · rw [hblocks']
    simp [get]

end Routewright
