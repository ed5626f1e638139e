import Routewright.Failure
import Routewright.Proofs.Documentation
import Routewright.Proofs.Parameters

/-!
# What a failure names

A run that fails once its rules are applied fails because of one endpoint, which the message names
(`isAbout_of_generate`, `GenerationFailure.IsAbout.names`). The document that the endpoint was read
from is named only where the endpoint declares no method : from whatever documents the endpoints are
read, all other failures stay the same (`generate_error_names_document_iff`).
-/

namespace Routewright

open Outcome

variable {policy : Policy} {failure : GenerationFailure}

/-! ## Failures and endpoints -/

namespace GenerationFailure

/-- The message that a failure of a generation shows. -/
def message (failure : GenerationFailure) : String :=
  (Failure.ofGeneration failure).message

/-- Why a name is what a failure is put down to. -/
inductive IsUnder (name : String) : GenerationFailure → Prop
  /-- It is no module path. -/
  | modulePath {fault : ModulePathFault} : Routewright.modulePath name = .error fault →
      IsUnder name (.modulePath fault)
  /-- Its endpoint cannot be turned into code, or wants a name that is taken. -/
  | fault (fault : GenerationFault) : IsUnder name (.generation ⟨some name, fault⟩)

/-- Why an endpoint is what a failure is about. -/
inductive IsAbout (e : Endpoint) : GenerationFailure → Prop
  /-- It declares no method, for which it is named together with its document. -/
  | noMethod : e.methods = [] → IsAbout e (.generation ⟨some e.identity, .noMethod⟩)
  /-- It has a method, and fails under its name. -/
  | named {failure : GenerationFailure} : e.methods ≠ [] → failure.IsUnder e.name →
      IsAbout e failure

end GenerationFailure

open GenerationFailure

/-- The requests of an endpoint fail under its name. -/
theorem Endpoint.requests_eq_error {e : Endpoint} (h : e.requests policy = .error failure) :
    failure.IsUnder e.name := by
  unfold requests at h
  split at h
  · rcases bind_eq_error.mp h with h | ⟨tokens, -, h⟩
    · obtain ⟨fault, hfault, rfl⟩ := mapError_eq_error.mp h
      exact .modulePath hfault
    rcases bind_eq_error.mp h with h | ⟨types, -, h⟩
    · obtain ⟨fault, -, rfl⟩ := mapError_eq_error.mp h
      exact .fault fault
    rcases bind_eq_error.mp h with h | ⟨requests, -, h⟩
    · obtain ⟨fault, -, rfl⟩ := mapError_eq_error.mp h
      exact .fault fault
    · cases h
  · cases h
    exact .fault _

/-- Endpoints are not described because one of them fails. -/
theorem Described.ofEndpoints_eq_error :
    ∀ {endpoints : List Endpoint} {before : Described},
      ofEndpoints policy before endpoints = .error failure →
      ∃ name ∈ endpoints.map Endpoint.name, failure.IsUnder name
  | e :: endpoints, before, h => by
    rcases bind_eq_error.mp h with h | ⟨⟨requests, types⟩, -, h⟩
    · exact ⟨e.name, List.mem_cons_self, e.requests_eq_error h⟩
    rcases bind_eq_error.mp h with h | ⟨items, -, h⟩
    · obtain ⟨fault, -, rfl⟩ := mapError_eq_error.mp h
      exact ⟨e.name, List.mem_cons_self, .fault fault⟩
    · obtain ⟨name, hname, hfailure⟩ := ofEndpoints_eq_error h
      exact ⟨name, List.mem_cons_of_mem _ hname, hfailure⟩

/-! ## Names that are taken -/

variable {error : GenerationError}

theorem checkFree_eq_error {owners : List (String × NameOwner)} {endpoint name : String}
    {fault : String → NameOwner → GenerationFault}
    (h : checkFree owners endpoint fault name = .error error) : error.endpoint = some endpoint := by
  unfold checkFree at h
  split at h
  · cases h
  · cases h
    rfl

/-- A name that is taken is put down to the endpoint that wants it. -/
theorem takeNames_eq_error {endpoint : String} :
    ∀ {names : List String} {owners : List (String × NameOwner)},
      takeNames endpoint owners names = .error error → error.endpoint = some endpoint
  | name :: names, owners, h => by
    rcases bind_eq_error.mp h with h | ⟨_, -, h⟩
    · exact checkFree_eq_error h
    · exact takeNames_eq_error h

theorem takeAll_eq_error :
    ∀ {requests : List (String × List Request)} {owners : List (String × NameOwner)},
      takeAll owners requests = .error error →
      ∃ endpoint ∈ Table.keys requests, error.endpoint = some endpoint
  | (endpoint, _) :: rest, owners, h => by
    rcases bind_eq_error.mp h with h | ⟨_, -, h⟩
    · exact ⟨endpoint, List.mem_cons_self, takeNames_eq_error h⟩
    · obtain ⟨endpoint', hmem, heq⟩ := takeAll_eq_error h
      exact ⟨endpoint', List.mem_cons_of_mem _ hmem, heq⟩

/-- Names clash because of an endpoint that has requests or types. -/
theorem checkNames_eq_error {requests : List (String × List Request)}
    {types : List (String × SharedTypes)} (h : checkNames requests types = .error error) :
    ∃ endpoint ∈ Table.keys requests ++ Table.keys types, error.endpoint = some endpoint := by
  rcases bind_eq_error.mp h with h | ⟨owners, -, h⟩
  · obtain ⟨endpoint, hmem, heq⟩ := takeAll_eq_error h
    exact ⟨endpoint, List.mem_append_left _ hmem, heq⟩
  · obtain ⟨⟨endpoint, t⟩, ht, h⟩ := exists_of_forM_eq_error h
    obtain ⟨name, -, h⟩ := exists_of_forM_eq_error h
    exact ⟨endpoint, List.mem_append_right _ (List.mem_map_of_mem ht), checkFree_eq_error h⟩

/-- Whatever is entered for endpoints is entered under the name of one of them. -/
theorem Described.mem_names_of_ofEndpoints {endpoints : List Endpoint} {described : Described}
    (h : ofEndpoints policy {} endpoints = .ok described) :
    Table.keys described.requests ++ Table.keys described.types ⊆ endpoints.map Endpoint.name := by
  obtain ⟨lowered, rfl, hrequests, htypes, -⟩ := ofEndpoints_eq_foldl h
  rw [hrequests, htypes]
  refine List.append_subset.mpr ⟨?_, ?_⟩ <;>
  · intro name hname
    obtain ⟨entry, hentry, rfl⟩ := List.mem_map.mp hname
    have hmem := (Table.mem_foldl_put hentry).resolve_right List.not_mem_nil
    obtain ⟨l, hl, rfl⟩ := List.mem_map.mp hmem
    exact List.mem_map_of_mem (List.mem_map_of_mem hl)

/-- Normalized endpoints fail under the name of one of them. -/
theorem isUnder_of_normalize {endpoints normalized : List Endpoint}
    (h : generate endpoints policy = .error failure)
    (hnormalized : normalize endpoints policy = .ok normalized) :
    ∃ name ∈ normalized.map Endpoint.name, failure.IsUnder name := by
  rcases bind_eq_error.mp h with h | ⟨_, hsame, h⟩
  · cases hnormalized.symm.trans h
  obtain rfl := Except.ok.inj (hnormalized.symm.trans hsame)
  rcases bind_eq_error.mp h with h | ⟨described, hdescribed, h⟩
  · exact Described.ofEndpoints_eq_error h
  rcases bind_eq_error.mp h with h | ⟨_, -, h⟩
  · obtain ⟨⟨_, fault⟩, herror, rfl⟩ := mapError_eq_error.mp h
    obtain ⟨name, hname, rfl⟩ := checkNames_eq_error herror
    exact ⟨name, Described.mem_names_of_ofEndpoints hdescribed hname, .fault fault⟩
  · cases h

/-- A run whose rules can be applied fails because of an endpoint : one that declares no method if
there is such a one, so that the endpoints do not normalize. -/
theorem isAbout_of_generate {endpoints : List Endpoint}
    (h : generate endpoints policy = .error failure)
    (hrules : ∀ fault, failure ≠ .derivation fault) :
    ∃ all, DerivedRule.applyAll endpoints policy.derived = .ok all ∧ ∃ e ∈ all,
      failure.IsAbout e ∧
        (e.methods ≠ [] → ∃ normalized, normalize endpoints policy = .ok normalized) := by
  rcases hnormalized : normalize endpoints policy with failure' | normalized
  · rw [generate, hnormalized] at h
    cases h
    rcases normalize_eq_error hnormalized with ⟨fault, -, rfl⟩ | ⟨all, hall, e, he, hnone, rfl⟩
    · exact absurd rfl (hrules fault)
    · exact ⟨all, hall, e, he, .noMethod hnone, fun hmethods => absurd hnone hmethods⟩
  · obtain ⟨name, hname, hunder⟩ := isUnder_of_normalize h hnormalized
    obtain ⟨all, hall, hnames⟩ := map_name_of_normalize hnormalized
    rw [← hnames] at hname
    obtain ⟨e, he, rfl⟩ := List.mem_map.mp hname
    have hmethods := methods_ne_nil_of_normalize hnormalized hall e he
    exact ⟨all, hall, e, he, .named hmethods hunder, fun _ => ⟨normalized, rfl⟩⟩

/-! ## What messages say -/

namespace GenerationFailure

/-- A failure that names an endpoint, by its name as it is or as messages show texts. -/
def Names (failure : GenerationFailure) (name : String) : Prop :=
  Text.Occurs name failure.message ∨ Text.Occurs (Text.shown name) failure.message

/-- What an error is put down to stands in its message. -/
theorem occurs_of_endpoint (name : String) (fault : GenerationFault) :
    Text.Occurs name (message (.generation ⟨some name, fault⟩)) := by
  change Text.Occurs name (if name.isEmpty then fault.text else name ++ ": " ++ fault.text)
  split_ifs with hempty
  · obtain rfl : name = "" := String.isEmpty_iff.mp hempty
    exact ⟨"", fault.text, by simp⟩
  · exact ⟨"", ": " ++ fault.text, by simp [String.append_assoc]⟩

theorem occurs_name_identity (e : Endpoint) : Text.Occurs e.name e.identity := by
  unfold Endpoint.identity
  split
  · exact ⟨"", "", by simp⟩
  · split_ifs
    · exact ⟨"", "", by simp⟩
    · exact ⟨"", _, by simp [String.append_assoc]; rfl⟩

theorem occurs_origin_identity {e : Endpoint} {file : String} (h : e.origin = some file) :
    Text.Occurs file e.identity := by
  unfold Endpoint.identity
  rw [h]
  dsimp only
  split_ifs with hempty
  · obtain rfl : file = "" := String.isEmpty_iff.mp hempty
    exact ⟨"", e.name, by simp⟩
  · exact ⟨e.name ++ " (", ")", by simp [String.append_assoc]⟩

/-- What a failure is put down to is named. -/
theorem IsUnder.names {name : String} (h : failure.IsUnder name) : failure.Names name := by
  cases h with
  | fault fault => exact .inl (occurs_of_endpoint name fault)
  | modulePath hfault =>
    unfold Routewright.modulePath at hfault
    split_ifs at hfault with hempty
    · cases hfault
      obtain rfl : name = "" := String.isEmpty_iff.mp hempty
      exact .inl ⟨"", ModulePathFault.message .empty, by simp; rfl⟩
    · dsimp only at hfault
      split at hfault
      · next token _ =>
        cases hfault
        exact .inr ⟨"Cannot use " ++ Text.shown (String.ofList token) ++ " from endpoint name ",
          " as an identifier", rfl⟩
      · cases hfault

/-- An endpoint that keeps a run from its result is named. -/
theorem IsAbout.names {e : Endpoint} (h : failure.IsAbout e) : failure.Names e.name := by
  cases h with
  | noMethod => exact .inl ((occurs_name_identity e).trans (occurs_of_endpoint _ _))
  | named _ hunder => exact hunder.names

end GenerationFailure

/-! ## Where endpoints are read from -/

/-- An endpoint as it would be if it was read from a file. -/
def Endpoint.readFrom (file : String) (e : Endpoint) : Endpoint :=
  { e with origin := some file }

namespace Endpoint

variable {e : Endpoint} (file : String)

/-- What an endpoint leads to does not depend on where it was read from. -/
theorem requests_readFrom : (e.readFrom file).requests policy = e.requests policy := by
  have hbare : (e.readFrom file).SameButDoc e := rfl
  have hpaths : Request.ofPaths (e.readFrom file) = Request.ofPaths e := by
    funext method tokens strategy made paths
    rw [Request.ofPaths_eq, Request.ofPaths_eq]
    rfl
  unfold requests
  rw [hbare.sharedTypes_eq, hpaths]
  rfl

/-- Endpoints that are described are so wherever they were read from. -/
theorem alike_readFrom (policy : Policy) :
    Endpoint.Alike policy policy Eq Eq Eq e (e.readFrom file) where
  name_eq := rfl
  requests := by
    rw [requests_readFrom]
    exact (Outcome.Alike.refl (fun _ => rfl) _).imp_of_ok fun _ _ _ _ heq => heq ▸ ⟨rfl, rfl⟩
  items := by
    rintro requests _ rfl
    refine (Outcome.Alike.refl (fun _ => rfl) _).imp_of_ok fun items _ _ _ heq => ?_
    rw [← heq, List.forall₂_eq_eq_eq]

theorem applyAll_readFrom (rules : List DerivedRule) (endpoints : List Endpoint) :
    DerivedRule.applyAll (endpoints.map (readFrom file)) rules =
      (DerivedRule.applyAll endpoints rules).map (List.map (readFrom file)) := by
  have hname : ∀ e : Endpoint, (e.readFrom file).name = e.name := fun _ => rfl
  have hclone : ∀ (rule : DerivedRule) (e : Endpoint),
      rule.clone (e.readFrom file) = (rule.clone e).readFrom file := fun _ _ => rfl
  exact DerivedRule.applyAll_map hname hclone rules endpoints

end Endpoint

/-- Endpoints that normalize do so wherever they were read from. -/
theorem normalize_readFrom {endpoints normalized : List Endpoint} (file : String)
    (h : normalize endpoints policy = .ok normalized) :
    normalize (endpoints.map (Endpoint.readFrom file)) policy =
      .ok (normalized.map (Endpoint.readFrom file)) := by
  obtain ⟨all, hall, h⟩ := bind_eq_ok.mp h
  refine bind_eq_ok.mpr ⟨all.map (Endpoint.readFrom file), ?_, mapM_eq_ok.mpr ?_⟩
  · rw [mapError_eq_ok] at hall ⊢
    rw [Endpoint.applyAll_readFrom, hall]
    rfl
  · rw [List.forall₂_map_left_iff, List.forall₂_map_right_iff]
    refine (mapM_eq_ok.mp h).imp fun e e' he => ?_
    rw [mapError_eq_ok, map_eq_ok] at he ⊢
    obtain ⟨chosen, hchosen, rfl⟩ := he
    refine ⟨chosen.readFrom file, ?_, rfl⟩
    have hmethods : (e.readFrom file).methods = e.methods := rfl
    unfold Endpoint.selectMethod at hchosen ⊢
    rw [hmethods]
    split at hchosen
    · cases hchosen
    · cases hchosen
      rfl

/-- Normalized endpoints lead to the same failure wherever they were read from. -/
theorem generate_readFrom {endpoints normalized : List Endpoint} (file : String)
    (hnormalized : normalize endpoints policy = .ok normalized) :
    generate endpoints policy = .error failure ↔
      generate (endpoints.map (Endpoint.readFrom file)) policy = .error failure := by
  have hsame : Outcome.Alike Eq (List.Forall₂ fun e e' => e' = Endpoint.readFrom file e)
      (normalize endpoints policy)
      (normalize (endpoints.map (Endpoint.readFrom file)) policy) := by
    rw [hnormalized, normalize_readFrom file hnormalized]
    refine .ok ?_
    rw [List.forall₂_map_right_iff]
    exact List.forall₂_same.mpr fun _ _ => rfl
  have halike := generate_alike (fun _ => rfl) (fun _ _ h => congrArg ownNames h)
    (fun e e' he => he ▸ Endpoint.alike_readFrom file policy) hsame
  exact halike.error_eq_iff failure

/-- Endpoints among which one declares no method lead to a failure that names the file that they
were read from, whatever it is called. -/
theorem occurs_file_of_noMethod {endpoints all : List Endpoint} {e : Endpoint}
    (hall : DerivedRule.applyAll endpoints policy.derived = .ok all) (he : e ∈ all)
    (hnone : e.methods = []) (file : String) :
    ∃ failure, generate (endpoints.map (Endpoint.readFrom file)) policy = .error failure ∧
      Text.Occurs file failure.message := by
  have hread : DerivedRule.applyAll (endpoints.map (Endpoint.readFrom file)) policy.derived =
      .ok (all.map (Endpoint.readFrom file)) := by
    rw [Endpoint.applyAll_readFrom, hall]
    rfl
  rcases hnormalized : normalize (endpoints.map (Endpoint.readFrom file)) policy
    with failure | normalized
  · refine ⟨failure, by rw [generate, hnormalized]; rfl, ?_⟩
    rcases normalize_eq_error hnormalized with ⟨fault, hfault, -⟩ | ⟨all', hall', e', he', -, rfl⟩
    · cases hread.symm.trans hfault
    · obtain rfl := Except.ok.inj (hread.symm.trans hall')
      obtain ⟨e', -, rfl⟩ := List.mem_map.mp he'
      exact (occurs_origin_identity rfl).trans (occurs_of_endpoint _ _)
  · have hmem : e.readFrom file ∈ all.map (Endpoint.readFrom file) := List.mem_map_of_mem he
    exact (methods_ne_nil_of_normalize hnormalized hread _ hmem hnone).elim

/-- A run that fails once its rules are applied names the endpoint that it fails on. Of an endpoint
without a method, it names the file that the endpoint was read from as well. On every other endpoint
it fails alike whatever file the endpoints are read from, so that the file is named as such just
when the endpoint declares no method. -/
theorem generate_error_names_file_iff {endpoints : List Endpoint}
    (hread : ∀ e ∈ endpoints, e.origin.isSome) (h : generate endpoints policy = .error failure)
    (hrules : ∀ fault, failure ≠ .derivation fault) :
    ∃ all, DerivedRule.applyAll endpoints policy.derived = .ok all ∧ ∃ e ∈ all, ∃ file,
      e.origin = some file ∧ failure.IsAbout e ∧ failure.Names e.name ∧
      (e.methods = [] → Text.Occurs file failure.message) ∧
      (e.methods ≠ [] → ∀ other,
        generate (endpoints.map (Endpoint.readFrom other)) policy = .error failure) ∧
      ((∀ other, ∃ failure',
        generate (endpoints.map (Endpoint.readFrom other)) policy = .error failure' ∧
          Text.Occurs other failure'.message) ↔ e.methods = []) := by
  obtain ⟨all, hall, e, he, habout, hnormalized⟩ := isAbout_of_generate h hrules
  obtain ⟨file, hfile⟩ : ∃ file, e.origin = some file := by
    obtain ⟨declared, hdeclared, _, _, _, rfl⟩ := DerivedRule.exists_source_applyAll hall he
    exact Option.isSome_iff_exists.mp (hread declared hdeclared)
  have hsame : e.methods ≠ [] → ∀ other,
      generate (endpoints.map (Endpoint.readFrom other)) policy = .error failure := by
    intro hmethods other
    obtain ⟨normalized, hnormalized⟩ := hnormalized hmethods
    exact (generate_readFrom other hnormalized).mp h
  refine ⟨all, hall, e, he, file, hfile, habout, habout.names, fun hnone => ?_, hsame,
    fun hnames => ?_, fun hnone other => occurs_file_of_noMethod hall he hnone other⟩
  · cases habout with
    | noMethod => exact (occurs_origin_identity hfile).trans (occurs_of_endpoint _ _)
    | named hmethods => exact absurd hnone hmethods
  · by_contra hmethods
    -- no name that is longer than the message stands in it
    let long := String.ofList (List.replicate (failure.message.length + 1) 'a')
    obtain ⟨failure', hfailure', hoccurs⟩ := hnames long
    obtain rfl : failure = failure' := Except.error.inj ((hsame hmethods long).symm.trans hfailure')
    have hlength := hoccurs.length_le
    simp [long] at hlength

/-- The name of a parameter that generated code adds itself is refused alike in every file. -/
theorem generate_error_names_file_reserved :
    ∃ (e : Endpoint) (failure : GenerationFailure),
      e.origin = some "spec/get.json" ∧ e.methods = [.get] ∧
      generate [e] {} = .error failure ∧ failure.Names e.name ∧
      (∀ other, generate [e.readFrom other] {} = .error failure) ∧
      ¬∀ other, ∃ failure', generate [e.readFrom other] {} = .error failure' ∧
        Text.Occurs other failure'.message := by
  let get : Endpoint :=
    { name := "get", methods := [.get], origin := some "spec/get.json",
      paths := [⟨"/{base}", [.literal "/", .param "base"]⟩] }
  let failure : GenerationFailure := get.failure (.reservedPart "base" "/{base}")
  have hread : ∀ e ∈ [get], e.origin.isSome := by decide
  have hfailure : generate [get] {} = .error failure := by
    subst failure get
    rfl
  have hrules : ∀ fault, failure ≠ .derivation fault := fun _ => nofun
  obtain ⟨all, hall, e, he, file, -, -, hnames, -, hsame, hiff⟩ :=
    generate_error_names_file_iff hread hfailure hrules
  cases hall
  obtain rfl := List.mem_singleton.mp he
  have hmethods : get.methods ≠ [] := List.cons_ne_nil _ _
  exact ⟨get, failure, rfl, rfl, hfailure, hnames, hsame hmethods,
    fun hfile => hmethods (hiff.mp hfile)⟩

/-- Of an endpoint that takes a reserved name for a part of its url, the name is told and not the
file that it was read from. -/
theorem failure_without_file :
    ∃ (e : Endpoint) (failure : GenerationFailure),
      e.name ≠ "" ∧ e.origin = some "spec/get.json" ∧ generate [e] {} = .error failure ∧
      failure.message =
        "get: url part 'base' in '/\x7bbase\x7d' collides with a generated parameter" ∧
      ¬Text.Occurs "spec/get.json" failure.message := by
  let get : Endpoint :=
    { name := "get", methods := [.get], origin := some "spec/get.json",
      paths := [⟨"/{base}", [.literal "/", .param "base"]⟩] }
  let failure : GenerationFailure := get.failure (.reservedPart "base" "/{base}")
  have hfailure : generate [get] {} = .error failure := by
    subst failure get
    rfl
  have hmessage : failure.message =
      "get: url part 'base' in '/\x7bbase\x7d' collides with a generated parameter" := by decide
  refine ⟨get, failure, by decide, rfl, hfailure, hmessage, ?_⟩
  rintro ⟨before, after, heq⟩
  -- the message has no full stop
  have hstop : '.' ∉ failure.message.toList := by
    rw [hmessage]
    decide
  refine hstop ?_
  rw [heq]
  simp

end Routewright
