import Routewright.Description.Extraction
import Routewright.Proofs.Json

/-!
# Entry after entry

The entries of all documents are taken one after the other (`endpoints_eq`), and the first that
declares no endpoint ends the run (`declareAll_eq_error_iff`). Nearly all that can be wrong with an
entry is told as a fault of it. What is not told is that it is well formed but for a name that is no
text, or that an integer would have to be written that has too many digits
(`Entry.endpoint_eq_irregular_iff`).
-/

namespace Routewright

open Outcome

/-! ## Checks -/

namespace Checked

variable {α β : Type}

theorem map_eq_valid {c : Checked α} {f : α → β} {y : β} :
    c.map f = .valid y ↔ ∃ x, c = .valid x ∧ f x = y := by
  cases c <;> simp [map]

theorem under_eq_valid {c : Checked α} {step : Step} {x : α} :
    c.under step = .valid x ↔ c = .valid x := by
  cases c <;> simp [under]

/-- Two checks together pass if both do. -/
theorem ap_eq_valid {f : Checked (α → β)} {c : Checked α} {y : β} :
    f.ap c = .valid y ↔ ∃ g x, f = .valid g ∧ c = .valid x ∧ g x = y := by
  cases f <;> cases c <;> simp [ap]

theorem validate_eq_ok {c : Checked α} {model : String} {x : α} :
    c.validate model = .ok x ↔ c = .valid x := by
  cases c <;> simp [validate]

/-- A check that passes. -/
def IsValid (c : Checked α) : Prop :=
  ∃ x, c = .valid x

theorem isValid_map {c : Checked α} (f : α → β) : (c.map f).IsValid ↔ c.IsValid := by
  simp [IsValid, map_eq_valid]

theorem isValid_under {c : Checked α} (step : Step) : (c.under step).IsValid ↔ c.IsValid := by
  simp [IsValid, under_eq_valid]

theorem isValid_ap {f : Checked (α → β)} {c : Checked α} :
    (f.ap c).IsValid ↔ f.IsValid ∧ c.IsValid := by
  simp [IsValid, ap_eq_valid]

end Checked

/-- A value that is taken for a text. -/
def Value.IsName (v : Value) : Prop :=
  (Checked.text v).IsValid

/-! ## Parts -/

namespace Description

/-- The entries that declare parts. -/
def partEntries (v : Value) : List (Value × Value) :=
  match v.opened with
  | .map entries => entries
  | _ => []

/-- The type of a part, named by its value or by the field of it that is for types. -/
def declaredType (v : Value) : SpecType :=
  SpecType.ofDeclared <| match v.opened with
    | .map entries => Value.field entries "type"
    | _ => v

theorem partType_eq_ok {v : Value} {type : SpecType} (h : partType v = .ok type) :
    type = declaredType v := by
  unfold partType at h
  dsimp only at h
  split_ifs at h
  exact (Except.ok.inj h).symm

theorem parts_eq_ok {v : Value} {parts : List (Value × SpecType)}
    (h : Description.parts v = .ok parts) :
    parts = (partEntries v).map fun part => (part.1, declaredType part.2) := by
  unfold Description.parts at h
  unfold partEntries
  split at h
  · next hopened =>
    cases h
    rw [hopened]
    rfl
  · next entries hopened =>
    rw [hopened, ← List.forall₂_eq_eq_eq, List.forall₂_map_right_iff]
    refine (mapM_eq_ok.mp h).flip.imp fun part entry hpart => ?_
    obtain ⟨type, htype, hpart⟩ := bind_eq_ok.mp hpart
    cases hpart
    rw [partType_eq_ok htype]
  · cases h

/-- Parts are taken if their names are texts. -/
theorem isValid_namedParts :
    ∀ {parts : List (Value × SpecType)},
      (namedParts parts).IsValid ↔ ∀ part ∈ parts, part.1.IsName
  | [] => iff_of_true ⟨[], rfl⟩ nofun
  | (key, type) :: parts => by
    rw [namedParts, Checked.isValid_ap, Checked.isValid_map, Checked.isValid_map, Checked.textKey,
      Checked.isValid_under, Checked.isValid_under, isValid_namedParts, List.forall_mem_cons]
    rfl

/-! ## Entries -/

/-- An entry of a document, with the place that the document comes from. -/
structure Entry where
  origin : String
  name : Value
  descriptor : Value

namespace Entry

/-- The endpoint that an entry declares. -/
def endpoint (e : Entry) : Except DescriptionFailure Endpoint :=
  Description.endpoint e.origin e.name e.descriptor

/-- What an entry declares before its names are looked at. -/
def declared (e : Entry) : Except Refusal (Checked Endpoint) :=
  Description.declared e.origin e.name e.descriptor

/-- The names of the parts that an entry declares. -/
def partNames (e : Entry) : List Value :=
  match e.descriptor.opened with
  | .map fields =>
    match (Value.field fields "url").opened with
    | .map url =>
      match (Value.field url "parts").opened with
      | .map parts => parts.map Prod.fst
      | _ => []
    | _ => []
  | _ => []

/-- Why an entry ends a run although it is not at fault. -/
inductive Stops (e : Entry) : Prop
  /-- Its name is an integer that has too many digits to be written. -/
  | longName : ¬e.name.hasText → Stops e
  /-- Something else that has to be written is such an integer, or holds one. -/
  | longInteger : e.declared = .error .longInteger → Stops e
  /-- It is well formed, but its name or that of one of its parts is no text. -/
  | names {checked : Checked Endpoint} : e.declared = .ok checked →
      (¬e.name.IsName ∨ ∃ name ∈ e.partNames, ¬name.IsName) → Stops e

variable {e : Entry}

theorem partNames_eq {fields url : Document} (hfields : e.descriptor.opened = .map fields)
    (hurl : (Value.field fields "url").opened = .map url) :
    e.partNames = (partEntries (Value.field url "parts")).map Prod.fst := by
  rw [partNames, hfields]
  dsimp only
  rw [hurl, partEntries]
  dsimp only
  cases (Value.field url "parts").opened <;> rfl

/-- A well formed entry declares an endpoint if its name and those of its parts are texts. -/
theorem isValid_of_declared {checked : Checked Endpoint} (h : e.declared = .ok checked) :
    checked.IsValid ↔ e.name.IsName ∧ ∀ name ∈ e.partNames, name.IsName := by
  unfold declared Description.declared at h
  split at h
  · next fields hfields =>
    split at h
    · next url hurl =>
      obtain ⟨paths, -, h⟩ := bind_eq_ok.mp h
      obtain ⟨documentation, -, h⟩ := bind_eq_ok.mp h
      obtain ⟨methods, -, h⟩ := bind_eq_ok.mp h
      obtain ⟨parts, hparts, h⟩ := bind_eq_ok.mp h
      obtain ⟨body, -, h⟩ := bind_eq_ok.mp h
      cases h
      rw [Checked.isValid_ap, Checked.isValid_map, Checked.isValid_under, Checked.isValid_under,
        partTable, Checked.isValid_map, isValid_namedParts, partNames_eq hfields hurl,
        parts_eq_ok hparts, List.forall_mem_map, List.forall_mem_map]
      rfl
    · cases h
  · cases h

theorem stops_iff_of_declared {checked : Checked Endpoint} (hname : e.name.hasText)
    (h : e.declared = .ok checked) : e.Stops ↔ ¬checked.IsValid := by
  rw [isValid_of_declared h, not_and_or]
  push Not
  constructor
  · rintro (hlong | hlong | ⟨-, hnames⟩)
    · exact absurd hname hlong
    · cases h.symm.trans hlong
    · exact hnames
  · exact fun hnames => .names h hnames

/-- What ends a run with an entry and is no fault of it. -/
theorem endpoint_eq_irregular_iff :
    (∃ irregularity, e.endpoint = .error (.irregular irregularity)) ↔ e.Stops := by
  unfold endpoint Description.endpoint
  by_cases hname : e.name.hasText
  · rw [if_neg (by simpa using hname)]
    rcases h : Description.declared e.origin e.name e.descriptor with (fault | _) | checked
    · refine iff_of_false (fun ⟨_, h⟩ => nomatch h) ?_
      rintro (hlong | hlong | ⟨hok, -⟩)
      · exact hlong hname
      · cases h.symm.trans hlong
      · cases h.symm.trans hok
    · exact iff_of_true ⟨_, rfl⟩ (.longInteger h)
    · rw [stops_iff_of_declared hname h]
      cases checked with
      | valid endpoint => exact iff_of_false (fun ⟨_, h⟩ => nomatch h) fun h => h ⟨endpoint, rfl⟩
      | invalid misfits => exact iff_of_true ⟨_, rfl⟩ fun ⟨_, h⟩ => nomatch h
  · rw [if_pos (by simpa using hname)]
    exact iff_of_true ⟨_, rfl⟩ (.longName hname)

/-- A fault of an entry is told with the place that its document comes from. -/
theorem endpoint_eq_fault {fault : DescriptionFault} (h : e.endpoint = .error (.fault fault)) :
    ∃ endpointFault, fault = .endpoint e.name.display e.origin endpointFault := by
  unfold endpoint Description.endpoint at h
  split_ifs at h
  · cases h
  split at h
  · next endpointFault _ =>
    cases h
    exact ⟨endpointFault, rfl⟩
  · cases h
  · obtain ⟨_, -, heq⟩ := mapError_eq_error.mp h
    cases heq

/-- What an entry declares is read from the fields of its descriptor, one by one. -/
theorem endpoint_eq_ok {endpoint : Endpoint} (h : e.endpoint = .ok endpoint) :
    ∃ fields url parts, e.descriptor.opened = .map fields ∧
      (Value.field fields "url").opened = .map url ∧
      Checked.text e.name = .valid endpoint.name ∧ endpoint.origin = some e.origin ∧
      Description.paths url = .ok endpoint.paths ∧
      Description.documentation (Value.field fields "documentation") =
        .ok endpoint.documentation ∧
      Description.methods (Value.field fields "methods") = .ok endpoint.methods ∧
      Description.parts (Value.field url "parts") = .ok parts ∧
      partTable parts = .valid endpoint.parts ∧
      Description.body (Value.field fields "body") = .ok endpoint.body := by
  unfold Entry.endpoint Description.endpoint at h
  split_ifs at h
  split at h
  · cases h
  · cases h
  · next checked hdeclared =>
    obtain rfl := Checked.validate_eq_ok.mp (mapError_eq_ok.mp h)
    unfold Description.declared at hdeclared
    split at hdeclared
    · next fields hfields =>
      split at hdeclared
      · next url hurl =>
        obtain ⟨paths, hpaths, h⟩ := bind_eq_ok.mp hdeclared
        obtain ⟨documentation, hdocumentation, h⟩ := bind_eq_ok.mp h
        obtain ⟨methods, hmethods, h⟩ := bind_eq_ok.mp h
        obtain ⟨parts, hparts, h⟩ := bind_eq_ok.mp h
        obtain ⟨body, hbody, h⟩ := bind_eq_ok.mp h
        obtain ⟨_, table, hbuild, htable, rfl⟩ := Checked.ap_eq_valid.mp (Except.ok.inj h)
        obtain ⟨name, hname, rfl⟩ := Checked.map_eq_valid.mp hbuild
        exact ⟨fields, url, parts, hfields, hurl, Checked.under_eq_valid.mp hname, rfl, hpaths,
          hdocumentation, hmethods, hparts, Checked.under_eq_valid.mp htable, hbody⟩
      · cases hdeclared
    · cases hdeclared

/-- An endpoint has the text for its name that its entry is declared under. -/
theorem text_name_eq {endpoint : Endpoint} (h : e.endpoint = .ok endpoint) :
    Checked.text e.name = .valid endpoint.name := by
  obtain ⟨_, _, _, -, -, hname, -⟩ := endpoint_eq_ok h
  exact hname

end Entry

end Description

/-! ## Values of JSON -/

namespace Value

theorem allHaveText_iff : ∀ {items : List Value}, allHaveText items ↔ ∀ v ∈ items, v.hasText
  | [] => iff_of_true rfl nofun
  | v :: items => by
    rw [allHaveText, Bool.and_eq_true, allHaveText_iff, List.forall_mem_cons]

theorem allEntriesHaveText_iff :
    ∀ {entries : List (Value × Value)},
      allEntriesHaveText entries ↔ ∀ e ∈ entries, e.1.hasText ∧ e.2.hasText
  | [] => iff_of_true rfl nofun
  | (k, v) :: entries => by
    rw [allEntriesHaveText, Bool.and_eq_true, Bool.and_eq_true, allEntriesHaveText_iff,
      List.forall_mem_cons]

namespace IsJson

variable {v : Value} {entries : List (Value × Value)}

/-- Every value of JSON can be written. -/
theorem hasText (h : v.IsJson) : v.hasText := by
  induction h with
  | null | bool | float | text => rfl
  | int h => exact h
  | list _ ih => exact allHaveText_iff.mpr ih
  | map hkeys _ ih =>
    refine allEntriesHaveText_iff.mpr fun e he => ⟨?_, ih e he⟩
    obtain ⟨name, hname⟩ := hkeys e he
    rw [hname]
    rfl

theorem opened_eq (h : v.IsJson) : v.opened = v := by
  cases h <;> rfl

theorem of_opened {w : Value} (h : v.IsJson) (hw : v.opened = w) : w.IsJson := by
  rw [← hw, h.opened_eq]
  exact h

theorem find? {key : String} :
    ∀ {entries : List (Value × Value)}, (Value.map entries).IsJson →
      Value.find? key entries = some v → v.IsJson
  | [], _, h => nomatch h
  | (k, w) :: entries, hentries, h => by
    obtain ⟨⟨⟨name, rfl⟩, hw⟩, hrest⟩ := List.forall_mem_cons.mp (isJson_map_iff.mp hentries)
    rw [Value.find?] at h
    split_ifs at h
    · cases h
      exact hw
    · exact find? (isJson_map_iff.mpr hrest) h

theorem field (h : (Value.map entries).IsJson) (key : String) :
    (Value.field entries key).IsJson := by
  unfold Value.field
  cases hfound : Value.find? key entries with
  | none => exact .null
  | some v => exact h.find? hfound

end IsJson

end Value

/-! ## Entries of JSON

All of JSON can be written, so that no check of an entry ends at an integer of too many digits.
-/

namespace Description

variable {v : Value} {url : Document}

theorem written_eq (h : v.IsJson) : written v = .ok v.display :=
  if_pos h.hasText

theorem textIfPresent_ne_longInteger (h : v.IsJson) : textIfPresent v ≠ .error .longInteger := by
  unfold textIfPresent
  rw [written_eq h]
  split_ifs <;> exact nofun

theorem documentation_ne_longInteger (h : v.IsJson) : documentation v ≠ .error .longInteger := by
  unfold documentation
  split
  · exact nofun
  · next fields hopened =>
    have hfields := h.of_opened hopened
    refine textIfPresent_ne_longInteger ?_
    unfold orElse
    split_ifs
    · exact hfields.field "url"
    · exact hfields.field "description"
  · rw [written_eq h]
    exact nofun

theorem addMethods_ne_longInteger :
    ∀ {items : List Value} {methods : List HttpMethod}, (∀ v ∈ items, v.IsJson) →
      addMethods methods items ≠ .error .longInteger
  | [], _, _ => nofun
  | v :: items, methods, h => by
    obtain ⟨hv, hitems⟩ := List.forall_mem_cons.mp h
    rw [addMethods, written_eq hv, ok_bind]
    split
    · exact nofun
    · exact addMethods_ne_longInteger hitems

theorem methods_ne_longInteger (h : v.IsJson) : methods v ≠ .error .longInteger := by
  unfold methods
  split
  · exact nofun
  · next hopened =>
    cases h.of_opened hopened with
    | list hitems => exact addMethods_ne_longInteger hitems
  · exact nofun

theorem isJson_of_templates {vs : List Value} (h : (Value.map url).IsJson)
    (hvs : templates url = .ok vs) : ∀ v ∈ vs, v.IsJson := by
  unfold templates at hvs
  split at hvs
  · split at hvs
    · cases hvs
    · cases hvs
      exact List.forall_mem_singleton.mpr (h.field "path")
  · cases hvs
  · next hopened =>
    cases hvs
    cases (h.field "paths").of_opened hopened with
    | list hitems => exact hitems
  · cases hvs

theorem path_ne_longInteger (h : v.IsJson) : path v ≠ .error .longInteger := by
  unfold path
  split
  · intro hpath
    obtain ⟨_, -, heq⟩ := mapError_eq_error.mp hpath
    cases heq
  · rw [if_pos h.hasText]
    exact nofun

theorem paths_ne_longInteger (h : (Value.map url).IsJson) : paths url ≠ .error .longInteger := by
  intro hpaths
  rcases bind_eq_error.mp hpaths with hpaths | ⟨vs, hvs, hpaths⟩
  · obtain ⟨_, -, heq⟩ := mapError_eq_error.mp hpaths
    cases heq
  · obtain ⟨v, hv, hpath⟩ := exists_of_mapM_eq_error hpaths
    exact path_ne_longInteger (isJson_of_templates h (mapError_eq_ok.mp hvs) v hv) hpath

theorem partType_ne_longInteger (h : v.IsJson) : partType v ≠ .error .longInteger := by
  unfold partType
  split
  · next fields hopened =>
    rw [if_pos ((h.of_opened hopened).field "type").hasText]
    exact nofun
  · rw [if_pos h.hasText]
    exact nofun

theorem parts_ne_longInteger (h : v.IsJson) : parts v ≠ .error .longInteger := by
  unfold parts
  split
  · exact nofun
  · next entries hopened =>
    intro hparts
    obtain ⟨e, he, hpart⟩ := exists_of_mapM_eq_error hparts
    rcases bind_eq_error.mp hpart with hpart | ⟨_, -, hpart⟩
    · have hentry := Value.isJson_map_iff.mp (h.of_opened hopened) e he
      exact partType_ne_longInteger hentry.2 hpart
    · cases hpart
  · exact nofun

theorem body_ne_longInteger (h : v.IsJson) : body v ≠ .error .longInteger := by
  unfold body
  split
  · exact nofun
  · next fields hopened =>
    intro hbody
    rcases bind_eq_error.mp hbody with hbody | ⟨_, -, hbody⟩
    · exact textIfPresent_ne_longInteger ((h.of_opened hopened).field "description") hbody
    · cases hbody
  · exact nofun

namespace Entry

variable {e : Entry}

theorem declared_ne_longInteger (hv : e.descriptor.IsJson) : e.declared ≠ .error .longInteger := by
  unfold declared Description.declared
  split
  · next fields hopened =>
    have hfields := hv.of_opened hopened
    split
    · next url hopenedUrl =>
      have hurl := (hfields.field "url").of_opened hopenedUrl
      intro h
      rcases bind_eq_error.mp h with h | ⟨_, -, h⟩
      · exact paths_ne_longInteger hurl h
      rcases bind_eq_error.mp h with h | ⟨_, -, h⟩
      · exact documentation_ne_longInteger (hfields.field "documentation") h
      rcases bind_eq_error.mp h with h | ⟨_, -, h⟩
      · exact methods_ne_longInteger (hfields.field "methods") h
      rcases bind_eq_error.mp h with h | ⟨_, -, h⟩
      · exact parts_ne_longInteger (hurl.field "parts") h
      rcases bind_eq_error.mp h with h | ⟨_, -, h⟩
      · exact body_ne_longInteger (hfields.field "body") h
      · cases h
    · exact nofun
  · exact nofun

theorem partNames_of_isJson (hv : e.descriptor.IsJson) :
    ∀ part ∈ e.partNames, ∃ name, part = .text name := by
  unfold partNames
  split
  · next fields hopened =>
    have hfields := hv.of_opened hopened
    split
    · next url hopenedUrl =>
      have hurl := (hfields.field "url").of_opened hopenedUrl
      split
      · next parts hopenedParts =>
        have hparts := (hurl.field "parts").of_opened hopenedParts
        exact List.forall_mem_map.mpr fun part hpart =>
          (Value.isJson_map_iff.mp hparts part hpart).1
      · exact nofun
    · exact nofun
  · exact nofun

/-- An entry of JSON is told about whatever is wrong with it. -/
theorem not_stops_of_isJson {name : String} (hname : e.name = .text name)
    (hv : e.descriptor.IsJson) : ¬e.Stops := by
  rintro (hlong | hlong | ⟨-, hnames⟩)
  · rw [hname] at hlong
    exact hlong rfl
  · exact declared_ne_longInteger hv hlong
  · rcases hnames with h | ⟨part, hpart, h⟩
    · rw [hname] at h
      exact h ⟨name, rfl⟩
    · obtain ⟨name, rfl⟩ := partNames_of_isJson hv part hpart
      exact h ⟨name, rfl⟩

end Entry

/-! ## All entries -/

/-- The entries of documents in order. -/
def entriesOf (documents : List (String × Document)) : List Entry :=
  documents.flatMap fun d => d.2.map fun e => ⟨d.1, e.1, e.2⟩

/-- The names that entries declare, the last first. -/
def declaredBy (entries : List Entry) : Declared :=
  (entries.map fun e => (e.name, e.origin)).reverse

/-- The endpoint of an entry among names that are declared. -/
def declareNext (seen : Declared) (e : Entry) : Except DescriptionFailure Endpoint :=
  match seen.find? e.name with
  | some first => .error (.fault (.duplicate e.name.display e.origin first))
  | none => e.endpoint

/-- The endpoints of entries, one entry after the other. -/
def declareAll (seen : Declared) : List Entry → Except DescriptionFailure (List Endpoint)
  | [] => .ok []
  | e :: rest => do
    let endpoint ← declareNext seen e
    return endpoint :: (← declareAll ((e.name, e.origin) :: seen) rest)

/-- The entries of one document are taken before those of the next. -/
theorem ofEntries_bind {rest : List (String × Document)}
    (ih : ∀ seen, ofDocuments seen rest = declareAll seen (entriesOf rest)) (origin : String) :
    ∀ (document : Document) (seen : Declared),
      (do let (endpoints, seen) ← ofEntries origin seen document
          return endpoints ++ (← ofDocuments seen rest)) =
        declareAll seen (document.map (fun e => ⟨origin, e.1, e.2⟩) ++ entriesOf rest)
  | [], seen => by
    rw [ofEntries, ok_bind, List.map_nil, List.nil_append, ← ih]
    exact bind_pure _
  | (name, descriptor) :: document, seen => by
    have ihdocument := ofEntries_bind ih origin document ((name, origin) :: seen)
    rw [ofEntries, List.map_cons, List.cons_append, declareAll, declareNext, ← ihdocument]
    cases seen.find? name with
    | some first => rfl
    | none =>
      dsimp only [Entry.endpoint]
      cases endpoint origin name descriptor with
      | error failure => rfl
      | ok e =>
        simp only [ok_bind, pure_eq_ok]
        cases ofEntries origin ((name, origin) :: seen) document with
        | error failure => rfl
        | ok more =>
          simp only [ok_bind]
          cases ofDocuments more.2 rest <;> rfl

theorem ofDocuments_eq :
    ∀ (documents : List (String × Document)) (seen : Declared),
      ofDocuments seen documents = declareAll seen (entriesOf documents)
  | [], _ => rfl
  | (origin, document) :: rest, seen => by
    rw [ofDocuments, ofEntries_bind (ofDocuments_eq rest) origin document seen]
    rfl

/-- Documents are taken entry after entry. -/
theorem endpoints_eq (documents : List (String × Document)) :
    endpoints documents = declareAll [] (entriesOf documents) :=
  ofDocuments_eq documents []

/-! ## Where a run ends -/

theorem declaredBy_cons (e : Entry) (entries : List Entry) (seen : Declared) :
    declaredBy (e :: entries) ++ seen = declaredBy entries ++ (e.name, e.origin) :: seen := by
  simp [declaredBy]

theorem declareAll_append (after : List Entry) :
    ∀ (before : List Entry) (seen : Declared),
      declareAll seen (before ++ after) = (do
        let endpoints ← declareAll seen before
        return endpoints ++ (← declareAll (declaredBy before ++ seen) after))
  | [], seen => by
    rw [List.nil_append, declareAll, ok_bind]
    exact (bind_pure _).symm
  | e :: before, seen => by
    rw [List.cons_append, declareAll, declareAll, declaredBy_cons, declareAll_append after before]
    cases declareNext seen e with
    | error failure => rfl
    | ok endpoint =>
      simp only [ok_bind, pure_eq_ok]
      cases declareAll ((e.name, e.origin) :: seen) before with
      | error failure => rfl
      | ok endpoints =>
        simp only [ok_bind]
        cases declareAll (declaredBy before ++ (e.name, e.origin) :: seen) after <;> rfl

/-- A run ends with the first entry that declares no endpoint among the names of those before it. -/
theorem declareAll_eq_error_iff {failure : DescriptionFailure} {seen : Declared}
    {entries : List Entry} :
    declareAll seen entries = .error failure ↔ ∃ before e after, entries = before ++ e :: after ∧
      (∃ endpoints, declareAll seen before = .ok endpoints) ∧
      declareNext (declaredBy before ++ seen) e = .error failure := by
  constructor
  · intro h
    induction entries generalizing seen with
    | nil => cases h
    | cons e entries ih =>
      rcases bind_eq_error.mp h with h | ⟨endpoint, hendpoint, h⟩
      · exact ⟨[], e, entries, rfl, ⟨[], rfl⟩, h⟩
      rcases bind_eq_error.mp h with h | ⟨_, -, h⟩
      · obtain ⟨before, e', after, rfl, ⟨endpoints, hbefore⟩, he'⟩ := ih h
        refine ⟨e :: before, e', after, rfl, ⟨endpoint :: endpoints, ?_⟩, ?_⟩
        · rw [declareAll, hendpoint, ok_bind, hbefore]
          rfl
        · rw [declaredBy_cons]
          exact he'
      · cases h
  · rintro ⟨before, e, after, rfl, ⟨endpoints, hbefore⟩, he⟩
    rw [declareAll_append, hbefore, ok_bind, declareAll, he]
    rfl

/-- Entries that declare endpoints do so one by one, under names that differ. -/
theorem declareAll_eq_ok :
    ∀ {entries : List Entry} {seen : Declared} {endpoints : List Endpoint},
      declareAll seen entries = .ok endpoints →
      List.Forall₂ (fun e endpoint => e.endpoint = .ok endpoint) entries endpoints ∧
        entries.Pairwise (fun e e' => ¬e.name.sameKey e'.name) ∧
        ∀ e ∈ entries, ∀ d ∈ seen, ¬d.1.sameKey e.name
  | [], _, _, h => by
    cases h
    exact ⟨.nil, .nil, nofun⟩
  | e :: entries, seen, _, h => by
    obtain ⟨endpoint, hendpoint, h⟩ := bind_eq_ok.mp h
    obtain ⟨endpoints, hrest, h⟩ := bind_eq_ok.mp h
    cases h
    obtain ⟨hall, hdistinct, hnew⟩ := declareAll_eq_ok hrest
    unfold declareNext at hendpoint
    split at hendpoint
    · cases hendpoint
    · next hfree =>
      have hfirst : ∀ d ∈ seen, ¬d.1.sameKey e.name := by
        rw [Declared.find?, Option.map_eq_none_iff, List.find?_eq_none] at hfree
        exact hfree
      refine ⟨.cons hendpoint hall, .cons (fun e' he' => ?_) hdistinct, ?_⟩
      · exact hnew e' he' _ List.mem_cons_self
      · exact List.forall_mem_cons.mpr
          ⟨hfirst, fun e' he' d hd => hnew e' he' d (List.mem_cons_of_mem _ hd)⟩

end Description

end Routewright
