import Routewright.Proofs.Extraction
import Routewright.Proofs.Parameters

/-!
# Texts that are refused

Texts are loaded one after the other, and then their entries are taken one after the other. What is
wrong with a text or an entry is told as a fault, which names the place that the text comes from
(`Description.FailsAt`). A run may end without a fault : at a number, a date or a character that has
the form of one and is none, at a number of too many digits, at a text of too many levels, and at a
well formed entry whose name or whose part has a name that is no text (`Description.Stops`). These
are all the ways in which nothing is told (`told_iff_not_stops`).
-/

namespace Routewright

open Outcome

/-! ## Texts -/

/-- A text with the place that it comes from and what is known about its notation. -/
structure SourceText where
  origin : String
  text : String
  hint : Notation

namespace SourceText

/-- The document of a text, with the place that it comes from. -/
def document (room : Nat) (s : SourceText) : Except DescriptionFailure (String × Document) := do
  return (s.origin, ← Document.parse room s.origin s.text s.hint)

/-- A text that is read as YAML : nothing else comes into question, or it is not known what it is,
and it is no JSON. -/
def IsTriedAsYaml (room : Nat) (s : SourceText) : Prop :=
  s.hint = .yaml ∨ s.hint = .unknown ∧ ∃ fault, Json.parse (room - 1) s.text = .error fault ∧
    fault.kind ≠ .tooDeep ∧ ∀ digits, fault.kind ≠ .longInteger digits

/-- Why a text ends a run although it is not at fault. -/
inductive Stops (room : Nat) (s : SourceText) : Prop
  /-- It has an integer of more digits than are read. -/
  | longInteger {digits offset : Nat} : s.hint ≠ .yaml →
      Json.parse (room - 1) s.text = .error ⟨.longInteger digits, offset⟩ → Stops room s
  /-- It has more levels of values than are read. -/
  | tooDeep {offset : Nat} : s.hint ≠ .yaml →
      Json.parse (room - 1) s.text = .error ⟨.tooDeep, offset⟩ → Stops room s
  /-- It is YAML as such, and a scalar of it has no value, or it has too many levels. -/
  | yaml {fault : Yaml.Fault} : s.IsTriedAsYaml room →
      Yaml.load (Document.yamlLevels room) s.text.toList = .error fault → ¬fault.isSyntactic →
      Stops room s

variable {room : Nat} {s : SourceText}

theorem document_eq_error_iff {failure : DescriptionFailure} :
    s.document room = .error failure ↔
      Document.parse room s.origin s.text s.hint = .error failure := by
  unfold document
  cases Document.parse room s.origin s.text s.hint <;> simp

/-- A fault of a document is told with the place that it comes from. -/
theorem occurs_origin (origin : String) (fault : DocumentFault) :
    Text.Occurs origin (DescriptionFault.message (.document origin fault)) := by
  have hfailed (more : String) : Text.Occurs origin ("Failed to parse " ++ origin ++ more) :=
    ⟨"Failed to parse ", more, rfl⟩
  cases fault with
  | notObject found => exact ((hfailed _).append _).append _
  | json text fault => exact (hfailed _).append _
  | neither asJson => exact ((hfailed _).append _).append _

end SourceText

namespace Document

variable {room : Nat} {origin text : String}

theorem ofValue_eq_error {nothing : String} {v : Value} {failure : DescriptionFailure}
    (h : ofValue origin nothing v = .error failure) :
    ∃ found, failure = .fault (.document origin (.notObject found)) := by
  unfold ofValue at h
  split at h <;> cases h <;> exact ⟨_, rfl⟩

/-- A text is refused as YAML with a fault, unless a scalar or its depth is what is wrong. -/
theorem ofYaml_eq_error {json : Option Json.Fault} {failure : DescriptionFailure}
    (h : ofYaml room origin text json = .error failure) :
    (∃ fault, failure = .fault (.document origin fault)) ∨
      (∃ irregularity, failure = .irregular irregularity) ∧ ∃ fault,
        Yaml.load (yamlLevels room) text.toList = .error fault ∧ ¬fault.isSyntactic := by
  unfold ofYaml at h
  split at h
  · obtain ⟨found, rfl⟩ := ofValue_eq_error h
    exact .inl ⟨_, rfl⟩
  · next fault hfault =>
    split at h
    · cases h
      exact .inl ⟨_, rfl⟩
    · next hsyntactic =>
      cases h
      exact .inr ⟨⟨_, rfl⟩, fault, hfault, hsyntactic⟩

theorem ofYaml_of_error {json : Option Json.Fault} {fault : Yaml.Fault}
    (h : Yaml.load (yamlLevels room) text.toList = .error fault) (hsyntactic : ¬fault.isSyntactic) :
    ∃ irregularity, ofYaml room origin text json = .error (.irregular irregularity) := by
  unfold ofYaml
  rw [h]
  dsimp only
  rw [if_neg hsyntactic]
  exact ⟨_, rfl⟩

end Document

namespace SourceText

variable {room : Nat} {s : SourceText}

/-- A text that is refused is at fault, or ends the run. -/
theorem document_eq_error {failure : DescriptionFailure} (h : s.document room = .error failure) :
    (∃ fault, failure = .fault (.document s.origin fault)) ∨
      (∃ irregularity, failure = .irregular irregularity) ∧ s.Stops room := by
  rw [document_eq_error_iff] at h
  unfold Document.parse at h
  by_cases hyaml : s.hint = .yaml
  · rw [if_pos hyaml] at h
    refine (Document.ofYaml_eq_error h).imp_right ?_
    exact fun ⟨hfailure, fault, hfault, hsyntactic⟩ =>
      ⟨hfailure, .yaml (.inl hyaml) hfault hsyntactic⟩
  · rw [if_neg hyaml] at h
    split at h
    · obtain ⟨found, rfl⟩ := Document.ofValue_eq_error h
      exact .inl ⟨_, rfl⟩
    · next fault hfault =>
      obtain ⟨kind, offset⟩ := fault
      dsimp only at h
      split at h
      · cases h
        exact .inr ⟨⟨_, rfl⟩, .longInteger hyaml hfault⟩
      · cases h
        exact .inr ⟨⟨_, rfl⟩, .tooDeep hyaml hfault⟩
      · next hlong hdeep =>
        split at h
        · cases h
          exact .inl ⟨_, rfl⟩
        · next hjson =>
          have htried : s.IsTriedAsYaml room := by
            refine .inr ⟨?_, _, hfault, hdeep, hlong⟩
            cases hhint : s.hint with
            | json => exact absurd hhint hjson
            | yaml => exact absurd hhint hyaml
            | unknown => rfl
          refine (Document.ofYaml_eq_error h).imp_right ?_
          exact fun ⟨hfailure, fault, hfault, hsyntactic⟩ =>
            ⟨hfailure, .yaml htried hfault hsyntactic⟩

/-- A text that ends a run is not told as a fault. -/
theorem Stops.document_eq (h : s.Stops room) :
    ∃ irregularity, s.document room = .error (.irregular irregularity) := by
  simp only [document_eq_error_iff]
  unfold Document.parse
  cases h with
  | longInteger hyaml hparse =>
    rw [if_neg hyaml, hparse]
    exact ⟨_, rfl⟩
  | tooDeep hyaml hparse =>
    rw [if_neg hyaml, hparse]
    exact ⟨_, rfl⟩
  | yaml htried hload hsyntactic =>
    rcases htried with hyaml | ⟨hunknown, fault, hfault, hdeep, hlong⟩
    · rw [if_pos hyaml]
      exact Document.ofYaml_of_error hload hsyntactic
    · rw [hunknown, if_neg nofun, hfault]
      dsimp only
      split
      · next hkind => exact absurd hkind (hlong _)
      · next hkind => exact absurd hkind hdeep
      · rw [if_neg nofun]
        exact Document.ofYaml_of_error hload hsyntactic

end SourceText

/-! ## Runs -/

namespace Description

/-- The endpoints that texts declare. -/
def ofTexts (room : Nat) (sources : List SourceText) :
    Except DescriptionFailure (List Endpoint) := do
  endpoints (← sources.mapM fun s => s.document room)

/-- The place that the text comes from with which a run fails : it is the first that has no
document, or all have one and it has the first entry that declares no endpoint. -/
inductive FailsAt (room : Nat) (sources : List SourceText) : String → Prop
  | text {before : List SourceText} {s : SourceText} {after : List SourceText} :
      sources = before ++ s :: after → (∀ b ∈ before, ∃ d, b.document room = .ok d) →
      (∀ d, s.document room ≠ .ok d) → FailsAt room sources s.origin
  | entry {documents : List (String × Document)} {before : List Entry} {e : Entry}
      {after : List Entry} :
      (sources.mapM fun s => s.document room) = .ok documents →
      entriesOf documents = before ++ e :: after →
      (∃ endpoints, declareAll [] before = .ok endpoints) →
      (∀ endpoints, declareAll [] (before ++ [e]) ≠ .ok endpoints) → FailsAt room sources e.origin

/-- Why a run ends although nothing that it reads is at fault. -/
inductive Stops (room : Nat) (sources : List SourceText) : Prop
  /-- The first text that has no document stops it. -/
  | text {before : List SourceText} {s : SourceText} {after : List SourceText} :
      sources = before ++ s :: after → (∀ b ∈ before, ∃ d, b.document room = .ok d) →
      s.Stops room → Stops room sources
  /-- The first entry that declares no endpoint stops it, with a name that is new. -/
  | entry {documents : List (String × Document)} {before : List Entry} {e : Entry}
      {after : List Entry} :
      (sources.mapM fun s => s.document room) = .ok documents →
      entriesOf documents = before ++ e :: after →
      (∃ endpoints, declareAll [] before = .ok endpoints) →
      (declaredBy before).find? e.name = none → e.Stops → Stops room sources

variable {room : Nat} {sources : List SourceText}

theorem occurs_origin_endpoint (name origin : String) (fault : EndpointFault) :
    Text.Occurs origin (DescriptionFault.message (.endpoint name origin fault)) := by
  have hwhere : Text.Occurs origin ("Failed to parse endpoint '" ++ name ++ "' in " ++ origin) :=
    ⟨"Failed to parse endpoint '" ++ name ++ "' in ", "", String.append_empty.symm⟩
  exact (hwhere.append _).append _

theorem occurs_origin_duplicate (name origin first : String) :
    Text.Occurs origin (DescriptionFault.message (.duplicate name origin first)) := by
  have hwhere : Text.Occurs origin ("Endpoint '" ++ name ++ "' in " ++ origin) :=
    ⟨"Endpoint '" ++ name ++ "' in ", "", String.append_empty.symm⟩
  exact (hwhere.append _).append _

/-- An entry that declares no endpoint is at fault, or ends the run. -/
theorem declareNext_eq_error {seen : Declared} {e : Entry} {failure : DescriptionFailure}
    (h : declareNext seen e = .error failure) :
    (∃ fault, failure = .fault fault ∧ Text.Occurs e.origin fault.message) ∨
      (∃ irregularity, failure = .irregular irregularity) ∧ seen.find? e.name = none ∧ e.Stops := by
  unfold declareNext at h
  split at h
  · next first _ =>
    cases h
    exact .inl ⟨_, rfl, occurs_origin_duplicate _ _ _⟩
  · next hfree =>
    cases failure with
    | fault fault =>
      obtain ⟨endpointFault, rfl⟩ := Entry.endpoint_eq_fault h
      exact .inl ⟨_, rfl, occurs_origin_endpoint _ _ _⟩
    | irregular irregularity =>
      exact .inr ⟨⟨_, rfl⟩, hfree, Entry.endpoint_eq_irregular_iff.mp ⟨_, h⟩⟩

/-- The first of entries that declares no endpoint stops a run, with a name that is new. -/
def StopsAt (entries : List Entry) : Prop :=
  ∃ before e after, entries = before ++ e :: after ∧
    (∃ endpoints, declareAll [] before = .ok endpoints) ∧
    (declaredBy before).find? e.name = none ∧ e.Stops

/-- Entries end a run without a fault just when one of them stops it. -/
theorem declareAll_eq_irregular_iff {entries : List Entry} :
    (∃ irregularity, declareAll [] entries = .error (.irregular irregularity)) ↔
      StopsAt entries := by
  constructor
  · rintro ⟨irregularity, h⟩
    obtain ⟨before, e, after, hentries, hbefore, he⟩ := declareAll_eq_error_iff.mp h
    rcases declareNext_eq_error he with ⟨_, heq, -⟩ | ⟨-, hfree, hstops⟩
    · cases heq
    · rw [List.append_nil] at hfree
      exact ⟨before, e, after, hentries, hbefore, hfree, hstops⟩
  · rintro ⟨before, e, after, hentries, hbefore, hfree, hstops⟩
    obtain ⟨irregularity, he⟩ := Entry.endpoint_eq_irregular_iff.mpr hstops
    have hnext : declareNext (declaredBy before ++ []) e = .error (.irregular irregularity) := by
      rw [List.append_nil, declareNext, hfree]
      exact he
    exact ⟨irregularity, declareAll_eq_error_iff.mpr ⟨before, e, after, hentries, hbefore, hnext⟩⟩

/-- A run that fails is told where it fails, or is stopped. -/
theorem ofTexts_eq_error {failure : DescriptionFailure}
    (h : ofTexts room sources = .error failure) :
    (∃ origin fault, FailsAt room sources origin ∧ failure = .fault fault ∧
        Text.Occurs origin fault.message) ∨
      (∃ irregularity, failure = .irregular irregularity) ∧ Stops room sources := by
  rcases bind_eq_error.mp h with h | ⟨documents, hdocuments, h⟩
  · obtain ⟨before, s, after, hsources, hbefore, hs⟩ := mapM_eq_error_iff.mp h
    rcases SourceText.document_eq_error hs with ⟨fault, rfl⟩ | ⟨hfailure, hstops⟩
    · have hfails : ∀ d, s.document room ≠ .ok d := fun d hd => nomatch hs.symm.trans hd
      exact .inl ⟨s.origin, _, .text hsources hbefore hfails, rfl, SourceText.occurs_origin _ _⟩
    · exact .inr ⟨hfailure, .text hsources hbefore hstops⟩
  · rw [endpoints_eq] at h
    obtain ⟨before, e, after, hentries, hbefore, he⟩ := declareAll_eq_error_iff.mp h
    rcases declareNext_eq_error he with ⟨fault, rfl, hoccurs⟩ | ⟨hfailure, hfree, hstops⟩
    · have hfails : declareAll [] (before ++ [e]) = .error (.fault fault) :=
        declareAll_eq_error_iff.mpr ⟨before, e, [], rfl, hbefore, he⟩
      exact .inl ⟨e.origin, fault, .entry hdocuments hentries hbefore
        (fun _ hok => nomatch hfails.symm.trans hok), rfl, hoccurs⟩
    · rw [List.append_nil] at hfree
      exact .inr ⟨hfailure, .entry hdocuments hentries hbefore hfree hstops⟩

/-- A run that is stopped ends without a fault. -/
theorem Stops.ofTexts_eq (h : Stops room sources) :
    ∃ irregularity, ofTexts room sources = .error (.irregular irregularity) := by
  cases h with
  | text hsources hbefore hstops =>
    obtain ⟨irregularity, hs⟩ := hstops.document_eq
    exact ⟨irregularity, bind_eq_error.mpr
      (.inl (mapM_eq_error_iff.mpr ⟨_, _, _, hsources, hbefore, hs⟩))⟩
  | entry hdocuments hentries hbefore hfree hstops =>
    obtain ⟨irregularity, hrun⟩ :=
      declareAll_eq_irregular_iff.mpr ⟨_, _, _, hentries, hbefore, hfree, hstops⟩
    rw [← endpoints_eq] at hrun
    exact ⟨irregularity, bind_eq_error.mpr (.inr ⟨_, hdocuments, hrun⟩)⟩

/-- Whatever texts are read, a run gives endpoints or a fault that names the place with which it
fails, just when nothing stops it. Escapes of half a surrogate pair on its own are left out : they
are read as the replacement character (`Json.charOf`, `Yaml.numberedChar`). -/
theorem told_iff_not_stops (room : Nat) (sources : List SourceText) :
    ((∃ endpoints, ofTexts room sources = .ok endpoints) ∨
      ∃ origin fault, FailsAt room sources origin ∧
        ofTexts room sources = .error (.fault fault) ∧ Text.Occurs origin fault.message) ↔
    ¬Stops room sources := by
  constructor
  · rintro htold hstops
    obtain ⟨irregularity, hrun⟩ := hstops.ofTexts_eq
    rcases htold with ⟨endpoints, hok⟩ | ⟨_, _, -, hfault, -⟩
    · cases hrun.symm.trans hok
    · cases hrun.symm.trans hfault
  · intro hstops
    rcases hrun : ofTexts room sources with failure | endpoints
    · rcases ofTexts_eq_error hrun with ⟨origin, fault, hfails, rfl, hoccurs⟩ | ⟨-, h⟩
      · exact .inr ⟨origin, fault, hfails, rfl, hoccurs⟩
      · exact absurd h hstops
    · exact .inl ⟨endpoints, rfl⟩

/-- A date that is not in the calendar ends a run, and nothing is told. -/
theorem stops_date :
    ∃ s : SourceText, s.origin = "a.yaml" ∧ s.text = "2001-99-99" ∧
      (ofTexts Document.usualRoom [s]) = .error (.irregular (.scalar (.node .calendar))) ∧
      ¬((∃ endpoints, ofTexts Document.usualRoom [s] = .ok endpoints) ∨
        ∃ origin fault, FailsAt Document.usualRoom [s] origin ∧
          ofTexts Document.usualRoom [s] = .error (.fault fault) ∧
          Text.Occurs origin fault.message) := by
  let s : SourceText := ⟨"a.yaml", "2001-99-99", .yaml⟩
  have hrun : ofTexts Document.usualRoom [s] = .error (.irregular (.scalar (.node .calendar))) := by
    subst s
    rfl
  refine ⟨s, rfl, rfl, hrun, ?_⟩
  rintro (⟨_, hok⟩ | ⟨_, _, -, hfault, -⟩)
  · cases hrun.symm.trans hok
  · cases hrun.symm.trans hfault

end Description

end Routewright
