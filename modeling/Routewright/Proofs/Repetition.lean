import Routewright.Proofs.Refusal

/-!
# Names that are written again

A name that two documents declare ends the run with a fault. A name that one JSON text writes again
does not : its reader keeps the last of the members of one name, and only what it keeps declares an
endpoint. So endpoints stand for all members that are written just when no text writes a name again
(`endpoints_written_iff`).
-/

namespace Routewright

open Outcome

namespace SourceText

variable {room : Nat} {s : SourceText}

/-- A text that is taken for JSON, and is some. -/
def IsJson (room : Nat) (s : SourceText) : Prop :=
  s.hint ≠ .yaml ∧ ∃ v, Json.parse (room - 1) s.text = .ok v

/-- The names of members, as often as they are written. -/
def namesOf (members : List (String × Value)) : List String :=
  members.map Prod.fst

/-- The entries that are kept of the members that a text writes : of each name the last. -/
def kept (s : SourceText) (members : List (String × Value)) : List Description.Entry :=
  (Table.ofList members).map fun m => ⟨s.origin, .text m.1, m.2⟩

/-- The names that are kept are those that are written, each once. -/
theorem map_name_kept (s : SourceText) (members : List (String × Value)) :
    (s.kept members).map Description.Entry.name =
      (Table.distinct (namesOf members)).map Value.text := by
  rw [namesOf, ← Table.keys, ← Table.keys_ofList, kept, List.map_map, Table.keys, List.map_map]
  rfl

/-- A JSON text that has a document writes the members of an object, and the document has those that
are kept. -/
theorem exists_writes (hjson : s.IsJson room) {d : String × Document}
    (h : s.document room = .ok d) :
    ∃ members, Json.Writes (room - 1) s.text members ∧ Description.entriesOf [d] = s.kept members ∧
      ∀ e ∈ s.kept members, e.descriptor.IsJson := by
  obtain ⟨hyaml, v, hv⟩ := hjson
  obtain ⟨document, hdocument, hd⟩ := bind_eq_ok.mp h
  obtain rfl := Except.ok.inj hd
  have hvJson := Json.isJson_of_parse hv
  unfold Document.parse at hdocument
  rw [if_neg hyaml, hv] at hdocument
  unfold Document.ofValue at hdocument
  dsimp only at hdocument
  rw [hvJson.opened_eq] at hdocument
  split at hdocument
  · next entries =>
    cases hdocument
    obtain ⟨members, hmembers, rfl⟩ := Json.exists_writes hv
    rw [Json.ofEntries_map_entry] at hvJson ⊢
    refine ⟨members, hmembers, ?_, List.forall_mem_map.mpr fun m hm => ?_⟩
    · rw [Description.entriesOf, List.flatMap_singleton, List.map_map]
      rfl
    · exact (Value.isJson_map_iff.mp hvJson _ (List.mem_map_of_mem hm)).2
  · cases hdocument
  · cases hdocument

end SourceText

namespace Description

variable {room : Nat} {sources : List SourceText} {documents : List (String × Document)}

/-- The entries of documents are what is kept of the members that the texts write. -/
theorem exists_written :
    ∀ {sources : List SourceText} {documents : List (String × Document)},
      (∀ s ∈ sources, s.IsJson room) →
      List.Forall₂ (fun s d => SourceText.document room s = .ok d) sources documents →
      ∃ written,
        List.Forall₂ (fun s members => Json.Writes (room - 1) s.text members) sources written ∧
        entriesOf documents = (List.zipWith SourceText.kept sources written).flatten ∧
        ∀ e ∈ entriesOf documents, e.descriptor.IsJson
  | [], [], _, .nil => ⟨[], .nil, rfl, nofun⟩
  | s :: sources, d :: documents, hjson, .cons hd hdocuments => by
    obtain ⟨hs, hsources⟩ := List.forall_mem_cons.mp hjson
    obtain ⟨written, hwritten, hentries, hvalues⟩ := exists_written hsources hdocuments
    obtain ⟨members, hmembers, hkept, hkeptValues⟩ := SourceText.exists_writes hs hd
    have hcons : entriesOf (d :: documents) = s.kept members ++ entriesOf documents := by
      rw [← hkept]
      simp [entriesOf]
    refine ⟨members :: written, .cons hmembers hwritten, by rw [hcons, hentries]; rfl, ?_⟩
    rw [hcons]
    exact List.forall_mem_append.mpr ⟨hkeptValues, hvalues⟩

theorem written_unique :
    ∀ {sources : List SourceText} {written written' : List (List (String × Value))},
      List.Forall₂ (fun s members => Json.Writes (room - 1) s.text members) sources written →
      List.Forall₂ (fun s members => Json.Writes (room - 1) s.text members) sources written' →
      written' = written
  | [], _, _, .nil, .nil => rfl
  | _ :: _, _, _, .cons h hrest, .cons h' hrest' => by
    rw [h'.unique h, written_unique hrest hrest']

/-- The names of what is kept of members, text after text. -/
theorem map_name_flatten_kept :
    ∀ {sources : List SourceText} {written : List (List (String × Value))},
      sources.length = written.length →
      (List.zipWith SourceText.kept sources written).flatten.map Entry.name =
        (written.flatMap fun members => Table.distinct (SourceText.namesOf members)).map Value.text
  | [], [], _ => rfl
  | s :: sources, members :: written, h => by
    rw [List.zipWith_cons_cons, List.flatten_cons, List.map_append, SourceText.map_name_kept,
      map_name_flatten_kept (Nat.succ.inj h), List.flatMap_cons, List.map_append]

/-- Texts that have documents are taken entry after entry. -/
theorem exists_documents (hload : ∀ s ∈ sources, ∃ d, s.document room = .ok d) :
    ∃ documents, List.Forall₂ (fun s d => SourceText.document room s = .ok d) sources documents ∧
      ofTexts room sources = declareAll [] (entriesOf documents) := by
  rcases hdocuments : sources.mapM fun s => s.document room with failure | documents
  · obtain ⟨s, hs, hfailure⟩ := exists_of_mapM_eq_error hdocuments
    obtain ⟨d, hd⟩ := hload s hs
    cases hd.symm.trans hfailure
  · refine ⟨documents, mapM_eq_ok.mp hdocuments, ?_⟩
    rw [ofTexts, hdocuments, ok_bind, endpoints_eq]

/-- Entries of JSON that declare no endpoints are told to be at fault. -/
theorem declareAll_eq_fault {entries : List Entry} {names : List String}
    (hnames : entries.map Entry.name = names.map Value.text)
    (hvalues : ∀ e ∈ entries, e.descriptor.IsJson) {failure : DescriptionFailure}
    (h : declareAll [] entries = .error failure) : ∃ fault, failure = .fault fault := by
  obtain ⟨before, e, after, hentries, -, he⟩ := declareAll_eq_error_iff.mp h
  rcases declareNext_eq_error he with ⟨fault, hfault, -⟩ | ⟨-, -, hstops⟩
  · exact ⟨fault, hfault⟩
  · have hmem : e ∈ entries := hentries ▸ List.mem_append_right _ List.mem_cons_self
    have hname : e.name ∈ names.map Value.text := hnames ▸ List.mem_map_of_mem hmem
    obtain ⟨name, -, heq⟩ := List.mem_map.mp hname
    exact absurd hstops (Entry.not_stops_of_isJson heq.symm (hvalues e hmem))

/-- Entries under names that are texts declare endpoints of these names, which are distinct. -/
theorem map_name_of_declareAll {entries : List Entry} {names : List String}
    {endpoints : List Endpoint} (hnames : entries.map Entry.name = names.map Value.text)
    (h : declareAll [] entries = .ok endpoints) :
    endpoints.map Endpoint.name = names ∧ names.Nodup := by
  obtain ⟨hall, hdistinct, -⟩ := declareAll_eq_ok h
  constructor
  · have hsame : entries.map (fun e => Checked.text e.name) =
        endpoints.map fun endpoint => Checked.valid endpoint.name :=
      map_eq_map_iff_forall₂.mpr (hall.imp fun _ _ => Entry.text_name_eq)
    have htexts : (entries.map Entry.name).map Checked.text =
        (endpoints.map Endpoint.name).map Checked.valid := by
      rw [List.map_map, List.map_map]
      exact hsame
    rw [hnames, List.map_map] at htexts
    exact (List.map_injective_iff.mpr (fun _ _ => Checked.valid.inj) htexts).symm
  · have hpairs : (names.map Value.text).Pairwise fun v w => ¬v.sameKey w :=
      hnames ▸ List.pairwise_map.mpr hdistinct
    refine (List.pairwise_map.mp hpairs).imp fun {a b} hne heq => hne ?_
    rw [heq]
    exact decide_eq_true rfl

/-- JSON texts that have documents write their members in one way. What keeps them from declaring
endpoints is told as a fault, and a name that two of the texts write is a fault. Endpoints are those
of the last members of each name in a text, under distinct names, and these are all members that are
written just when no text writes a name again. Names with an escape of half a surrogate pair on its
own are left out : it is read as the replacement character (`Json.charOf`). -/
theorem endpoints_written_iff (hjson : ∀ s ∈ sources, s.IsJson room)
    (hload : ∀ s ∈ sources, ∃ d, s.document room = .ok d) :
    ∃ written,
      List.Forall₂ (fun s members => Json.Writes (room - 1) s.text members) sources written ∧
      (∀ written', List.Forall₂ (fun s members => Json.Writes (room - 1) s.text members) sources
        written' → written' = written) ∧
      (∀ failure, ofTexts room sources = .error failure → ∃ fault, failure = .fault fault) ∧
      (¬written.Pairwise (fun a b => (SourceText.namesOf a).Disjoint (SourceText.namesOf b)) →
        ∃ fault, ofTexts room sources = .error (.fault fault)) ∧
      ∀ endpoints, ofTexts room sources = .ok endpoints →
        List.Forall₂ (fun e endpoint => e.endpoint = .ok endpoint)
          (List.zipWith SourceText.kept sources written).flatten endpoints ∧
        (endpoints.map Endpoint.name).Nodup ∧
        (endpoints.map Endpoint.name = written.flatMap SourceText.namesOf ↔
          ∀ members ∈ written, (SourceText.namesOf members).Nodup) := by
  obtain ⟨documents, hdocuments, hrun⟩ := exists_documents hload
  obtain ⟨written, hwritten, hentries, hvalues⟩ := exists_written hjson hdocuments
  have hnames := map_name_flatten_kept hwritten.length_eq
  rw [← hentries] at hnames
  have hfault : ∀ failure, ofTexts room sources = .error failure →
      ∃ fault, failure = .fault fault := fun failure h =>
    declareAll_eq_fault hnames hvalues (hrun ▸ h)
  refine ⟨written, hwritten, fun _ => written_unique hwritten, hfault, fun hrepeated => ?_,
    fun endpoints h => ?_⟩
  · rcases h : ofTexts room sources with failure | endpoints
    · obtain ⟨fault, rfl⟩ := hfault failure h
      exact ⟨fault, rfl⟩
    · obtain ⟨-, hnodup⟩ := map_name_of_declareAll hnames (hrun ▸ h)
      refine absurd ((List.nodup_flatMap.mp hnodup).2.imp ?_) hrepeated
      exact fun hdisjoint name ha hb =>
        hdisjoint (Table.mem_distinct.mpr ha) (Table.mem_distinct.mpr hb)
  · obtain ⟨heq, hnodup⟩ := map_name_of_declareAll hnames (hrun ▸ h)
    refine ⟨hentries ▸ (declareAll_eq_ok (hrun ▸ h)).1, heq ▸ hnodup, ?_⟩
    rw [heq, Table.flatMap_distinct_eq_iff]

/-- The one member of a text declares the one endpoint. -/
theorem endpoints_written_single :
    ∃ (s : SourceText) (members : List (String × Value)) (endpoint : Endpoint),
      s.IsJson Document.usualRoom ∧ Json.Writes (Document.usualRoom - 1) s.text members ∧
      SourceText.namesOf members = ["a"] ∧
      ofTexts Document.usualRoom [s] = .ok [endpoint] ∧
      [endpoint].map Endpoint.name = [members].flatMap SourceText.namesOf := by
  let s : SourceText := ⟨"a.json", "\x7b\"a\":\x7b\"url\":\x7b\"path\":\"/\"\x7d\x7d\x7d", .json⟩
  let endpoint : Endpoint :=
    { name := "a", paths := [⟨"/", [.literal "/"]⟩], origin := some "a.json" }
  have hrun : ofTexts Document.usualRoom [s] = .ok [endpoint] := by
    rw [← toOption_eq_some]
    subst s endpoint
    decide +kernel
  have hjson : s.IsJson Document.usualRoom := by
    refine ⟨nofun, ?_⟩
    have hparse : (Json.parse (Document.usualRoom - 1) s.text).toOption.isSome := by
      subst s
      decide +kernel
    obtain ⟨v, hv⟩ := Option.isSome_iff_exists.mp hparse
    exact ⟨v, toOption_eq_some.mp hv⟩
  have hload : ∃ d, s.document Document.usualRoom = .ok d := by
    obtain ⟨documents, hdocuments, -⟩ := bind_eq_ok.mp hrun
    obtain ⟨d, -, hd⟩ := exists_of_mem_left (mapM_eq_ok.mp hdocuments) (List.mem_singleton_self s)
    exact ⟨d, hd⟩
  let name : List Char := "\"a\":".toList
  let descriptor : List Char := "\x7b\"url\":\x7b\"path\":\"/\"\x7d\x7d\x7d".toList
  obtain ⟨v, hv⟩ : ∃ v, Json.Reads 989 ⟨descriptor, 5⟩ v ⟨['}'], 25⟩ :=
    Json.exists_reads 40 (by subst descriptor; decide +kernel)
  have hmembers : Json.Members 989 ⟨name ++ descriptor, 1⟩ [("a", v)] ⟨[], 26⟩ :=
    .last ⟨_, ⟨':' :: descriptor, 4⟩, _, rfl, rfl, rfl, hv, rfl⟩ rfl
  have hinside : ((Json.start s.text).skip 1).skipSpace = ⟨name ++ descriptor, 1⟩ := by
    subst s name descriptor
    rfl
  rw [← hinside] at hmembers
  have hwrites : Json.Writes (Document.usualRoom - 1) s.text [("a", v)] :=
    ⟨⟨[], 26⟩, by decide +kernel, by decide, .members hmembers, rfl⟩
  obtain ⟨written, -, hunique, -, -, hok⟩ := endpoints_written_iff
    (List.forall_mem_singleton.mpr hjson) (List.forall_mem_singleton.mpr hload)
  obtain rfl := hunique [[("a", v)]] (.cons hwrites .nil)
  obtain ⟨-, -, hiff⟩ := hok _ hrun
  exact ⟨s, [("a", v)], endpoint, hjson, hwrites, rfl, hrun,
    hiff.mpr (List.forall_mem_singleton.mpr (List.nodup_singleton "a"))⟩

/-- A text that writes a name again is read without a fault, and declares fewer endpoints than it
has members. -/
theorem endpoints_fewer_than_written :
    ∃ (s : SourceText) (members : List (String × Value)) (endpoint : Endpoint),
      s.hint = .json ∧ Json.Writes (Document.usualRoom - 1) s.text members ∧
      SourceText.namesOf members = ["a", "a"] ∧
      ofTexts Document.usualRoom [s] = .ok [endpoint] := by
  let s : SourceText :=
    { origin := "a.json"
      text := "\x7b\"a\":\x7b\"url\":\x7b\"path\":\"/\"\x7d\x7d," ++
        "\"a\":\x7b\"url\":\x7b\"path\":\"/b\"\x7d\x7d\x7d"
      hint := .json }
  let endpoint : Endpoint :=
    { name := "a", paths := [⟨"/b", [.literal "/b"]⟩], origin := some "a.json" }
  have hrun : ofTexts Document.usualRoom [s] = .ok [endpoint] := by
    rw [← toOption_eq_some]
    subst s endpoint
    decide +kernel
  let name : List Char := "\"a\":".toList
  let first : List Char := "\x7b\"url\":\x7b\"path\":\"/\"\x7d\x7d".toList
  let last : List Char := "\x7b\"url\":\x7b\"path\":\"/b\"\x7d\x7d\x7d".toList
  obtain ⟨v, hv⟩ : ∃ v, Json.Reads 989 ⟨first ++ ',' :: (name ++ last), 5⟩ v
      ⟨',' :: (name ++ last), 25⟩ :=
    Json.exists_reads 40 (by subst name first last; decide +kernel)
  obtain ⟨w, hw⟩ : ∃ w, Json.Reads 989 ⟨last, 30⟩ w ⟨['}'], 51⟩ :=
    Json.exists_reads 40 (by subst last; decide +kernel)
  have hlast : Json.Members 989 ⟨name ++ last, 26⟩ [("a", w)] ⟨[], 52⟩ :=
    .last ⟨_, ⟨':' :: last, 29⟩, _, rfl, rfl, rfl, hw, rfl⟩ rfl
  have hmembers : Json.Members 989 ⟨name ++ (first ++ ',' :: (name ++ last)), 1⟩
      [("a", v), ("a", w)] ⟨[], 52⟩ :=
    .more ⟨_, ⟨':' :: (first ++ ',' :: (name ++ last)), 4⟩, _, rfl, rfl, rfl, hv, rfl⟩ rfl hlast
  have hinside : ((Json.start s.text).skip 1).skipSpace =
      ⟨name ++ (first ++ ',' :: (name ++ last)), 1⟩ := by
    subst s name first last
    rfl
  rw [← hinside] at hmembers
  have hwrites : Json.Writes (Document.usualRoom - 1) s.text [("a", v), ("a", w)] :=
    ⟨⟨[], 52⟩, by decide +kernel, by decide, .members hmembers, rfl⟩
  exact ⟨s, _, endpoint, rfl, hwrites, rfl, hrun⟩

end Description

end Routewright
