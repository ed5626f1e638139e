import Routewright.Proofs.Template
import Routewright.UrlBuilder

/-!
# Rendering with either strategy

A builder that pushes looks up each parameter under its name, and one that formats reads a template
of its own in which every parameter is an empty field. Both put the values of a parsed template in
the places of its holes, from left to right : `fill_eq_ok` says so for pushing, and
`renderWith_holes` for formatting. With fewer values than holes both fail.
-/

namespace Routewright

/-! ## Values under names -/

theorem boundValue_cons_of_ne {name n : String} (h : n ≠ name) (v : String)
    (rest : List (String × String)) : boundValue name ((n, v) :: rest) = boundValue name rest := by
  rw [boundValue, if_neg h]
  cases boundValue name rest <;> rfl

theorem boundValue_eq_none {name : String} :
    ∀ {bound : List (String × String)}, name ∉ bound.map Prod.fst → boundValue name bound = none
  | [], _ => rfl
  | (n, v) :: rest, h => by
    obtain ⟨hne, hrest⟩ := not_or.mp (mt List.mem_cons.mpr h)
    rw [boundValue_cons_of_ne (Ne.symm hne), boundValue_eq_none hrest]

theorem boundValue_cons_self {name : String} {rest : List (String × String)}
    (h : name ∉ rest.map Prod.fst) (v : String) :
    boundValue name ((name, v) :: rest) = some v := by
  rw [boundValue, boundValue_eq_none h, if_pos rfl]

theorem not_mem_keys_zip {name : String} {names values : List String} (h : name ∉ names) :
    name ∉ (names.zip values).map Prod.fst := by
  intro hmem
  obtain ⟨⟨n, v⟩, hnv, rfl⟩ := List.mem_map.mp hmem
  exact h (List.of_mem_zip hnv).1

/-- Distinct names are bound to the values at their positions. -/
theorem map_boundValue_zip :
    ∀ {names values : List String}, names.Nodup → names.length ≤ values.length →
      names.map (boundValue · (names.zip values)) = (values.take names.length).map some
  | [], _, _, _ => rfl
  | _ :: _, [], _, hlen => absurd hlen (Nat.not_succ_le_zero _)
  | n :: names, v :: values, hnodup, hlen => by
    obtain ⟨hn, hnodup⟩ := List.nodup_cons.mp hnodup
    have htail : names.map (boundValue · ((n, v) :: names.zip values)) =
        names.map (boundValue · (names.zip values)) :=
      List.map_congr_left fun m hm => boundValue_cons_of_ne (ne_of_mem_of_not_mem hm hn).symm v _
    rw [List.zip_cons_cons, List.map_cons, htail, boundValue_cons_self (not_mem_keys_zip hn),
      map_boundValue_zip hnodup (Nat.le_of_succ_le_succ hlen)]
    rfl

/-- With fewer values than names, one of the names has none. -/
theorem exists_unbound :
    ∀ {names values : List String}, names.Nodup → values.length < names.length →
      ∃ name ∈ names, boundValue name (names.zip values) = none
  | [], _, _, hlen => absurd hlen (Nat.not_lt_zero _)
  | n :: names, [], _, _ => ⟨n, List.mem_cons_self, rfl⟩
  | n :: names, v :: values, hnodup, hlen => by
    obtain ⟨hn, hnodup⟩ := List.nodup_cons.mp hnodup
    obtain ⟨m, hm, hnone⟩ := exists_unbound hnodup (Nat.lt_of_succ_lt_succ hlen)
    refine ⟨m, List.mem_cons_of_mem _ hm, ?_⟩
    rwa [List.zip_cons_cons, boundValue_cons_of_ne (ne_of_mem_of_not_mem hm hn).symm]

/-! ## Renamed segments -/

namespace Segment

theorem params_rename :
    ∀ (segments : List Segment) {names : List String}, names.length = (params segments).length →
      params (rename segments names) = names
  | [], names, h => (List.eq_nil_of_length_eq_zero h).symm
  | .literal text :: rest, names, h => by
    rw [rename, params, params_rename rest h]
  | .param _ :: rest, [], h => absurd h.symm (Nat.succ_ne_zero _)
  | .param _ :: rest, n :: names, h => by
    rw [rename, params, params_rename rest (Nat.succ.inj h)]

theorem filled_rename :
    ∀ (segments : List Segment) (names values : List String),
      filled (rename segments names) values = filled segments values
  | [], _, _ => rfl
  | .literal text :: rest, names, values => by rw [rename, filled, filled, filled_rename rest]
  | .param _ :: rest, [], values => by rw [rename, filled, filled, filled_rename rest]
  | .param _ :: rest, n :: names, values => by rw [rename, filled, filled, filled_rename rest]

theorem PlainLiterals.rename :
    ∀ {segments : List Segment} (names : List String), PlainLiterals segments →
      PlainLiterals (Segment.rename segments names)
  | [], _, h => h
  | .literal text :: rest, names, h => by
    intro t hmem
    rcases List.mem_cons.mp hmem with heq | hmem
    · exact h t (heq ▸ List.mem_cons_self)
    · exact PlainLiterals.rename names h.tail t hmem
  | .param _ :: rest, [], h => by
    intro t hmem
    rcases List.mem_cons.mp hmem with heq | hmem
    · cases heq
    · exact PlainLiterals.rename [] h.tail t hmem
  | .param _ :: rest, n :: names, h => by
    intro t hmem
    rcases List.mem_cons.mp hmem with heq | hmem
    · cases heq
    · exact PlainLiterals.rename names h.tail t hmem

end Segment

/-! ## Pushing -/

namespace UrlBuilder

variable {bound : List (String × String)}

/-- Segments whose parameters have values are filled with them. -/
theorem fill_eq_ok :
    ∀ (segments : List Segment) {values : List String},
      (Segment.params segments).map (boundValue · bound) = values.map some →
      fill bound segments = .ok (String.ofList (Segment.filled segments values))
  | [], _, _ => rfl
  | .literal text :: rest, values, h => by
    rw [fill, fill_eq_ok rest h, Segment.filled, String.ofList_append,
      String.ofList_toList]
    rfl
  | .param _ :: rest, [], h => absurd h (List.cons_ne_nil _ _)
  | .param name :: rest, v :: values, h => by
    obtain ⟨hv, hrest⟩ := List.cons_eq_cons.mp h
    simp only [fill, hv, fill_eq_ok rest hrest, Segment.filled, List.headD_cons, List.tail_cons,
      String.ofList_append, String.ofList_toList]
    rfl

/-- Segments with a parameter that has no value are not filled. -/
theorem fill_fails {name : String} (hnone : boundValue name bound = none) :
    ∀ (segments : List Segment), name ∈ Segment.params segments →
      ∃ fault, fill bound segments = .error fault
  | .literal text :: rest, h => by
    obtain ⟨fault, hfault⟩ := fill_fails hnone rest h
    exact ⟨fault, by rw [fill, hfault]; rfl⟩
  | .param n :: rest, h => by
    rw [fill]
    cases hn : boundValue n bound with
    | none => exact ⟨_, rfl⟩
    | some v =>
      rcases List.mem_cons.mp h with rfl | h
      · rw [hnone] at hn
        cases hn
      · obtain ⟨fault, hfault⟩ := fill_fails hnone rest h
        exact ⟨fault, by simp only [hfault]; rfl⟩

end UrlBuilder

/-! ## Formatting -/

namespace Formatting

variable (arguments : List (List Char))
  (nested : Numbering → List Char → Except Fault (List Char × Numbering))

/-- Plain characters are collected as text. -/
theorem piecesFrom_plain :
    ∀ (text acc rest : List Char), (∀ c ∈ text, IsPlain c) →
      piecesFrom (.text acc) (text ++ rest) = piecesFrom (.text (text.reverse ++ acc)) rest
  | [], _, _, _ => rfl
  | c :: text, acc, rest, h => by
    obtain ⟨hopen, hclose⟩ := h c List.mem_cons_self
    rw [List.cons_append, piecesFrom, if_neg hopen, if_neg hclose,
      piecesFrom_plain text (c :: acc) rest fun d hd => h d (List.mem_cons_of_mem _ hd)]
    simp

/-- An empty field ends the text before it. -/
theorem piecesFrom_field (acc rest : List Char) :
    piecesFrom (.text acc) ('{' :: '}' :: rest) =
      .text acc.reverse :: .field ⟨[], none, []⟩ :: piecesFrom (.text []) rest := by
  rw [piecesFrom, if_pos rfl, piecesFrom, if_neg (by decide), if_pos rfl]

/-- At the end the text that was collected is left. -/
theorem renderWith_rest (numbering : Numbering) (acc : List Char) :
    renderWith arguments nested numbering (piecesFrom (.text acc) []) =
      .ok (acc.reverse, numbering) := by
  rw [piecesFrom]
  split_ifs with h
  · rw [List.isEmpty_iff.mp h]
    rfl
  · simp [renderWith, bind, Except.bind]

/-- An empty field takes the next argument as it is. -/
theorem renderWith_field (k : Nat) (acc : List Char) (rest : List Piece) :
    renderWith arguments nested (.inTurn k) (.text acc :: .field ⟨[], none, []⟩ :: rest) =
      match arguments[k]? with
      | none => .error (.missing k)
      | some value => (renderWith arguments nested (.inTurn (k + 1)) rest).map
          fun r => (acc ++ (value ++ r.1), r.2) := by
  simp only [renderWith, argument]
  cases arguments[k]? with
  | none => simp [bind, Except.bind]
  | some value =>
    simp [bind, Except.bind, select, convert, fillIn, Subject.display, Except.map]
    cases renderWith arguments nested (.inTurn (k + 1)) rest <;> rfl

/-- From argument `k` on, the holes of segments take the arguments in turn, and fail at the first
argument that is missing. -/
theorem renderWith_holes (strings : List String) :
    ∀ (segments : List Segment) (acc : List Char) (k : Nat), Segment.PlainLiterals segments →
      k ≤ strings.length →
      renderWith (strings.map String.toList) nested (.inTurn k)
          (piecesFrom (.text acc) (Segment.holes segments).toList) =
        if k + (Segment.params segments).length ≤ strings.length then
          .ok (acc.reverse ++ Segment.filled segments (strings.drop k),
            .inTurn (k + (Segment.params segments).length))
        else .error (.missing strings.length)
  | [], acc, k, _, hk => by
    rw [Segment.holes, String.toList_empty, renderWith_rest, if_pos (by simpa [Segment.params])]
    simp [Segment.filled, Segment.params]
  | .literal text :: rest, acc, k, hplain, hk => by
    rw [Segment.holes, String.toList_append,
      piecesFrom_plain _ _ _ (hplain text List.mem_cons_self),
      renderWith_holes strings rest _ k hplain.tail hk, Segment.params, Segment.filled,
      List.reverse_append, List.reverse_reverse, List.append_assoc]
  | .param name :: rest, acc, k, hplain, hk => by
    have hholes : (Segment.holes (.param name :: rest)).toList =
        '{' :: '}' :: (Segment.holes rest).toList := by
      rw [Segment.holes, String.toList_append]
      rfl
    have hcount : (Segment.params (.param name :: rest)).length =
        (Segment.params rest).length + 1 := rfl
    rw [hholes, piecesFrom_field, renderWith_field, List.getElem?_map, hcount]
    rcases Nat.lt_or_eq_of_le hk with hlt | rfl
    · rw [List.getElem?_eq_getElem hlt, Option.map_some]
      simp only
      rw [renderWith_holes strings rest [] (k + 1) hplain.tail hlt, List.drop_eq_getElem_cons hlt]
      by_cases hle : k + 1 + (Segment.params rest).length ≤ strings.length
      · rw [if_pos hle, if_pos (by omega), Nat.add_right_comm, Nat.add_assoc k]
        simp [Except.map, Segment.filled, List.getElem?_eq_getElem hlt]
      · rw [if_neg hle, if_neg (by omega)]
        rfl
    · rw [List.getElem?_eq_none (Nat.le_refl _), if_neg (by omega)]
      rfl

/-- The hole template of segments gives the base address and then the segments, filled. -/
theorem format_holeTemplate {segments : List Segment} (hplain : Segment.PlainLiterals segments)
    (base : String) (values : List String) :
    format (holeTemplate segments) (base :: values) =
      if (Segment.params segments).length ≤ values.length then
        .ok (base ++ String.ofList (Segment.filled segments values))
      else .error (.missing (values.length + 1)) := by
  have hpieces : pieces (holeTemplate segments).toList =
      .text [] :: .field ⟨[], none, []⟩ ::
        piecesFrom (.text []) (Segment.holes segments).toList := by
    rw [holeTemplate, String.toList_append]
    exact piecesFrom_field [] _
  have hstart : ∀ nested rest, renderWith ((base :: values).map String.toList) nested .undecided
      (.text [] :: .field ⟨[], none, []⟩ :: rest) =
        renderWith ((base :: values).map String.toList) nested (.inTurn 0)
          (.text [] :: .field ⟨[], none, []⟩ :: rest) := fun _ _ => rfl
  rw [format, hpieces, render, hstart, renderWith_field, List.map_cons, List.getElem?_cons_zero]
  simp only
  rw [← List.map_cons, renderWith_holes _ _ _ _ 1 hplain (by simp)]
  simp only [List.length_cons, List.drop_one, List.tail_cons, Nat.add_comm 1,
    Nat.add_le_add_iff_right]
  split_ifs with hle
  · simp [Except.map, String.ofList_append]
  · rfl

end Formatting

/-! ## Either strategy -/

namespace UrlBuilder

variable {template : String} {path : UrlPath}

/-- Pushing fills a parsed template, and fails with fewer values than holes. -/
theorem render_push (hpath : UrlPath.parse template = .ok path) {names : List String}
    (hnodup : names.Nodup) (hlen : names.length = path.params.length) (base : String)
    (values : List String) :
    (path.params.length ≤ values.length →
      render (.push (Segment.rename path.segments names) names) base values =
        .ok (base ++ filledTemplate template values)) ∧
    (values.length < path.params.length →
      ∃ fault, render (.push (Segment.rename path.segments names) names) base values =
        .error fault) := by
  have hparams := Segment.params_rename path.segments hlen
  constructor
  · intro hle
    have hbound := map_boundValue_zip hnodup (hlen ▸ hle)
    have hfill := fill_eq_ok (Segment.rename path.segments names)
      (by rw [hparams]; exact hbound)
    rw [render, hfill, Segment.filled_rename, hlen, UrlPath.params, Segment.filled_take,
      UrlPath.fillFrom_template hpath]
    rfl
  · intro hlt
    obtain ⟨name, hmem, hnone⟩ := exists_unbound hnodup (hlen ▸ hlt)
    obtain ⟨fault, hfault⟩ := fill_fails hnone _ (hparams.symm ▸ hmem)
    exact ⟨fault, by rw [render, hfault]; rfl⟩

/-- Formatting fills a parsed template, and fails with fewer values than holes. -/
theorem render_format (hpath : UrlPath.parse template = .ok path) {names : List String}
    (hlen : names.length = path.params.length) (base : String) (values : List String) :
    (path.params.length ≤ values.length →
      render (.format (holeTemplate (Segment.rename path.segments names)) names) base values =
        .ok (base ++ filledTemplate template values)) ∧
    (values.length < path.params.length →
      ∃ fault, render (.format (holeTemplate (Segment.rename path.segments names)) names) base
        values = .error fault) := by
  have hparams := Segment.params_rename path.segments hlen
  have hformat := Formatting.format_holeTemplate
    ((UrlPath.plainLiterals hpath).rename names) base values
  rw [hparams, hlen, Segment.filled_rename, ← UrlPath.fillFrom_template hpath] at hformat
  constructor
  · intro hle
    rw [render, hformat, if_pos hle]
    rfl
  · intro hlt
    exact ⟨_, by rw [render, hformat, if_neg (Nat.not_le.mpr hlt)]; rfl⟩

/-- Names of the right number give a builder for either strategy. -/
theorem build_eq_ok {names : Option (List String)}
    (hlen : (names.getD path.params).length = path.params.length) :
    build path .push names = .ok (.push (Segment.rename path.segments (names.getD path.params))
      (names.getD path.params)) ∧
    build path .format names = .ok (.format
      (holeTemplate (Segment.rename path.segments (names.getD path.params)))
      (names.getD path.params)) := by
  constructor <;> simp only [build, hlen, ne_eq, not_true_eq_false, if_false]

/-- Both strategies render a parsed template alike, whatever its parameters are called : a value
for each hole gives the base address and the template with its holes filled from left to right, and
fewer values give no url. -/
theorem strategies_render_alike (hpath : UrlPath.parse template = .ok path)
    (names : Option (List String))
    (hnames : ∀ ns ∈ names, ns.Nodup ∧ ns.length = path.params.length)
    (base : String) (values : List String) :
    template.toList.count '{' = path.params.length ∧
    ∃ push format, build path .push names = .ok push ∧ build path .format names = .ok format ∧
      (template.toList.count '{' ≤ values.length →
        render push base values = .ok (base ++ filledTemplate template values) ∧
        render format base values = .ok (base ++ filledTemplate template values)) ∧
      (values.length < template.toList.count '{' →
        (∃ fault, render push base values = .error fault) ∧
        ∃ fault, render format base values = .error fault) := by
  have hused : (names.getD path.params).Nodup ∧
      (names.getD path.params).length = path.params.length := by
    cases names with
    | none => exact ⟨UrlPath.nodup_params hpath, rfl⟩
    | some ns => exact hnames ns rfl
  obtain ⟨hnodup, hlen⟩ := hused
  obtain ⟨hpush, hformat⟩ := build_eq_ok hlen
  obtain ⟨hpushed, hpushFails⟩ := render_push hpath hnodup hlen base values
  obtain ⟨hformatted, hformatFails⟩ := render_format hpath hlen base values
  have hcount := UrlPath.count_opening hpath
  refine ⟨hcount, _, _, hpush, hformat, fun hle => ?_, fun hlt => ?_⟩
  · rw [hcount] at hle
    exact ⟨hpushed hle, hformatted hle⟩
  · rw [hcount] at hlt
    exact ⟨hpushFails hlt, hformatFails hlt⟩

/-- Renamed adjacent holes, values with braces, and one value too many. -/
theorem strategies_render_alike_adjacent :
    UrlPath.parse "{a}{b}/_x" = .ok ⟨"{a}{b}/_x", [.param "a", .param "b", .literal "/_x"]⟩ ∧
    (∀ ns ∈ some ["left", "right"], ns.Nodup ∧ ns.length = 2) ∧
    ∃ push format,
      build ⟨"{a}{b}/_x", [.param "a", .param "b", .literal "/_x"]⟩ .push
        (some ["left", "right"]) = .ok push ∧
      build ⟨"{a}{b}/_x", [.param "a", .param "b", .literal "/_x"]⟩ .format
        (some ["left", "right"]) = .ok format ∧
      render push "h/" ["\x7b\x7d", "\x7b0", "z"] = .ok "h/\x7b\x7d\x7b0/_x" ∧
      render format "h/" ["\x7b\x7d", "\x7b0", "z"] = .ok "h/\x7b\x7d\x7b0/_x" := by
  have hparse : UrlPath.parse "{a}{b}/_x" =
      .ok ⟨"{a}{b}/_x", [.param "a", .param "b", .literal "/_x"]⟩ := by decide
  have hnames : ∀ ns ∈ some ["left", "right"], ns.Nodup ∧ ns.length = 2 := by decide
  obtain ⟨-, push, format, hpush, hformat, hrendered, -⟩ :=
    strategies_render_alike hparse _ hnames "h/" ["\x7b\x7d", "\x7b0", "z"]
  obtain ⟨hpushed, hformatted⟩ := hrendered (by decide)
  exact ⟨hparse, hnames, push, format, hpush, hformat, hpushed, hformatted⟩

end UrlBuilder

end Routewright
