import Mathlib.Data.List.Nodup
import Routewright.Proofs.Outcome
import Routewright.Proofs.Spelling
import Routewright.Template

/-!
# What a template says

`Reads seen cs pieces` is the grammar of path templates : the characters `cs` are plain characters
and holes, whose names are identifiers, differ from each other and are none of `seen`. Every text
that `parseText` accepts is read so (`reads_of_parseText`), and what is proved of parsed templates
is proved of this relation.

`fillFrom` is what filling a template means, said of its raw text and not of its segments : from
left to right each hole gives way to the next value. `Segment.filled` is the same for segments, and
the two agree on parsed templates (`UrlPath.fillFrom_template`).
-/

namespace Routewright

/-! ## The grammar -/

/-- A character that opens or closes no hole. -/
def IsPlain (c : Char) : Prop :=
  c ≠ '{' ∧ c ≠ '}'

/-- The characters `cs` are read as `pieces` after holes named `seen`. -/
inductive Reads : List String → List Char → List Piece → Prop
  | done {seen} : Reads seen [] []
  | char {seen c cs pieces} : IsPlain c → Reads seen cs pieces →
      Reads seen (c :: cs) (consChar c pieces)
  | hole {seen name cs pieces} : isIdentifier name = true → String.ofList name ∉ seen →
      Reads (String.ofList name :: seen) cs pieces →
      Reads seen ('{' :: (name ++ '}' :: cs)) (.hole (String.ofList name) :: pieces)

theorem isPlain_of_isNameChar {c : Char} (h : isNameChar c = true) : IsPlain c := by
  constructor <;> rintro rfl <;> revert h <;> decide

/-- An identifier holds no brace. -/
theorem isPlain_of_mem_identifier {name : List Char} (h : isIdentifier name = true) :
    ∀ c ∈ name, IsPlain c := by
  intro c hc
  rcases (of_isIdentifier h).2 c hc with hc | rfl
  · exact isPlain_of_isNameChar hc
  · exact ⟨by decide, by decide⟩

theorem checkName_eq_ok {seen : List String} {name : List Char} {s : String}
    (h : checkName seen name = .ok s) :
    isIdentifier name = true ∧ String.ofList name ∉ seen ∧ s = String.ofList name := by
  simp only [checkName] at h
  split_ifs at h with hempty hident hseen
  cases h
  exact ⟨by simpa using hident, hseen, rfl⟩

/-- From inside a hole : the rest of its name, its closing brace, then text again. -/
theorem parseHole_eq_ok {start : Nat} {seen : List String} :
    ∀ {cs : List Char} {offset : Nat} {name : List Char} {pieces : List Piece},
      parseHole start offset seen name cs = .ok pieces →
      ∃ more rest after tail, cs = more ++ '}' :: rest ∧
        isIdentifier (name.reverse ++ more) = true ∧
        String.ofList (name.reverse ++ more) ∉ seen ∧
        parseText after (String.ofList (name.reverse ++ more) :: seen) rest = .ok tail ∧
        pieces = .hole (String.ofList (name.reverse ++ more)) :: tail
  | [], _, _, _, h => by simp [parseHole] at h
  | c :: cs, offset, name, pieces, h => by
    by_cases hc : c = '}'
    · subst hc
      rw [parseHole, if_pos rfl] at h
      cases hname : checkName seen name.reverse with
      | error fault => simp [hname] at h
      | ok param =>
        obtain ⟨hident, hseen, rfl⟩ := checkName_eq_ok hname
        simp only [hname] at h
        obtain ⟨tail, htail, rfl⟩ := Outcome.map_eq_ok.mp h
        exact ⟨[], cs, offset + 1, tail, by simp, by simpa using hident, by simpa using hseen,
          by simpa using htail, by simp⟩
    · rw [parseHole, if_neg hc] at h
      obtain ⟨more, rest, after, tail, rfl, hrest⟩ := parseHole_eq_ok h
      refine ⟨c :: more, rest, after, tail, rfl, ?_⟩
      simpa using hrest

/-- Every text that is accepted is read by the grammar. -/
theorem reads_of_parseText {offset : Nat} {seen : List String} {cs : List Char}
    {pieces : List Piece} (h : parseText offset seen cs = .ok pieces) :
    Reads seen cs pieces := by
  match cs with
  | [] =>
    rw [parseText] at h
    cases h
    exact .done
  | c :: cs =>
    rw [parseText] at h
    split_ifs at h with hclose hopen
    · -- a hole : its name ends before the rest begins, which is shorter
      subst hopen
      obtain ⟨more, rest, after, tail, hcs, hident, hseen, htail, rfl⟩ := parseHole_eq_ok h
      have hshort : rest.length < cs.length := by simp [hcs]; omega
      rw [hcs]
      exact .hole hident hseen (reads_of_parseText htail)
    · obtain ⟨tail, htail, rfl⟩ := Outcome.map_eq_ok.mp h
      exact .char ⟨hopen, hclose⟩ (reads_of_parseText htail)
termination_by cs.length
decreasing_by
  · exact Nat.lt_succ_of_lt hshort
  · exact Nat.lt_succ_self _

/-- The path of a template has the segments that its characters are read as. An empty template is
read as no pieces, and has one empty literal. -/
theorem UrlPath.reads_of_parse {template : String} {path : UrlPath}
    (h : UrlPath.parse template = .ok path) :
    path.template = template ∧ ∃ pieces, Reads [] template.toList pieces ∧
      path.segments = if pieces.isEmpty then [.literal ""] else pieces.map Piece.segment := by
  obtain ⟨segments, hsegments, rfl⟩ := Outcome.map_eq_ok.mp h
  obtain ⟨pieces, hpieces, rfl⟩ := Outcome.map_eq_ok.mp hsegments
  exact ⟨rfl, pieces, reads_of_parseText hpieces, rfl⟩

/-! ## Names and literals -/

theorem Segment.params_consChar (c : Char) (pieces : List Piece) :
    Segment.params ((consChar c pieces).map Piece.segment) =
      Segment.params (pieces.map Piece.segment) := by
  fun_cases consChar c pieces <;> rfl

/-- The names of holes are new each time. -/
theorem Reads.nodup_params {seen : List String} {cs : List Char} {pieces : List Piece}
    (h : Reads seen cs pieces) :
    (Segment.params (pieces.map Piece.segment)).Nodup ∧
      ∀ name ∈ Segment.params (pieces.map Piece.segment), name ∉ seen := by
  induction h with
  | done => exact ⟨List.nodup_nil, fun name hname => absurd hname List.not_mem_nil⟩
  | char _ _ ih => rwa [Segment.params_consChar]
  | hole _ hseen _ ih =>
    obtain ⟨hnodup, hnew⟩ := ih
    refine ⟨List.nodup_cons.mpr ⟨fun hmem => hnew _ hmem List.mem_cons_self, hnodup⟩, ?_⟩
    intro name hname hold
    rcases List.mem_cons.mp hname with rfl | hname
    · exact hseen hold
    · exact hnew name hname (List.mem_cons_of_mem _ hold)

/-- A hole opens once for each name. -/
theorem Reads.count_opening {seen : List String} {cs : List Char} {pieces : List Piece}
    (h : Reads seen cs pieces) :
    cs.count '{' = (Segment.params (pieces.map Piece.segment)).length := by
  induction h with
  | done => rfl
  | char hplain _ ih => rw [Segment.params_consChar, List.count_cons_of_ne hplain.1, ih]
  | @hole _ name cs _ hident _ _ ih =>
    have hname : name.count '{' = 0 :=
      List.count_eq_zero.mpr fun hmem => (isPlain_of_mem_identifier hident _ hmem).1 rfl
    rw [List.count_cons_self, List.count_append, hname, List.count_cons_of_ne (by decide), ih,
      Nat.zero_add]
    rfl

/-- No literal among segments holds a brace. -/
def Segment.PlainLiterals (segments : List Segment) : Prop :=
  ∀ text, .literal text ∈ segments → ∀ c ∈ text.toList, IsPlain c

theorem Segment.PlainLiterals.tail {s : Segment} {segments : List Segment}
    (h : Segment.PlainLiterals (s :: segments)) : Segment.PlainLiterals segments :=
  fun text hmem => h text (List.mem_cons_of_mem _ hmem)

theorem Segment.plainLiterals_consChar {c : Char} {pieces : List Piece} (hc : IsPlain c)
    (h : Segment.PlainLiterals (pieces.map Piece.segment)) :
    Segment.PlainLiterals ((consChar c pieces).map Piece.segment) := by
  fun_cases consChar c pieces with
  | case1 chars rest =>
    intro text hmem d hd
    rcases List.mem_cons.mp hmem with heq | hmem
    · cases heq
      rw [String.toList_ofList] at hd
      rcases List.mem_cons.mp hd with rfl | hd
      · exact hc
      · exact h (String.ofList chars) List.mem_cons_self d (by rwa [String.toList_ofList])
    · exact h text (List.mem_cons_of_mem _ hmem) d hd
  | case2 =>
    intro text hmem d hd
    rcases List.mem_cons.mp hmem with heq | hmem
    · cases heq
      rw [String.toList_ofList] at hd
      rwa [List.mem_singleton.mp hd]
    · exact h text hmem d hd

theorem Reads.plainLiterals {seen : List String} {cs : List Char} {pieces : List Piece}
    (h : Reads seen cs pieces) : Segment.PlainLiterals (pieces.map Piece.segment) := by
  induction h with
  | done => exact fun text hmem => absurd hmem List.not_mem_nil
  | char hplain _ ih => exact Segment.plainLiterals_consChar hplain ih
  | hole _ _ _ ih =>
    intro text hmem
    rcases List.mem_cons.mp hmem with heq | hmem
    · cases heq
    · exact ih text hmem

/-! ## Filling -/

/-- The characters of a template with its holes filled from left to right : a value stands where a
hole opened, and what follows up to the closing brace is left out. Without a value left, nothing
stands there. -/
def fillFrom (inHole : Bool) : List Char → List String → List Char
  | [], _ => []
  | c :: cs, values =>
    if inHole then fillFrom (c ≠ '}') cs values
    else if c = '{' then (values.headD "").toList ++ fillFrom true cs values.tail
    else c :: fillFrom false cs values

/-- A template with its holes filled from left to right. -/
def filledTemplate (template : String) (values : List String) : String :=
  String.ofList (fillFrom false template.toList values)

/-- The characters of segments with values in place of parameters. -/
def Segment.filled : List Segment → List String → List Char
  | [], _ => []
  | .literal text :: rest, values => text.toList ++ Segment.filled rest values
  | .param _ :: rest, values => (values.headD "").toList ++ Segment.filled rest values.tail

theorem Segment.filled_consChar (c : Char) (pieces : List Piece) (values : List String) :
    Segment.filled ((consChar c pieces).map Piece.segment) values =
      c :: Segment.filled (pieces.map Piece.segment) values := by
  fun_cases consChar c pieces <;> simp [Segment.filled, Piece.segment]

/-- The name of a hole leaves no trace. -/
theorem fillFrom_name {name : List Char} (h : ∀ c ∈ name, IsPlain c) (cs : List Char)
    (values : List String) :
    fillFrom true (name ++ '}' :: cs) values = fillFrom false cs values := by
  induction name with
  | nil => simp [fillFrom]
  | cons c name ih =>
    have hc : c ≠ '}' := (h c List.mem_cons_self).2
    rw [List.cons_append, fillFrom, if_pos rfl, decide_eq_true hc,
      ih fun d hd => h d (List.mem_cons_of_mem _ hd)]

/-- Filling the characters is filling the segments. -/
theorem Reads.fillFrom_eq_filled {seen : List String} {cs : List Char} {pieces : List Piece}
    (h : Reads seen cs pieces) :
    ∀ values, fillFrom false cs values = Segment.filled (pieces.map Piece.segment) values := by
  induction h with
  | done => exact fun _ => rfl
  | char hplain _ ih =>
    intro values
    rw [Segment.filled_consChar, ← ih values, fillFrom, if_neg Bool.false_ne_true,
      if_neg hplain.1]
  | hole hident _ _ ih =>
    intro values
    rw [fillFrom, if_neg Bool.false_ne_true, if_pos rfl,
      fillFrom_name (isPlain_of_mem_identifier hident), ih values.tail]
    rfl

/-- Values after the last hole are not used. -/
theorem Segment.filled_take :
    ∀ (segments : List Segment) (values : List String),
      Segment.filled segments (values.take (Segment.params segments).length) =
        Segment.filled segments values
  | [], _ => rfl
  | .literal text :: rest, values => by
    rw [Segment.filled, Segment.filled, Segment.params, Segment.filled_take rest values]
  | .param name :: rest, values => by
    cases values with
    | nil => rfl
    | cons v values =>
      simp only [Segment.filled, Segment.params, List.length_cons, List.take_succ_cons,
        List.headD_cons, List.tail_cons, Segment.filled_take rest values]

namespace UrlPath

variable {template : String} {path : UrlPath}

/-- The parameters of a parsed template differ from each other. -/
theorem nodup_params (h : UrlPath.parse template = .ok path) : path.params.Nodup := by
  obtain ⟨-, pieces, hreads, hsegments⟩ := reads_of_parse h
  unfold UrlPath.params
  rw [hsegments]
  split_ifs
  · exact List.nodup_nil
  · exact hreads.nodup_params.1

theorem plainLiterals (h : UrlPath.parse template = .ok path) :
    Segment.PlainLiterals path.segments := by
  obtain ⟨-, pieces, hreads, hsegments⟩ := reads_of_parse h
  rw [hsegments]
  split_ifs
  · intro text hmem c hc
    cases List.mem_singleton.mp hmem
    simp at hc
  · exact hreads.plainLiterals

/-- A parsed template has one parameter for each opening brace. -/
theorem count_opening (h : UrlPath.parse template = .ok path) :
    template.toList.count '{' = path.params.length := by
  obtain ⟨-, pieces, hreads, hsegments⟩ := reads_of_parse h
  rw [hreads.count_opening, UrlPath.params, hsegments]
  split_ifs with hempty
  · rw [List.isEmpty_iff.mp hempty]
    rfl
  · rfl

/-- Filling a parsed template is filling its segments. -/
theorem fillFrom_template (h : UrlPath.parse template = .ok path) (values : List String) :
    filledTemplate template values = String.ofList (Segment.filled path.segments values) := by
  obtain ⟨-, pieces, hreads, hsegments⟩ := reads_of_parse h
  rw [filledTemplate, hreads.fillFrom_eq_filled, hsegments]
  split_ifs with hempty
  · rw [List.isEmpty_iff.mp hempty]
    rfl
  · rfl

end UrlPath

end Routewright
