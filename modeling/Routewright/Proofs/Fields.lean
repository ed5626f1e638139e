import Routewright.Formatting
import Routewright.Proofs.Outcome

/-!
# Which templates are filled

A field takes an argument in turn or by number. The first field decides which of the two it is and
what is decided stays (`Numbering.Leads`), so a template that is filled at all has its arguments in
one way, and none of them by name (`fillable_of_format_eq_ok`). Fields may also ask for parts of an
argument or lay it out, which fails for reasons of its own. Where none does, nothing more is needed
(`exists_format_iff`).
-/

namespace Routewright.Formatting

open Outcome

/-! ## How fields refer to arguments -/

/-- The part of its name by which a field refers to an argument. -/
def Field.reference (f : Field) : List Char :=
  f.name.takeWhile fun c => c ≠ '.' && c ≠ '['

/-- A field refers by number to one of so many arguments. -/
def Field.IsNumbered (size : Nat) (f : Field) : Prop :=
  ∃ i < size, number? f.reference = .ok (some i)

/-- The field that a piece is. -/
def Piece.field? : Piece → Option Field
  | .field f => some f
  | _ => none

/-- The fields among pieces, in order. -/
def fieldsOf (ps : List Piece) : List Field :=
  ps.filterMap Piece.field?

theorem mem_fieldsOf {ps : List Piece} {f : Field} : f ∈ fieldsOf ps ↔ .field f ∈ ps := by
  rw [fieldsOf, List.mem_filterMap]
  constructor
  · rintro ⟨p, hp, hf⟩
    cases p with
    | field g => exact Option.some.inj hf ▸ hp
    | text | broken => cases hf
  · exact fun h => ⟨_, h, rfl⟩

namespace Numbering

/-- How the next argument is referred to : it is argument `k`, or the first one. -/
def IsAt (numbering : Numbering) (k : Nat) : Prop :=
  numbering = .inTurn k ∨ numbering = .undecided ∧ k = 0

/-- A numbering may come of another by fields. What is decided stays. -/
inductive Leads : Numbering → Numbering → Prop
  | undecided (after : Numbering) : Leads .undecided after
  | inTurn {k next : Nat} (h : k ≤ next) : Leads (.inTurn k) (.inTurn next)
  | byNumber : Leads .byNumber .byNumber

theorem Leads.refl : ∀ numbering : Numbering, numbering.Leads numbering
  | .undecided => .undecided _
  | .inTurn _ => .inTurn (Nat.le_refl _)
  | .byNumber => .byNumber

theorem Leads.trans {a b c : Numbering} (hab : a.Leads b) (hbc : b.Leads c) : a.Leads c := by
  cases hab with
  | undecided => exact .undecided c
  | inTurn h =>
    cases hbc with
    | inTurn hnext => exact .inTurn (Nat.le_trans h hnext)
  | byNumber => exact hbc

theorem leads_byNumber_iff {numbering : Numbering} :
    numbering.Leads .byNumber ↔ numbering = .undecided ∨ numbering = .byNumber := by
  constructor
  · rintro (_ | _ | _)
    · exact .inl rfl
    · exact .inr rfl
  · rintro (rfl | rfl)
    · exact .undecided _
    · exact .byNumber

/-- So many arguments are enough for fields : all take theirs in turn and there is one for each of
them, or all have a number. -/
def Suits (size : Nat) : Numbering → List Field → Prop
  | .undecided, fs =>
    (∀ f ∈ fs, f.reference = []) ∧ fs.length ≤ size ∨ ∀ f ∈ fs, f.IsNumbered size
  | .inTurn k, fs => (∀ f ∈ fs, f.reference = []) ∧ fs.length ≤ size - k
  | .byNumber, fs => ∀ f ∈ fs, f.IsNumbered size

theorem suits_nil (size : Nat) : ∀ numbering : Numbering, numbering.Suits size []
  | .undecided => .inr fun _ h => absurd h List.not_mem_nil
  | .inTurn _ => ⟨fun _ h => absurd h List.not_mem_nil, Nat.zero_le _⟩
  | .byNumber => fun _ h => absurd h List.not_mem_nil

theorem Suits.of_leads {size : Nat} {fs : List Field} {a b : Numbering} (hab : a.Leads b)
    (h : b.Suits size fs) : a.Suits size fs := by
  cases hab with
  | undecided =>
    cases b with
    | undecided => exact h
    | inTurn k => exact .inl ⟨h.1, Nat.le_trans h.2 (Nat.sub_le _ _)⟩
    | byNumber => exact .inr h
  | inTurn hnext => exact ⟨h.1, Nat.le_trans h.2 (Nat.sub_le_sub_left hnext _)⟩
  | byNumber => exact h

end Numbering

section Argument

variable {arguments : List (List Char)} {numbering after : Numbering} {first value : List Char}

/-- A field has its argument in turn, or by number where none so far had its argument in turn. -/
theorem argument_eq_ok :
    argument arguments numbering first = .ok (value, after) ↔
      (first = [] ∧ ∃ k, numbering.IsAt k ∧ arguments[k]? = some value ∧ after = .inTurn (k + 1)) ∨
      (numbering.Leads .byNumber ∧ ∃ i, number? first = .ok (some i) ∧
        arguments[i]? = some value ∧ after = .byNumber) := by
  cases first with
  | nil =>
    have hnone : number? [] = .ok none := rfl
    cases numbering with
    | undecided => cases h : arguments[0]? <;> simp [argument, h, hnone, Numbering.IsAt, eq_comm]
    | inTurn k => cases h : arguments[k]? <;> simp [argument, h, hnone, Numbering.IsAt, eq_comm]
    | byNumber => simp [argument, hnone, Numbering.IsAt]
  | cons c cs =>
    rw [Numbering.leads_byNumber_iff]
    cases hfound : number? (c :: cs) with
    | error fault => simp [argument, hfound]
    | ok found =>
      cases found with
      | none => simp [argument, hfound]
      | some i =>
        cases numbering with
        | inTurn next => simp [argument, hfound]
        | undecided | byNumber => cases h : arguments[i]? <;> simp [argument, hfound, h, eq_comm]

theorem leads_of_argument_eq_ok (h : argument arguments numbering first = .ok (value, after)) :
    numbering.Leads after := by
  rcases argument_eq_ok.mp h with ⟨-, k, rfl | ⟨rfl, -⟩, -, rfl⟩ | ⟨hleads, i, -, -, rfl⟩
  · exact .inTurn (Nat.le_succ k)
  · exact .undecided _
  · exact hleads

/-- There is an argument for a field, in turn or by number. -/
theorem exists_argument_iff {f : Field} {p : Numbering → Prop} :
    (∃ value after, argument arguments numbering f.reference = .ok (value, after) ∧ p after) ↔
      (f.reference = [] ∧ ∃ k < arguments.length, numbering.IsAt k ∧ p (.inTurn (k + 1))) ∨
      (numbering.Leads .byNumber ∧ f.IsNumbered arguments.length ∧ p .byNumber) := by
  constructor
  · rintro ⟨value, after, h, hp⟩
    rcases argument_eq_ok.mp h with ⟨hnil, k, hat, hvalue, rfl⟩ | ⟨hleads, i, hi, hvalue, rfl⟩
    · exact .inl ⟨hnil, k, (List.getElem?_eq_some_iff.mp hvalue).1, hat, hp⟩
    · exact .inr ⟨hleads, ⟨i, (List.getElem?_eq_some_iff.mp hvalue).1, hi⟩, hp⟩
  · rintro (⟨hnil, k, hk, hat, hp⟩ | ⟨hleads, ⟨i, hlt, hi⟩, hp⟩)
    · exact ⟨_, _, argument_eq_ok.mpr
        (.inl ⟨hnil, k, hat, List.getElem?_eq_getElem hk, rfl⟩), hp⟩
    · exact ⟨_, _, argument_eq_ok.mpr
        (.inr ⟨hleads, i, hi, List.getElem?_eq_getElem hlt, rfl⟩), hp⟩

/-- Arguments are enough for fields if there is one for the first field, after which they are enough
for the others. -/
theorem suits_cons_iff {f : Field} {fs : List Field} :
    numbering.Suits arguments.length (f :: fs) ↔
      ∃ value after, argument arguments numbering f.reference = .ok (value, after) ∧
        after.Suits arguments.length fs := by
  have hinTurn : ∀ k : Nat,
      (∀ g ∈ f :: fs, g.reference = []) ∧ (f :: fs).length ≤ arguments.length - k ↔
        f.reference = [] ∧ k < arguments.length ∧
          (Numbering.inTurn (k + 1)).Suits arguments.length fs := by
    intro k
    have hsize : fs.length + 1 ≤ arguments.length - k ↔
        k < arguments.length ∧ fs.length ≤ arguments.length - (k + 1) := by omega
    rw [List.forall_mem_cons, List.length_cons, hsize, Numbering.Suits]
    tauto
  have hbyNumber : (∀ g ∈ f :: fs, g.IsNumbered arguments.length) ↔
      f.IsNumbered arguments.length ∧ Numbering.byNumber.Suits arguments.length fs :=
    List.forall_mem_cons
  rw [exists_argument_iff]
  cases numbering with
  | undecided =>
    refine Iff.trans (or_congr (hinTurn 0) hbyNumber) ?_
    simp [Numbering.IsAt, Numbering.leads_byNumber_iff]
  | inTurn k =>
    refine Iff.trans (hinTurn k) ?_
    simp [Numbering.IsAt, Numbering.leads_byNumber_iff]
  | byNumber =>
    refine Iff.trans hbyNumber ?_
    simp [Numbering.IsAt, Numbering.leads_byNumber_iff]

end Argument

/-! ## Templates that are filled -/

/-- A template can be read as a whole and so many arguments are enough for its fields. -/
def Fillable (size : Nat) (ps : List Piece) : Prop :=
  .broken ∉ ps ∧ Numbering.undecided.Suits size (fieldsOf ps)

section Render

variable {arguments : List (List Char)}
  {nested : Numbering → List Char → Except Fault (List Char × Numbering)} {numbering : Numbering}
  {f : Field} {ps : List Piece} {r : List Char × Numbering}

/-- A field has an argument, may have fields in its layout, and the rest follows. -/
theorem exists_of_renderWith_field
    (h : renderWith arguments nested numbering (.field f :: ps) = .ok r) :
    ∃ value middle after tail, argument arguments numbering f.reference = .ok (value, middle) ∧
      (after = middle ∨ '{' ∈ f.layout ∧ ∃ text, nested middle f.layout = .ok (text, after)) ∧
      renderWith arguments nested after ps = .ok tail ∧ tail.2 = r.2 := by
  rw [renderWith] at h
  obtain ⟨⟨value, middle⟩, hargument, h⟩ := bind_eq_ok.mp h
  obtain ⟨subject, -, h⟩ := bind_eq_ok.mp h
  obtain ⟨converted, -, h⟩ := bind_eq_ok.mp h
  dsimp only at h
  split_ifs at h with hopen
  · obtain ⟨⟨layout, after⟩, hlayout, h⟩ := bind_eq_ok.mp h
    obtain ⟨filled, -, h⟩ := bind_eq_ok.mp h
    obtain ⟨⟨text, last⟩, htail, h⟩ := bind_eq_ok.mp h
    cases h
    exact ⟨value, middle, after, _, hargument,
      .inr ⟨List.contains_iff_mem.mp hopen, layout, hlayout⟩, htail, rfl⟩
  · rw [ok_bind] at h
    obtain ⟨filled, -, h⟩ := bind_eq_ok.mp h
    obtain ⟨⟨text, last⟩, htail, h⟩ := bind_eq_ok.mp h
    cases h
    exact ⟨value, middle, middle, _, hargument, .inl rfl, htail, rfl⟩

/-- If layouts lead on, a template that is filled leads on, can be read as a whole, and had enough
arguments. -/
theorem suits_of_renderWith_eq_ok
    (hnested : ∀ {numbering layout r}, nested numbering layout = .ok r → numbering.Leads r.2) :
    ∀ {ps : List Piece} {numbering : Numbering} {r : List Char × Numbering},
      renderWith arguments nested numbering ps = .ok r →
      numbering.Leads r.2 ∧ .broken ∉ ps ∧ numbering.Suits arguments.length (fieldsOf ps)
  | [], numbering, _, h => by
    cases h
    exact ⟨.refl numbering, List.not_mem_nil, numbering.suits_nil _⟩
  | .broken :: _, _, _, h => by cases h
  | .text chars :: ps, numbering, r, h => by
    rw [renderWith] at h
    obtain ⟨tail, htail, h⟩ := bind_eq_ok.mp h
    cases h
    obtain ⟨hleads, hbroken, hsuits⟩ := suits_of_renderWith_eq_ok hnested htail
    exact ⟨hleads, by simpa using hbroken, hsuits⟩
  | .field f :: ps, numbering, r, h => by
    obtain ⟨value, middle, after, tail, hargument, hlayout, htail, hr⟩ :=
      exists_of_renderWith_field h
    obtain ⟨hrest, hbroken, hsuits⟩ := suits_of_renderWith_eq_ok hnested htail
    -- fields of a layout take arguments too, after which no more are there than before
    have hafter : middle.Leads after := by
      rcases hlayout with rfl | ⟨-, text, htext⟩
      · exact .refl after
      · exact hnested htext
    exact ⟨(leads_of_argument_eq_ok hargument).trans (hr ▸ hafter.trans hrest),
      by simpa using hbroken, suits_cons_iff.mpr ⟨value, middle, hargument, hsuits.of_leads hafter⟩⟩

theorem suits_of_render_eq_ok :
    ∀ {levels : Nat} {numbering : Numbering} {ps : List Piece} {r : List Char × Numbering},
      render arguments levels numbering ps = .ok r →
      numbering.Leads r.2 ∧ .broken ∉ ps ∧ numbering.Suits arguments.length (fieldsOf ps)
  | 0, _, _, _, h => suits_of_renderWith_eq_ok (fun hr => by cases hr) h
  | _ + 1, _, _, _, h => suits_of_renderWith_eq_ok (fun hr => (suits_of_render_eq_ok hr).1) h

end Render

/-- Whatever its fields ask for, a template is filled only with enough arguments, all in turn or
all by number. -/
theorem fillable_of_format_eq_ok {template text : String} {arguments : List String}
    (h : format template arguments = .ok text) :
    Fillable arguments.length (pieces template.toList) := by
  obtain ⟨r, hr, -⟩ := map_eq_ok.mp h
  have hsuits := (suits_of_render_eq_ok hr).2
  rwa [List.length_map] at hsuits

/-! ## Fields that ask for nothing -/

/-- A field asks for no part of its argument, does not lay it out, and has no conversion or one that
there is. -/
structure Field.IsPlain (f : Field) : Prop where
  name_eq : f.name = f.reference
  layout_eq : f.layout = []
  conversion_mem : f.conversion ∈ [none, some 's', some 'r', some 'a', some '\x00']

section Plain

variable {arguments : List (List Char)}
  {nested : Numbering → List Char → Except Fault (List Char × Numbering)} {f : Field}

theorem Field.IsPlain.exists_convert (h : f.IsPlain) (s : Subject) :
    ∃ t, convert s f.conversion = .ok t := by
  have hmem := h.conversion_mem
  simp only [List.mem_cons, List.not_mem_nil, or_false] at hmem
  rcases hmem with h | h | h | h | h <;> exact ⟨_, by rw [h]; rfl⟩

/-- A plain field is filled from any argument that it has. -/
theorem Field.IsPlain.exists_renderWith_iff (h : f.IsPlain) {numbering : Numbering}
    {ps : List Piece} :
    (∃ r, renderWith arguments nested numbering (.field f :: ps) = .ok r) ↔
      ∃ value after, argument arguments numbering f.reference = .ok (value, after) ∧
        ∃ r, renderWith arguments nested after ps = .ok r := by
  constructor
  · rintro ⟨r, hr⟩
    obtain ⟨value, middle, after, tail, hargument, rfl | ⟨hopen, -⟩, htail, -⟩ :=
      exists_of_renderWith_field hr
    · exact ⟨value, after, hargument, tail, htail⟩
    · exact absurd (h.layout_eq ▸ hopen) List.not_mem_nil
  · rintro ⟨value, after, hargument, tail, htail⟩
    obtain ⟨t, ht⟩ := h.exists_convert (.text value)
    have hselect : select f.name.length (.text value) (f.name.drop f.reference.length) =
        .ok (.text value) := by
      rw [← h.name_eq, List.drop_length]
      cases f.name.length <;> rfl
    refine ⟨(t.display ++ tail.1, tail.2), ?_⟩
    rw [renderWith]
    change argument arguments numbering f.reference >>= _ = _
    rw [hargument, ok_bind]
    change select f.name.length (.text value) (f.name.drop f.reference.length) >>= _ = _
    rw [hselect, ok_bind, ht, ok_bind, h.layout_eq]
    simp [fillIn, htail]

/-- If all its fields are plain, nothing more is needed for a template to be filled than that it can
be read as a whole and has enough arguments. -/
theorem exists_renderWith_iff :
    ∀ {ps : List Piece} {numbering : Numbering}, (∀ f ∈ fieldsOf ps, f.IsPlain) →
      ((∃ r, renderWith arguments nested numbering ps = .ok r) ↔
        .broken ∉ ps ∧ numbering.Suits arguments.length (fieldsOf ps))
  | [], numbering, _ => iff_of_true ⟨_, rfl⟩ ⟨List.not_mem_nil, numbering.suits_nil _⟩
  | .broken :: ps, numbering, _ => by simp [renderWith]
  | .text chars :: ps, numbering, h => by
    have htext : (∃ r, renderWith arguments nested numbering (.text chars :: ps) = .ok r) ↔
        ∃ r, renderWith arguments nested numbering ps = .ok r := by
      rw [renderWith]
      cases renderWith arguments nested numbering ps <;> simp
    have hbroken : Piece.broken ∈ Piece.text chars :: ps ↔ .broken ∈ ps := by simp
    rw [htext, hbroken]
    exact exists_renderWith_iff h
  | .field f :: ps, numbering, h => by
    obtain ⟨hf, hfs⟩ := List.forall_mem_cons.mp h
    have hbroken : Piece.broken ∈ Piece.field f :: ps ↔ .broken ∈ ps := by simp
    have hfields : fieldsOf (.field f :: ps) = f :: fieldsOf ps := rfl
    have hrest : ∀ after, (∃ r, renderWith arguments nested after ps = .ok r) ↔
        .broken ∉ ps ∧ after.Suits arguments.length (fieldsOf ps) :=
      fun after => exists_renderWith_iff hfs
    rw [hf.exists_renderWith_iff, hbroken, hfields, suits_cons_iff]
    simp only [hrest, and_left_comm, exists_and_left]

end Plain

/-- If all its fields are plain, a template is filled just when it can be read as a whole and has
enough arguments. -/
theorem exists_format_iff {template : String} {arguments : List String}
    (h : ∀ f ∈ fieldsOf (pieces template.toList), f.IsPlain) :
    (∃ text, format template arguments = .ok text) ↔
      Fillable arguments.length (pieces template.toList) := by
  constructor
  · rintro ⟨text, htext⟩
    exact fillable_of_format_eq_ok htext
  · intro hfillable
    rw [Fillable, ← List.length_map String.toList] at hfillable
    obtain ⟨r, hr⟩ := (exists_renderWith_iff h).mpr hfillable
    exact ⟨String.ofList r.1, map_eq_ok.mpr ⟨r, hr, rfl⟩⟩

/-- The field that takes the next argument as it is. -/
def emptyField : Field :=
  ⟨[], none, []⟩

theorem isPlain_emptyField : emptyField.IsPlain :=
  ⟨rfl, rfl, List.mem_cons_self⟩

theorem not_isNumbered_emptyField (size : Nat) : ¬ emptyField.IsNumbered size := by
  rintro ⟨i, -, hi⟩
  cases hi

/-- Without any field but `{}`, arguments are enough if there is one for each of them. -/
theorem fillable_iff_count_le {size : Nat} {ps : List Piece}
    (h : ∀ f, .field f ∈ ps → f = emptyField) :
    Fillable size ps ↔ .broken ∉ ps ∧ ps.count (.field emptyField) ≤ size := by
  have hempty : ∀ f ∈ fieldsOf ps, f = emptyField := fun f hf => h f (mem_fieldsOf.mp hf)
  have hcount : ps.count (.field emptyField) = (fieldsOf ps).length := by
    rw [fieldsOf, List.length_filterMap_eq_countP, List.count]
    refine List.countP_congr fun p hp => ?_
    cases p with
    | field f => simp [Piece.field?, h f hp]
    | text | broken => simp [Piece.field?]
  rw [Fillable, hcount]
  refine and_congr_right fun _ => ⟨?_, fun hsize => .inl ⟨fun f hf => ?_, hsize⟩⟩
  · rintro (⟨-, hsize⟩ | hnumbered)
    · exact hsize
    · have hnil : fieldsOf ps = [] := List.eq_nil_iff_forall_not_mem.mpr fun f hf =>
        not_isNumbered_emptyField size (hempty f hf ▸ hnumbered f hf)
      exact hnil ▸ Nat.zero_le size
  · rw [hempty f hf]
    rfl

end Routewright.Formatting
