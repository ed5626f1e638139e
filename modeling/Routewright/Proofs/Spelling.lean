import Mathlib.Data.List.Basic
import Routewright.ModulePath
import Routewright.Request

/-!
# How names are spelled

What a target takes for an identifier is a word (`isWord`), which starts like a name and has name
characters alone. Generated names are put together from names that were read, and which of them are
words can be told from the characters of what was read.

A name that was read may end in a line feed, which then stands in the middle of the names of url
functions and at the end of parameters. Names of types lose everything but letters and digits, so
that their first character is what decides (`isWord_iff_isTypeName`).
-/

namespace Routewright

/-! ## Words -/

/-- Whether a text is a word : letters, digits and underscores, the first of them no digit. -/
def isWord : List Char → Bool
  | [] => false
  | c :: cs => isNameStart c && cs.all isNameChar

theorem isNameChar_of_isNameStart {c : Char} (h : isNameStart c = true) : isNameChar c = true := by
  simp only [isNameStart, isNameChar, Char.isAlphanum, Bool.or_eq_true] at h ⊢
  exact h.imp_left .inl

/-- A word starts like a name and has name characters alone. -/
theorem isWord_iff {cs : List Char} :
    isWord cs = true ↔
      (∃ c ∈ cs.head?, isNameStart c = true) ∧ ∀ c ∈ cs, isNameChar c = true := by
  cases cs with
  | nil => simp [isWord]
  | cons d ds =>
    rw [isWord, Bool.and_eq_true, List.all_eq_true, List.forall_mem_cons]
    constructor
    · rintro ⟨hd, hds⟩
      exact ⟨⟨d, rfl, hd⟩, isNameChar_of_isNameStart hd, hds⟩
    · rintro ⟨⟨c, hc, hstart⟩, -, hds⟩
      obtain rfl := Option.some.inj hc
      exact ⟨hstart, hds⟩

theorem isNameChar_or_eq_of_mem_nameTail :
    ∀ {cs : List Char}, isNameTail cs = true → ∀ c ∈ cs, isNameChar c = true ∨ c = '\n'
  | [], _, c, hc => absurd hc List.not_mem_nil
  | d :: ds, h, c, hc => by
    simp only [isNameTail, Bool.or_eq_true, Bool.and_eq_true, decide_eq_true_eq,
      List.isEmpty_iff] at h
    rcases h with ⟨rfl, rfl⟩ | ⟨hd, htail⟩
    · exact .inr (List.mem_singleton.mp hc)
    · rcases List.mem_cons.mp hc with rfl | hc
      · exact .inl hd
      · exact isNameChar_or_eq_of_mem_nameTail htail c hc

/-- What is read as a name starts like one, and has name characters and line feeds. -/
theorem of_isIdentifier {cs : List Char} (h : isIdentifier cs = true) :
    (∃ c ∈ cs.head?, isNameStart c = true) ∧ ∀ c ∈ cs, isNameChar c = true ∨ c = '\n' := by
  cases cs with
  | nil => cases h
  | cons d ds =>
    obtain ⟨hd, htail⟩ := Bool.and_eq_true_iff.mp h
    exact ⟨⟨d, rfl, hd⟩, List.forall_mem_cons.mpr
      ⟨.inl (isNameChar_of_isNameStart hd), isNameChar_or_eq_of_mem_nameTail htail⟩⟩

/-- What is read as a name has name characters alone just when it has no line feed. -/
theorem forall_isNameChar_iff {cs : List Char} (h : isIdentifier cs = true) :
    (∀ c ∈ cs, isNameChar c = true) ↔ '\n' ∉ cs := by
  constructor
  · exact fun hchars hmem => absurd (hchars _ hmem) (by decide)
  · intro hfree c hc
    refine ((of_isIdentifier h).2 c hc).resolve_right ?_
    rintro rfl
    exact hfree hc

/-! ## Words in a row -/

/-- The characters of joined texts are those of each, as far as the separator has them too. -/
theorem Text.forall_mem_join {P : Char → Prop} {separator : String}
    (hseparator : ∀ c ∈ separator.toList, P c) :
    ∀ {items : List String}, (∀ c ∈ (Text.join separator items).toList, P c) ↔
      ∀ item ∈ items, ∀ c ∈ item.toList, P c
  | [] => by simp [Text.join]
  | [item] => by simp [Text.join]
  | item :: next :: rest => by
    rw [Text.join, List.forall_mem_cons, String.toList_append, String.toList_append,
      List.forall_mem_append, List.forall_mem_append, Text.forall_mem_join hseparator]
    exact and_congr_left fun _ => and_iff_left hseparator

/-- What stands neither in texts nor in the separator does not stand in the texts joined. -/
theorem Text.not_mem_join {c : Char} {separator : String} {items : List String}
    (hseparator : c ∉ separator.toList) (hitems : ∀ item ∈ items, c ∉ item.toList) :
    c ∉ (Text.join separator items).toList := by
  refine List.forall_mem_ne.mp ((Text.forall_mem_join (List.forall_mem_ne.mpr hseparator)).mpr ?_)
  exact fun item hitem => List.forall_mem_ne.mpr (hitems item hitem)

theorem Text.head?_join (separator : String) {first : String} (rest : List String)
    (h : first.toList ≠ []) :
    (Text.join separator (first :: rest)).toList.head? = first.toList.head? := by
  cases rest with
  | nil => rfl
  | cons next rest =>
    rw [Text.join, String.toList_append, String.toList_append, List.append_assoc,
      List.head?_append_of_ne_nil _ h]

/-- The name of a constructor is a word just when the parameters in it have name characters
alone. -/
theorem isWord_makerName {shape : List String} :
    isWord (makerName shape).toList = true ↔
      ∀ part ∈ shape, ∀ c ∈ part.toList, isNameChar c = true := by
  unfold makerName
  split_ifs with hempty
  · rw [List.isEmpty_iff.mp hempty]
    exact iff_of_true (by decide) fun _ hpart => absurd hpart List.not_mem_nil
  · have hstart : ∃ c ∈ ("for_" ++ Text.join "_" shape).toList.head?, isNameStart c = true := by
      rw [String.toList_append]
      exact ⟨'f', rfl, by decide⟩
    rw [isWord_iff, and_iff_right hstart, String.toList_append, List.forall_mem_append,
      and_iff_right (List.all_eq_true.mp rfl), Text.forall_mem_join (List.all_eq_true.mp rfl)]

/-! ## Words of letters and digits -/

/-- What holds of the first 128 characters holds of every letter and digit. -/
theorem forall_isAlphanum {P : Char → Prop}
    (h : ∀ n < 128, (Char.ofNat n).isAlphanum → P (Char.ofNat n)) {c : Char} (hc : c.isAlphanum) :
    P c := by
  have hlt : c.toNat < 128 := by
    delta Char.isAlphanum Char.isAlpha Char.isUpper Char.isLower Char.isDigit at hc
    simp only [Bool.or_eq_true, Bool.and_eq_true, decide_eq_true_eq, UInt32.le_iff_toNat_le,
      ge_iff_le] at hc
    have hvalue : c.toNat = c.val.toNat := rfl
    have hupper : 'Z'.val.toNat = 90 := rfl
    have hlower : 'z'.val.toNat = 122 := rfl
    have hdigit : '9'.val.toNat = 57 := rfl
    omega
  have hchar := h c.toNat hlt
  rw [Char.ofNat_toNat] at hchar
  exact hchar hc

/-- A letter or digit that is raised stays one, and only a digit becomes a digit. -/
theorem isAlphanum_toUpper {c : Char} (h : c.isAlphanum) :
    c.toUpper.isAlphanum ∧ c.toUpper.isDigit = c.isDigit :=
  forall_isAlphanum (P := fun c => c.toUpper.isAlphanum ∧ c.toUpper.isDigit = c.isDigit)
    (by decide +kernel) h

theorem toUpper_toUpper {c : Char} (h : c.isAlphanum) : c.toUpper.toUpper = c.toUpper :=
  forall_isAlphanum (P := fun c => c.toUpper.toUpper = c.toUpper) (by decide +kernel) h

/-- A letter or digit starts a name just when it is no digit. -/
theorem isNameStart_iff_not_isDigit {c : Char} (h : c.isAlphanum) :
    isNameStart c = true ↔ c.isDigit = false :=
  forall_isAlphanum (P := fun c => isNameStart c = true ↔ c.isDigit = false) (by decide +kernel) h

theorem isAlphanum_of_mem_pascalFrom :
    ∀ {chars : List Char} {fresh : Bool}, ∀ c ∈ pascalFrom fresh chars, c.isAlphanum
  | [], _, c, hc => absurd hc List.not_mem_nil
  | d :: chars, fresh, c, hc => by
    unfold pascalFrom at hc
    split_ifs at hc with hd hfresh
    · rcases List.mem_cons.mp hc with rfl | hc
      · exact (isAlphanum_toUpper hd).1
      · exact isAlphanum_of_mem_pascalFrom c hc
    · rcases List.mem_cons.mp hc with rfl | hc
      · exact hd
      · exact isAlphanum_of_mem_pascalFrom c hc
    · exact isAlphanum_of_mem_pascalFrom c hc

theorem isAlphanum_of_mem_pascal {s : String} : ∀ c ∈ (pascal s).toList, c.isAlphanum := by
  rw [pascal, String.toList_ofList]
  exact isAlphanum_of_mem_pascalFrom

/-- A capitalised word starts with the first letter or digit of its spelling. -/
theorem head?_pascalFrom :
    ∀ chars : List Char,
      (pascalFrom true chars).head? = (chars.find? Char.isAlphanum).map Char.toUpper
  | [] => rfl
  | c :: chars => by
    rw [pascalFrom]
    by_cases hc : c.isAlphanum
    · rw [if_pos hc, List.find?_cons_of_pos hc]
      rfl
    · rw [if_neg hc, List.find?_cons_of_neg hc, head?_pascalFrom chars]

theorem head?_pascal (s : String) :
    (pascal s).toList.head? = (s.toList.find? Char.isAlphanum).map Char.toUpper := by
  rw [pascal, String.toList_ofList, head?_pascalFrom]

theorem pascalFrom_false :
    ∀ {chars : List Char}, (∀ c ∈ chars, c.isAlphanum) → pascalFrom false chars = chars
  | [], _ => rfl
  | c :: chars, h => by
    obtain ⟨hc, hchars⟩ := List.forall_mem_cons.mp h
    rw [pascalFrom, if_pos hc, pascalFrom_false hchars]
    rfl

/-- A capitalised word is its own spelling. -/
theorem pascal_pascal (s : String) : pascal (pascal s) = pascal s := by
  have hchars : ∀ chars : List Char,
      pascalFrom true (pascalFrom true chars) = pascalFrom true chars := by
    intro chars
    induction chars with
    | nil => rfl
    | cons c chars ih =>
      rw [pascalFrom]
      by_cases hc : c.isAlphanum
      · rw [if_pos hc, if_pos rfl, pascalFrom, if_pos (isAlphanum_toUpper hc).1, if_pos rfl,
          toUpper_toUpper hc, pascalFrom_false isAlphanum_of_mem_pascalFrom]
      · rw [if_neg hc, ih]
  rw [pascal, pascal, String.toList_ofList, hchars]

theorem isTypeName_iff {s : String} :
    isTypeName s = true ↔ ∃ c ∈ s.toList.head?, c.isDigit = false := by
  unfold isTypeName
  cases s.toList <;> simp

/-- A text of letters and digits is a word just when it can stand for a type. -/
theorem isWord_iff_isTypeName {s : String} (h : ∀ c ∈ s.toList, c.isAlphanum) :
    isWord s.toList = true ↔ isTypeName s = true := by
  have hchars : ∀ c ∈ s.toList, isNameChar c = true := fun c hc => by simp [isNameChar, h c hc]
  rw [isWord_iff, and_iff_left hchars, isTypeName_iff]
  exact exists_congr fun c => and_congr_right fun hc =>
    isNameStart_iff_not_isDigit (h c (List.mem_of_mem_head? hc))

theorem isAlphanum_of_mem_sharedTypeName {s : String} :
    ∀ c ∈ (sharedTypeName s).toList, c.isAlphanum := by
  simp only [sharedTypeName]
  split_ifs
  · rw [String.toList_append, List.forall_mem_append]
    exact ⟨isAlphanum_of_mem_pascal, List.all_eq_true.mp rfl⟩
  · exact isAlphanum_of_mem_pascal

/-- The name of a shared type is its own spelling. -/
theorem sharedTypeName_sharedTypeName (s : String) :
    sharedTypeName (sharedTypeName s) = sharedTypeName s := by
  have hshared : ∀ name ∈ sharedTypeNames, sharedTypeName (name ++ "Part") = name ++ "Part" := by
    decide
  by_cases hmem : pascal s ∈ sharedTypeNames
  · rw [sharedTypeName.eq_1 s, if_pos hmem, hshared _ hmem]
  · rw [sharedTypeName.eq_1 s, if_neg hmem, sharedTypeName, pascal_pascal, if_neg hmem]

theorem sharedTypeName_underscore (s : String) : sharedTypeName ("_" ++ s) = sharedTypeName s := by
  have hpascal : pascal ("_" ++ s) = pascal s := by
    rw [pascal, String.toList_append]
    rfl
  rw [sharedTypeName, hpascal]
  rfl

theorem isTypeName_sharedTypeName {s : String} :
    isTypeName (sharedTypeName s) = true ↔ isTypeName (pascal s) = true := by
  have hshared : ∀ name ∈ sharedTypeNames, isTypeName name = true ∧
      isTypeName (name ++ "Part") = true := by decide
  simp only [sharedTypeName]
  split_ifs with hmem
  · exact iff_of_true (hshared _ hmem).2 (hshared _ hmem).1
  · rfl

/-- The name of a shared type is a word if it can stand for a type at all. -/
theorem isWord_sharedTypeName {s : String} :
    isWord (sharedTypeName s).toList = true ↔ isTypeName (pascal s) = true := by
  rw [isWord_iff_isTypeName isAlphanum_of_mem_sharedTypeName, isTypeName_sharedTypeName]

/-! ## Names from the name of an endpoint -/

theorem Text.flatten_pieces (separator : Char) :
    ∀ chars : List Char,
      (Text.pieces separator chars).flatten = chars.filter fun c => c ≠ separator
  | [] => rfl
  | c :: chars => by
    have ih := Text.flatten_pieces separator chars
    unfold Text.pieces
    split_ifs with hc
    · rw [List.flatten_cons, ih, List.nil_append, List.filter_cons_of_neg (by simpa using hc)]
    · rw [List.filter_cons_of_pos (by simpa using hc), ← ih]
      cases Text.pieces separator chars <;> rfl

theorem Text.pieces_ne_nil (separator : Char) (chars : List Char) :
    Text.pieces separator chars ≠ [] := by
  cases chars with
  | nil => exact List.cons_ne_nil _ _
  | cons c chars =>
    unfold Text.pieces
    split_ifs
    · exact List.cons_ne_nil _ _
    · cases Text.pieces separator chars <;> exact List.cons_ne_nil _ _

/-- The tokens of a name are identifiers, at least one, and have its characters but the dots. -/
theorem modulePath_eq_ok {name : String} {tokens : List String}
    (h : modulePath name = .ok tokens) :
    (∀ token ∈ tokens, isIdentifier token.toList = true) ∧ tokens ≠ [] ∧
      tokens.flatMap String.toList = name.toList.filter fun c => c ≠ '.' := by
  unfold modulePath at h
  split_ifs at h
  dsimp only at h
  split at h
  · cases h
  · next hnone =>
    obtain rfl := Except.ok.inj h
    refine ⟨?_, fun hnil => Text.pieces_ne_nil _ _ (List.map_eq_nil_iff.mp hnil), ?_⟩
    · rw [List.forall_mem_map]
      intro token htoken
      rw [String.toList_ofList]
      simpa using List.find?_eq_none.mp hnone token htoken
    · rw [List.flatMap_map, ← Text.flatten_pieces]
      simp [List.flatMap]

/-- The name of a url function is a prefix that its endpoint decides, followed by what its shape
decides. -/
theorem urlFunctionName_eq (tokens shape : List String) :
    urlFunctionName tokens shape = Text.join "_" tokens ++ ("_url" ++
      if shape.isEmpty then "" else "_" ++ Text.join "_" shape) := by
  have hword : "_url_" = "_url" ++ "_" := by decide
  unfold urlFunctionName
  split_ifs
  · rw [String.append_empty]
  · rw [hword, String.append_assoc, String.append_assoc]

/-- The characters of a url function are those of its tokens and of its shape. -/
theorem forall_mem_urlFunctionName {P : Char → Prop} (hword : ∀ c ∈ "_url".toList, P c)
    {tokens shape : List String} :
    (∀ c ∈ (urlFunctionName tokens shape).toList, P c) ↔
      (∀ token ∈ tokens, ∀ c ∈ token.toList, P c) ∧ ∀ part ∈ shape, ∀ c ∈ part.toList, P c := by
  have hseparator : ∀ c ∈ "_".toList, P c := fun c hc => by
    obtain rfl := List.mem_singleton.mp hc
    exact hword '_' List.mem_cons_self
  rw [urlFunctionName_eq, String.toList_append, String.toList_append, List.forall_mem_append,
    List.forall_mem_append, Text.forall_mem_join hseparator, and_iff_right hword]
  refine and_congr_right fun _ => ?_
  split_ifs with hempty
  · rw [List.isEmpty_iff.mp hempty]
    simp
  · rw [String.toList_append, List.forall_mem_append, Text.forall_mem_join hseparator,
      and_iff_right hseparator]

theorem isAlphanum_of_mem_requestTypeName {tokens : List String} :
    ∀ c ∈ (requestTypeName tokens).toList, c.isAlphanum := by
  rw [requestTypeName, String.toList_append, String.toList_join, List.forall_mem_append]
  refine ⟨fun c hc => ?_, List.all_eq_true.mp rfl⟩
  obtain ⟨word, hword, hc⟩ := List.mem_flatMap.mp hc
  obtain ⟨token, -, rfl⟩ := List.mem_map.mp hword
  exact isAlphanum_of_mem_pascal c hc

/-- The name of a record starts with the first letter or digit of its tokens. -/
theorem head?_requestTypeName :
    ∀ tokens : List String, (requestTypeName tokens).toList.head? =
      (((tokens.flatMap String.toList).find? Char.isAlphanum).map Char.toUpper).or (some 'R')
  | [] => rfl
  | token :: tokens => by
    have ih := head?_requestTypeName tokens
    rw [requestTypeName, String.toList_append, String.toList_join] at ih ⊢
    rw [List.map_cons, List.flatMap_cons, List.append_assoc, List.head?_append, head?_pascal,
      List.flatMap_cons, List.find?_append, ih]
    cases token.toList.find? Char.isAlphanum <;> rfl

theorem Text.length_le_join (separator : String) {item : String} :
    ∀ {items : List String}, item ∈ items → item.length ≤ (Text.join separator items).length
  | [_], h => (List.mem_singleton.mp h ▸ Nat.le_refl _)
  | first :: next :: rest, h => by
    rw [Text.join, String.length_append, String.length_append]
    rcases List.mem_cons.mp h with rfl | h
    · omega
    · have := Text.length_le_join separator h
      omega

/-- The name of a url function is longer than that of each parameter, even with an underscore
more. -/
theorem length_lt_urlFunctionName (tokens : List String) {shape : List String} {part : String}
    (h : part ∈ shape) : part.length + 1 < (urlFunctionName tokens shape).length := by
  have hlength := Text.length_le_join "_" h
  have hword : "_url".length = 4 := rfl
  rw [urlFunctionName_eq, if_neg (by simpa using List.ne_nil_of_mem h), String.length_append,
    String.length_append, String.length_append]
  omega

section EndpointName

variable {name : String} {tokens : List String} (h : modulePath name = .ok tokens)

include h

/-- The tokens of a name have a line feed just when the name has one. -/
theorem forall_tokens_iff :
    (∀ token ∈ tokens, ∀ c ∈ token.toList, isNameChar c = true) ↔ '\n' ∉ name.toList := by
  obtain ⟨hidentifiers, -, hchars⟩ := modulePath_eq_ok h
  have hname : '\n' ∉ name.toList ↔ ∀ token ∈ tokens, '\n' ∉ token.toList := by
    have hmem : '\n' ∈ tokens.flatMap String.toList ↔ '\n' ∈ name.toList := by
      rw [hchars, List.mem_filter, and_iff_left (by decide)]
    simp [← hmem]
  rw [hname]
  exact forall₂_congr fun token htoken => forall_isNameChar_iff (hidentifiers token htoken)

/-- The name of a url function is a word just when that of the endpoint has no line feed and the
parameters of the path have name characters alone. -/
theorem isWord_urlFunctionName {shape : List String} :
    isWord (urlFunctionName tokens shape).toList = true ↔
      '\n' ∉ name.toList ∧ ∀ part ∈ shape, ∀ c ∈ part.toList, isNameChar c = true := by
  obtain ⟨hidentifiers, hne, -⟩ := modulePath_eq_ok h
  obtain ⟨first, rest, rfl⟩ := List.exists_cons_of_ne_nil hne
  obtain ⟨⟨c, hc, hstart⟩, -⟩ := of_isIdentifier (hidentifiers first List.mem_cons_self)
  have hhead : ∃ c ∈ (urlFunctionName (first :: rest) shape).toList.head?,
      isNameStart c = true := by
    refine ⟨c, ?_, hstart⟩
    rw [urlFunctionName_eq, String.toList_append, List.head?_append, Text.head?_join,
      Option.mem_def.mp hc]
    · rfl
    · exact fun hnil => by simp [hnil] at hc
  rw [isWord_iff, and_iff_right hhead, forall_mem_urlFunctionName (List.all_eq_true.mp rfl),
    forall_tokens_iff h]

/-- The name of a record is a word just when the first letter or digit in that of the endpoint is no
digit. -/
theorem isWord_requestTypeName :
    isWord (requestTypeName tokens).toList = true ↔
      ∀ c ∈ name.toList.find? Char.isAlphanum, c.isDigit = false := by
  have hfound : (tokens.flatMap String.toList).find? Char.isAlphanum =
      name.toList.find? Char.isAlphanum := by
    rw [(modulePath_eq_ok h).2.2, List.find?_filter]
    refine congrArg (List.find? · name.toList) (funext fun c => ?_)
    by_cases hc : c = '.'
    · subst hc
      rfl
    · simp [hc]
  rw [isWord_iff_isTypeName isAlphanum_of_mem_requestTypeName, isTypeName_iff,
    head?_requestTypeName, hfound]
  cases hchar : name.toList.find? Char.isAlphanum with
  | none => simp
  | some c => simp [(isAlphanum_toUpper (List.find?_some hchar)).2]

end EndpointName

end Routewright
