import Mathlib.Data.List.Induction
import Mathlib.Data.Nat.Digits.Defs
import Routewright.Json.Reader
import Routewright.Proofs.Outcome
import Routewright.Proofs.Table

/-!
# Objects as they are written

The reader of JSON keeps the last of the members of an object that share a name. `Json.Members` are
the members of an object as they stand in a text, all of them and in order, and `Json.Writes` says
so for the object that is a whole text. A text that is read as an object writes its members in one
way (`exists_writes`, `Writes.unique`), and the object has what `Value.ofEntries` leaves of them.
-/

namespace Routewright

open Outcome

/-! ## Values -/

/-- A value that a JSON text writes : all keys of objects are texts, and every integer can be
written. -/
inductive Value.IsJson : Value → Prop
  | null : IsJson .null
  | bool (b : Bool) : IsJson (.bool b)
  | int {n : Int} : (Value.int n).hasText → IsJson (.int n)
  | float (x : Binary64) : IsJson (.float x)
  | text (s : String) : IsJson (.text s)
  | list {items : List Value} : (∀ v ∈ items, IsJson v) → IsJson (.list items)
  | map {entries : List (Value × Value)} : (∀ e ∈ entries, ∃ name, e.1 = .text name) →
      (∀ e ∈ entries, IsJson e.2) → IsJson (.map entries)

namespace Value

/-- What holds of all keys and values holds after one more entry is written. -/
theorem forall_putEntry {p q : Value → Prop} {key value : Value} (hkey : p key) (hvalue : q value) :
    ∀ {entries : List (Value × Value)}, (∀ e ∈ entries, p e.1 ∧ q e.2) →
      ∀ e ∈ putEntry key value entries, p e.1 ∧ q e.2
  | [], _ => List.forall_mem_singleton.mpr ⟨hkey, hvalue⟩
  | (k, v) :: entries, h => by
    obtain ⟨hentry, hentries⟩ := List.forall_mem_cons.mp h
    unfold putEntry
    split_ifs
    · exact List.forall_mem_cons.mpr ⟨⟨hentry.1, hvalue⟩, hentries⟩
    · exact List.forall_mem_cons.mpr ⟨hentry, forall_putEntry hkey hvalue hentries⟩

theorem isJson_map_iff {entries : List (Value × Value)} :
    (Value.map entries).IsJson ↔ ∀ e ∈ entries, (∃ name, e.1 = .text name) ∧ e.2.IsJson := by
  constructor
  · rintro (_ | _ | _ | _ | _ | _ | ⟨hkeys, hvalues⟩)
    exact fun e he => ⟨hkeys e he, hvalues e he⟩
  · exact fun h => .map (fun e he => (h e he).1) fun e he => (h e he).2

/-- An object stays one with a member more. -/
theorem IsJson.putEntry {name : String} {v : Value} {entries : List (Value × Value)}
    (h : (Value.map entries).IsJson) (hv : v.IsJson) :
    (Value.map (Value.putEntry (.text name) v entries)).IsJson := by
  rw [isJson_map_iff] at h ⊢
  exact forall_putEntry (p := fun k => ∃ name, k = .text name) ⟨name, rfl⟩ hv h

end Value

namespace Json

variable {levels fuel : Nat} {c next next' : Cursor}

/-! ## Fuel -/

/-- What is read with some fuel is read with more. -/
theorem read_succ (fuel : Nat) :
    (∀ {levels c r}, value levels fuel c = .ok r → value levels (fuel + 1) c = .ok r) ∧
    (∀ {levels before c r}, members levels fuel before c = .ok r →
      members levels (fuel + 1) before c = .ok r) ∧
    (∀ {levels c r}, elements levels fuel c = .ok r → elements levels (fuel + 1) c = .ok r) := by
  induction fuel with
  | zero => exact ⟨nofun, nofun, nofun⟩
  | succ fuel ih =>
    obtain ⟨hvalue, hmembers, helements⟩ := ih
    refine ⟨fun {levels c r} h => ?_, fun {levels before c r} h => ?_, fun {levels c r} h => ?_⟩
    · rw [value] at h ⊢
      split at h
      · cases h
      · exact h
      · split_ifs at h with hlevels
        dsimp only at h ⊢
        rw [if_neg hlevels]
        split at h
        · exact h
        · obtain ⟨m, hm, rfl⟩ := map_eq_ok.mp h
          exact map_eq_ok.mpr ⟨m, hmembers hm, rfl⟩
      · split_ifs at h with hlevels
        dsimp only at h ⊢
        rw [if_neg hlevels]
        split at h
        · exact h
        · obtain ⟨vs, hvs, rfl⟩ := map_eq_ok.mp h
          exact map_eq_ok.mpr ⟨vs, helements hvs, rfl⟩
      · exact h
    · rw [members] at h ⊢
      split at h
      · obtain ⟨⟨name, c⟩, hname, h⟩ := bind_eq_ok.mp h
        refine bind_eq_ok.mpr ⟨_, hname, ?_⟩
        dsimp only at h ⊢
        split at h
        · obtain ⟨⟨v, c⟩, hv, h⟩ := bind_eq_ok.mp h
          refine bind_eq_ok.mpr ⟨_, hvalue hv, ?_⟩
          dsimp only at h ⊢
          split at h
          · exact h
          · exact hmembers h
          · cases h
        · cases h
      · cases h
    · rw [elements] at h ⊢
      obtain ⟨⟨v, c⟩, hv, h⟩ := bind_eq_ok.mp h
      refine bind_eq_ok.mpr ⟨_, hvalue hv, ?_⟩
      dsimp only at h ⊢
      split at h
      · exact h
      · obtain ⟨vs, hvs, rfl⟩ := map_eq_ok.mp h
        exact map_eq_ok.mpr ⟨vs, helements hvs, rfl⟩
      · cases h

/-- A value that stands at a cursor, before another one. -/
def Reads (levels : Nat) (c : Cursor) (v : Value) (next : Cursor) : Prop :=
  ∃ fuel, value levels fuel c = .ok (v, next)

theorem value_mono {r : Value × Cursor} {fuel' : Nat} (hle : fuel ≤ fuel')
    (h : value levels fuel c = .ok r) : value levels fuel' c = .ok r := by
  induction hle with
  | refl => exact h
  | step _ ih => exact (read_succ _).1 ih

/-- One value stands at a cursor at most. -/
theorem Reads.unique {v v' : Value} (h : Reads levels c v next) (h' : Reads levels c v' next') :
    v = v' ∧ next = next' := by
  obtain ⟨fuel, hv⟩ := h
  obtain ⟨fuel', hv'⟩ := h'
  have heq := (value_mono (Nat.le_max_left fuel fuel') hv).symm.trans
    (value_mono (Nat.le_max_right fuel fuel') hv')
  exact Prod.mk.inj (Except.ok.inj heq)

/-- A value stands at a cursor if the reader gets past it. -/
theorem exists_reads {rest : List Char} {offset : Nat} (fuel : Nat)
    (h : ((value levels fuel c).toOption.map fun r => (r.2.rest, r.2.offset)) =
      some (rest, offset)) : ∃ v, Reads levels c v ⟨rest, offset⟩ := by
  rcases hread : value levels fuel c with fault | ⟨v, next⟩
  · rw [hread] at h
    cases h
  · rw [hread] at h
    cases h
    exact ⟨v, fuel, hread⟩

/-! ## Members -/

/-- A name and a value with a colon between them, and blanks behind them. -/
def Member (levels : Nat) (c : Cursor) (name : String) (v : Value) (next : Cursor) : Prop :=
  ∃ cs named after, c.rest = '"' :: cs ∧
    stringFrom c.offset (c.offset + 1) [] 0 cs = .ok (name, named) ∧
    named.skipSpace.rest.head? = some ':' ∧
    Reads levels (named.skipSpace.skip 1).skipSpace v after ∧ next = after.skipSpace

theorem Member.unique {name name' : String} {v v' : Value} (h : Member levels c name v next)
    (h' : Member levels c name' v' next') : name = name' ∧ v = v' ∧ next = next' := by
  obtain ⟨cs, named, after, hrest, hname, -, hv, rfl⟩ := h
  obtain ⟨cs', named', after', hrest', hname', -, hv', rfl⟩ := h'
  obtain rfl := (List.cons.inj (hrest.symm.trans hrest')).2
  obtain ⟨rfl, rfl⟩ := Prod.mk.inj (Except.ok.inj (hname.symm.trans hname'))
  obtain ⟨rfl, rfl⟩ := hv.unique hv'
  exact ⟨rfl, rfl, rfl⟩

/-- The members of an object as they are written, up to the bracket that closes it. -/
inductive Members (levels : Nat) : Cursor → List (String × Value) → Cursor → Prop
  | last {c next : Cursor} {name : String} {v : Value} :
      Member levels c name v next → next.rest.head? = some '}' →
      Members levels c [(name, v)] (next.skip 1)
  | more {c after next : Cursor} {name : String} {v : Value} {rest : List (String × Value)} :
      Member levels c name v after → after.rest.head? = some ',' →
      Members levels (after.skip 1).skipSpace rest next → Members levels c ((name, v) :: rest) next

/-- The members at a cursor are written in one way. -/
theorem Members.unique {written written' : List (String × Value)}
    (h : Members levels c written next) (h' : Members levels c written' next') :
    written = written' ∧ next = next' := by
  induction h generalizing written' next' with
  | last hmember hend =>
    cases h' with
    | last hmember' _ =>
      obtain ⟨rfl, rfl, rfl⟩ := hmember.unique hmember'
      exact ⟨rfl, rfl⟩
    | more hmember' hcomma _ =>
      obtain ⟨-, -, rfl⟩ := hmember.unique hmember'
      cases hend.symm.trans hcomma
  | more hmember hcomma _ ih =>
    cases h' with
    | last hmember' hend =>
      obtain ⟨-, -, rfl⟩ := hmember.unique hmember'
      cases hend.symm.trans hcomma
    | more hmember' _ hrest =>
      obtain ⟨rfl, rfl, rfl⟩ := hmember.unique hmember'
      obtain ⟨rfl, rfl⟩ := ih hrest
      exact ⟨rfl, rfl⟩

/-- A member as an entry of a value. -/
def entry (m : String × Value) : Value × Value :=
  (.text m.1, m.2)

/-- What the reader makes of an object is what it writes, member after member. -/
theorem exists_members :
    ∀ {fuel : Nat} {before entries : List (Value × Value)} {c next : Cursor},
      members levels fuel before c = .ok (entries, next) →
      ∃ written, Members levels c written next ∧
        entries = (written.map entry).foldl (fun m e => Value.putEntry e.1 e.2 m) before
  | 0, _, _, _, _, h => nomatch h
  | fuel + 1, before, entries, c, next, h => by
    rw [members] at h
    split at h
    · next cs hcs =>
      obtain ⟨⟨name, named⟩, hname, h⟩ := bind_eq_ok.mp h
      dsimp only at h
      split at h
      · next hcolon =>
        obtain ⟨⟨v, after⟩, hv, h⟩ := bind_eq_ok.mp h
        have hmember : Member levels c name v after.skipSpace :=
          ⟨cs, named, after, hcs, hname, congrArg List.head? hcolon, ⟨fuel, hv⟩, rfl⟩
        dsimp only at h
        split at h
        · next hend =>
          cases h
          exact ⟨_, .last hmember (congrArg List.head? hend), rfl⟩
        · next hcomma =>
          obtain ⟨written, hwritten, rfl⟩ := exists_members h
          exact ⟨_, .more hmember (congrArg List.head? hcomma) hwritten, rfl⟩
        · cases h
      · cases h
    · cases h

/-! ## Numbers -/

theorem natOf_lt : ∀ {ds : List Char}, (∀ d ∈ ds, d.isDigit) → natOf ds < 10 ^ ds.length := by
  intro ds
  induction ds using List.reverseRecOn with
  | nil => exact fun _ => Nat.one_pos
  | append_singleton ds d ih =>
    intro h
    have hds := ih fun d' hd' => h d' (List.mem_append_left _ hd')
    have hd : d.toNat - '0'.toNat ≤ 9 := by
      have hdigit := h d (List.mem_append_right _ (List.mem_singleton_self d))
      rw [Char.isDigit, Bool.and_eq_true, decide_eq_true_eq, decide_eq_true_eq] at hdigit
      have hle : d.toNat ≤ 57 := hdigit.2
      have hzero : '0'.toNat = 48 := rfl
      omega
    have hnat : natOf (ds ++ [d]) = natOf ds * 10 + (d.toNat - '0'.toNat) := by
      rw [natOf, List.foldl_append]
      rfl
    rw [hnat, List.length_append, List.length_singleton, Nat.pow_succ]
    omega

/-- An integer of no more digits than are read can be written. -/
theorem hasText_natOf {ds : List Char} (hdigits : ∀ d ∈ ds, d.isDigit)
    (hlength : ds.length ≤ Text.mostDigits) {n : Int} (hn : n.natAbs = natOf ds) :
    (Value.int n).hasText := by
  have hlt : natOf ds < 10 ^ Text.mostDigits :=
    (natOf_lt hdigits).trans_le (Nat.pow_le_pow_right (by decide) hlength)
  rw [Value.hasText, hn]
  exact decide_eq_true (Nat.toDigits_length 10 (natOf ds) Text.mostDigits (by decide) hlt)

/-- A number is an integer that can be written, or a float. -/
theorem number_eq_ok {v : Value} (h : number c = .ok (v, next)) :
    (∃ n, v = .int n ∧ v.hasText) ∨ ∃ x, v = .float x := by
  unfold number at h
  split at h
  next negative digitsFrom _ =>
  extract_lets whole at h
  split at h
  · cases h
  split at h
  extract_lets at h
  split at h
  · split at h
    · cases h
    next hlength =>
    obtain ⟨rfl, -⟩ := Prod.mk.inj (Except.ok.inj h)
    have hdigits : ∀ d ∈ whole, d.isDigit := by
      dsimp only [whole]
      split
      · exact List.forall_mem_singleton.mpr rfl
      · exact fun d hd => List.all_eq_true.mp List.all_takeWhile d hd
    refine .inl ⟨_, rfl, hasText_natOf hdigits (Nat.le_of_not_lt hlength) ?_⟩
    cases negative
    · exact Int.natAbs_natCast _
    · exact (Int.natAbs_neg _).trans (Int.natAbs_natCast _)
  · obtain ⟨rfl, -⟩ := Prod.mk.inj (Except.ok.inj h)
    exact .inr ⟨_, rfl⟩

/-! ## What is read -/

/-- What one call makes of a cursor, by what it calls in turn. -/
inductive ReadsBy (levels fuel : Nat) (c : Cursor) : Value → Cursor → Prop
  | text (s : String) {next : Cursor} : ReadsBy levels fuel c (.text s) next
  | emptyObject : c.rest.head? = some '{' → levels ≠ 0 →
      (c.skip 1).skipSpace.rest.head? = some '}' →
      ReadsBy levels fuel c (.map []) ((c.skip 1).skipSpace.skip 1)
  | object {entries : List (Value × Value)} {next : Cursor} : c.rest.head? = some '{' →
      levels ≠ 0 → members (levels - 1) fuel [] (c.skip 1).skipSpace = .ok (entries, next) →
      ReadsBy levels fuel c (.map entries) next
  | emptyArray {next : Cursor} : ReadsBy levels fuel c (.list []) next
  | array {items : List Value} {next : Cursor} :
      elements (levels - 1) fuel (c.skip 1).skipSpace = .ok (items, next) →
      ReadsBy levels fuel c (.list items) next
  | word {word : List Char} {v : Value} {next : Cursor} : (word, v) ∈ wordValues →
      ReadsBy levels fuel c v next
  | number {v : Value} {next : Cursor} : number c = .ok (v, next) → ReadsBy levels fuel c v next

theorem readsBy_of_value {v : Value} (h : value levels (fuel + 1) c = .ok (v, next)) :
    ReadsBy levels fuel c v next := by
  rw [value] at h
  split at h
  · cases h
  · obtain ⟨_, -, heq⟩ := map_eq_ok.mp h
    cases heq
    exact .text _
  · next hopen =>
    split_ifs at h with hlevels
    dsimp only at h
    split at h
    · next hend =>
      cases h
      exact .emptyObject (congrArg List.head? hopen) hlevels (congrArg List.head? hend)
    · obtain ⟨_, hentries, heq⟩ := map_eq_ok.mp h
      cases heq
      exact .object (congrArg List.head? hopen) hlevels hentries
  · split_ifs at h
    dsimp only at h
    split at h
    · cases h
      exact .emptyArray
    · obtain ⟨_, hitems, heq⟩ := map_eq_ok.mp h
      cases heq
      exact .array hitems
  · split at h
    · next hfound =>
      cases h
      exact .word (List.mem_of_find?_eq_some hfound)
    · exact .number h

theorem isJson_wordValues : ∀ w ∈ wordValues, w.2.IsJson := by
  simp only [wordValues, List.forall_mem_cons]
  exact ⟨.null, .bool _, .bool _, .float _, .float _, .float _, nofun⟩

/-- What is read is a value of JSON. -/
theorem isJson_of_read (fuel : Nat) :
    (∀ {levels c v next}, value levels fuel c = .ok (v, next) → v.IsJson) ∧
    (∀ {levels before c entries next}, (Value.map before).IsJson →
      members levels fuel before c = .ok (entries, next) → (Value.map entries).IsJson) ∧
    (∀ {levels c vs next}, elements levels fuel c = .ok (vs, next) → ∀ v ∈ vs, v.IsJson) := by
  induction fuel with
  | zero => exact ⟨nofun, nofun, nofun⟩
  | succ fuel ih =>
    obtain ⟨hvalue, hmembers, helements⟩ := ih
    have hempty : (Value.map []).IsJson := .map nofun nofun
    refine ⟨fun {levels c v next} h => ?_, fun {levels before c entries next} hbefore h => ?_,
      fun {levels c vs next} h => ?_⟩
    · cases readsBy_of_value h with
      | text s => exact .text s
      | emptyObject => exact hempty
      | object _ _ hentries => exact hmembers hempty hentries
      | emptyArray => exact .list nofun
      | array hitems => exact .list (helements hitems)
      | word hword => exact isJson_wordValues _ hword
      | number hnumber =>
        rcases number_eq_ok hnumber with ⟨n, rfl, hn⟩ | ⟨x, rfl⟩
        · exact .int hn
        · exact .float x
    · rw [members] at h
      split at h
      · obtain ⟨⟨name, _⟩, -, h⟩ := bind_eq_ok.mp h
        dsimp only at h
        split at h
        · obtain ⟨⟨v, _⟩, hv, h⟩ := bind_eq_ok.mp h
          have hentries : (Value.map (Value.putEntry (.text name) v before)).IsJson :=
            hbefore.putEntry (hvalue hv)
          dsimp only at h
          split at h
          · cases h
            exact hentries
          · exact hmembers hentries h
          · cases h
        · cases h
      · cases h
    · rw [elements] at h
      obtain ⟨⟨v, _⟩, hv, h⟩ := bind_eq_ok.mp h
      dsimp only at h
      split at h
      · cases h
        exact List.forall_mem_singleton.mpr (hvalue hv)
      · obtain ⟨⟨vs, _⟩, hvs, heq⟩ := map_eq_ok.mp h
        cases heq
        exact List.forall_mem_cons.mpr ⟨hvalue hv, helements hvs⟩
      · cases h

/-! ## Whole texts -/

/-- The members of an object from behind the bracket that opens it, of which there may be none. -/
inductive Inside (levels : Nat) : Cursor → List (String × Value) → Cursor → Prop
  | empty {c : Cursor} : c.rest.head? = some '}' → Inside levels c [] (c.skip 1)
  | members {c next : Cursor} {written : List (String × Value)} : Members levels c written next →
      Inside levels c written next

theorem Members.head?_rest {written : List (String × Value)} (h : Members levels c written next) :
    c.rest.head? = some '"' := by
  cases h with
  | last hmember | more hmember =>
    obtain ⟨cs, _, _, hrest, -⟩ := hmember
    rw [hrest]
    rfl

theorem Inside.unique {written written' : List (String × Value)}
    (h : Inside levels c written next) (h' : Inside levels c written' next') :
    written = written' ∧ next = next' := by
  cases h with
  | empty hend =>
    cases h' with
    | empty => exact ⟨rfl, rfl⟩
    | members h' => cases hend.symm.trans h'.head?_rest
  | members h =>
    cases h' with
    | empty hend => cases hend.symm.trans h.head?_rest
    | members h' => exact h.unique h'

/-- The cursor at the first character of a text that is no blank. -/
def start (text : String) : Cursor :=
  Cursor.skipSpace ⟨text.toList, 0⟩

/-- A text that writes an object with these members, in this order. -/
def Writes (levels : Nat) (text : String) (written : List (String × Value)) : Prop :=
  ∃ next, (start text).rest.head? = some '{' ∧ levels ≠ 0 ∧
    Inside (levels - 1) ((start text).skip 1).skipSpace written next ∧ next.skipSpace.rest = []

theorem Writes.unique {text : String} {written written' : List (String × Value)}
    (h : Writes levels text written) (h' : Writes levels text written') : written = written' := by
  obtain ⟨_, -, -, hinside, -⟩ := h
  obtain ⟨_, -, -, hinside', -⟩ := h'
  exact (hinside.unique hinside').1

/-- An object is read from its members. -/
theorem exists_inside {entries : List (Value × Value)}
    (h : value levels fuel c = .ok (.map entries, next)) :
    c.rest.head? = some '{' ∧ levels ≠ 0 ∧ ∃ written,
      Inside (levels - 1) (c.skip 1).skipSpace written next ∧
        entries = Value.ofEntries (written.map entry) := by
  cases fuel with
  | zero => cases h
  | succ fuel =>
    cases readsBy_of_value h with
    | emptyObject hopen hlevels hend => exact ⟨hopen, hlevels, [], .empty hend, rfl⟩
    | object hopen hlevels hentries =>
      obtain ⟨written, hwritten, rfl⟩ := exists_members hentries
      exact ⟨hopen, hlevels, written, .members hwritten, rfl⟩
    | word hword => simp [wordValues] at hword
    | number hnumber => rcases number_eq_ok hnumber with ⟨n, heq, -⟩ | ⟨x, heq⟩ <;> cases heq

theorem parse_eq_ok {text : String} {v : Value} (h : parse levels text = .ok v) :
    ∃ fuel next, value levels fuel (start text) = .ok (v, next) ∧ next.skipSpace.rest = [] := by
  unfold parse at h
  dsimp only at h
  split at h
  · cases h
  · obtain ⟨⟨v', next⟩, hv, h⟩ := bind_eq_ok.mp h
    dsimp only at h
    split at h
    · next hrest =>
      cases h
      exact ⟨_, next, hv, hrest⟩
    · cases h

/-- A text that is read as an object writes its members. -/
theorem exists_writes {text : String} {entries : List (Value × Value)}
    (h : parse levels text = .ok (.map entries)) :
    ∃ written, Writes levels text written ∧ entries = Value.ofEntries (written.map entry) := by
  obtain ⟨fuel, next, hv, hrest⟩ := parse_eq_ok h
  obtain ⟨hopen, hlevels, written, hinside, hentries⟩ := exists_inside hv
  exact ⟨written, ⟨next, hopen, hlevels, hinside, hrest⟩, hentries⟩

theorem isJson_of_parse {text : String} {v : Value} (h : parse levels text = .ok v) : v.IsJson := by
  obtain ⟨fuel, next, hv, -⟩ := parse_eq_ok h
  exact (isJson_of_read fuel).1 hv

theorem putEntry_map_entry (name : String) (v : Value) :
    ∀ table : List (String × Value),
      Value.putEntry (.text name) v (table.map entry) = (Table.put name v table).map entry
  | [] => rfl
  | (n, w) :: table => by
    have hkey : (Value.text n).sameKey (.text name) = decide (n = name) := rfl
    rw [List.map_cons, entry, Value.putEntry, hkey, Table.put]
    by_cases hn : n = name
    · rw [if_pos (decide_eq_true hn), if_pos hn]
      rfl
    · rw [if_neg (by simpa using hn), if_neg hn, putEntry_map_entry name v table]
      rfl

/-- Of members that share a name, an object has the last at the place of the first. -/
theorem ofEntries_map_entry (written : List (String × Value)) :
    Value.ofEntries (written.map entry) = (Table.ofList written).map entry := by
  have hfold : ∀ written table : List (String × Value),
      (written.map entry).foldl (fun m e => Value.putEntry e.1 e.2 m) (table.map entry) =
        (written.foldl (fun table e => Table.put e.1 e.2 table) table).map entry := by
    intro written
    induction written with
    | nil => exact fun _ => rfl
    | cons m written ih =>
      intro table
      rw [List.map_cons, List.foldl_cons, List.foldl_cons, ← ih, ← putEntry_map_entry]
      rfl
  exact hfold written []

end Json

end Routewright
