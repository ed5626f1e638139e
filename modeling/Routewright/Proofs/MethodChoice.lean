import Mathlib.Data.List.Induction
import Mathlib.Data.Nat.Basic
import Routewright.HttpMethod
import Routewright.Proofs.Table

/-!
# Which method is chosen

Of several declared methods the order of a policy is meant to prefer the one that it lists first,
and a method that it does not list comes after all that it does (`firstListed?`). What is compared
are ranks, though : the rank of a listed method is the position at which it occurs last, and that of
all others is the number of distinct methods that are listed. An order that repeats a method may so
rank it behind one that is listed later, or behind one that is not listed at all.

`RanksByFirst` says of which orders this is not so, and `choose_first_listed_iff` that these are the
orders by which the method that is listed first is chosen, whatever is declared. Orders that repeat
no method are among them.
-/

namespace Routewright.HttpMethod

variable {order methods rest : List HttpMethod} {m n : HttpMethod}

/-! ## Ranks -/

/-- The position at which a method occurs last. -/
def lastIdxOf (order : List HttpMethod) (m : HttpMethod) : Nat :=
  order.length - 1 - order.reverse.idxOf m

theorem lastIdxOf_concat_self (order : List HttpMethod) (m : HttpMethod) :
    lastIdxOf (order ++ [m]) m = order.length := by
  simp [lastIdxOf]

theorem lastIdxOf_concat_of_ne (h : m ≠ n) :
    lastIdxOf (order ++ [m]) n = lastIdxOf order n := by
  rw [lastIdxOf, lastIdxOf, List.reverse_concat, List.idxOf_cons_ne _ h, List.length_append,
    List.length_singleton]
  omega

theorem lastIdxOf_lt_length (h : m ∈ order) : lastIdxOf order m < order.length := by
  have hpos := List.length_pos_of_mem h
  rw [lastIdxOf]
  omega

/-- Where nothing is repeated, there is one position. -/
theorem lastIdxOf_of_nodup (h : order.Nodup) (hm : m ∈ order) :
    lastIdxOf order m = order.idxOf m := by
  induction order using List.reverseRecOn with
  | nil => exact absurd hm List.not_mem_nil
  | append_singleton order n ih =>
    obtain ⟨hnodup, -, hdisjoint⟩ := List.nodup_append'.mp h
    by_cases hn : n = m
    · subst hn
      have hnew : n ∉ order := List.disjoint_singleton.mp hdisjoint
      rw [lastIdxOf_concat_self, List.idxOf_append_of_notMem hnew, List.idxOf_cons_self,
        Nat.add_zero]
    · have hold : m ∈ order := (List.mem_append.mp hm).resolve_right fun hm =>
        hn (List.mem_singleton.mp hm).symm
      rw [lastIdxOf_concat_of_ne hn, ih hnodup hold, List.idxOf_append_of_mem hold]

theorem ranks_concat (order : List HttpMethod) (m : HttpMethod) :
    ranks (order ++ [m]) = (ranks order).filter (·.1 ≠ m) ++ [(m, order.length)] := by
  rw [ranks, List.zipIdx_append, List.foldl_append]
  simp [ranks]

/-- Each listed method is ranked once. -/
theorem keys_ranks (order : List HttpMethod) :
    (Table.keys (ranks order)).Nodup ∧ ∀ m, m ∈ Table.keys (ranks order) ↔ m ∈ order := by
  induction order using List.reverseRecOn with
  | nil => exact ⟨List.nodup_nil, fun _ => Iff.rfl⟩
  | append_singleton order m ih =>
    obtain ⟨hnodup, hmem⟩ := ih
    have hkeys : Table.keys (ranks (order ++ [m])) =
        (Table.keys (ranks order)).filter (· ≠ m) ++ [m] := by
      rw [Table.keys, ranks_concat, List.map_append, Table.keys, List.filter_map]
      rfl
    rw [hkeys]
    refine ⟨(hnodup.filter _).append (List.nodup_singleton m) ?_, fun n => ?_⟩
    · exact List.disjoint_singleton.mpr (by simp)
    · by_cases hn : n = m <;> simp [hn, hmem]

theorem length_ranks (order : List HttpMethod) :
    (ranks order).length = (Table.distinct order).length := by
  obtain ⟨hnodup, hmem⟩ := keys_ranks order
  have hperm : (Table.keys (ranks order)).Perm (Table.distinct order) :=
    (List.perm_ext_iff_of_nodup hnodup (Table.nodup_distinct order)).mpr fun m => by
      rw [hmem, Table.mem_distinct]
  rw [← hperm.length_eq, Table.keys, List.length_map]

theorem lookup_filter_ne (table : List (HttpMethod × Nat)) (h : m ≠ n) :
    (table.filter (·.1 ≠ m)).lookup n = table.lookup n := by
  induction table with
  | nil => rfl
  | cons entry table ih =>
    by_cases hkey : entry.1 = m
    · have hne : (n == entry.1) = false := beq_eq_false_iff_ne.mpr (hkey ▸ h.symm)
      rw [List.filter_cons_of_neg (by simpa using hkey), ih, List.lookup_cons, hne]
    · rw [List.filter_cons_of_pos (by simpa using hkey), List.lookup_cons, List.lookup_cons, ih]

theorem lookup_ranks (h : m ∈ order) : (ranks order).lookup m = some (lastIdxOf order m) := by
  induction order using List.reverseRecOn with
  | nil => exact absurd h List.not_mem_nil
  | append_singleton order n ih =>
    rw [ranks_concat, List.lookup_append]
    by_cases hn : n = m
    · subst hn
      have hnone : ((ranks order).filter (·.1 ≠ n)).lookup n = none := by
        rw [List.lookup_eq_none_iff]
        intro entry hentry
        exact bne_iff_ne.mpr (Ne.symm (of_decide_eq_true (List.mem_filter.mp hentry).2))
      rw [hnone, lastIdxOf_concat_self]
      simp
    · have hold : m ∈ order := (List.mem_append.mp h).resolve_right fun hm =>
        hn (List.mem_singleton.mp hm).symm
      rw [lookup_filter_ne _ hn, ih hold, lastIdxOf_concat_of_ne hn]
      rfl

/-- A listed method has the position of its last occurrence for a rank. -/
theorem rank_of_mem (h : m ∈ order) : rank order m = lastIdxOf order m := by
  rw [rank, lookup_ranks h]
  rfl

/-- All other methods have one rank in common. -/
theorem rank_of_not_mem (h : m ∉ order) : rank order m = (Table.distinct order).length := by
  have hnone : (ranks order).lookup m = none := by
    rw [List.lookup_eq_none_iff]
    intro entry hentry
    have hlisted : entry.1 ∈ order := ((keys_ranks order).2 _).mp (List.mem_map_of_mem hentry)
    exact bne_iff_ne.mpr (ne_of_mem_of_not_mem hlisted h).symm
  rw [rank, hnone, length_ranks]
  rfl

/-! ## The least rank -/

section LeastBy

variable {rank : HttpMethod → Nat} {best : HttpMethod}

/-- What is found is one of the methods, and none has a smaller rank. -/
theorem leastBy_spec (rank : HttpMethod → Nat) :
    ∀ (best : HttpMethod) (rest : List HttpMethod), leastBy rank best rest ∈ best :: rest ∧
      ∀ m ∈ best :: rest, rank (leastBy rank best rest) ≤ rank m
  | best, [] => ⟨List.mem_cons_self, fun m hm => List.mem_singleton.mp hm ▸ le_rfl⟩
  | best, m :: rest => by
    obtain ⟨hmem, hle⟩ := leastBy_spec rank (if rank m < rank best then m else best) rest
    obtain ⟨hfirst, hrest⟩ := List.forall_mem_cons.mp hle
    rw [leastBy]
    refine ⟨?_, List.forall_mem_cons.mpr ⟨le_trans hfirst ?_, List.forall_mem_cons.mpr
      ⟨le_trans hfirst ?_, hrest⟩⟩⟩
    · rcases List.mem_cons.mp hmem with heq | hmem
      · rw [heq]
        split_ifs <;> simp
      · exact List.mem_cons_of_mem _ (List.mem_cons_of_mem _ hmem)
    · split_ifs with hlt
      · exact le_of_lt hlt
      · exact le_rfl
    · split_ifs with hlt
      · exact le_rfl
      · exact not_lt.mp hlt

/-- A method of less rank than all others is found. -/
theorem leastBy_eq_of_lt (hm : m ∈ best :: rest)
    (hlt : ∀ n ∈ best :: rest, n ≠ m → rank m < rank n) : leastBy rank best rest = m := by
  obtain ⟨hmem, hle⟩ := leastBy_spec rank best rest
  by_contra hne
  exact absurd (hle m hm) (not_le.mpr (hlt _ hmem hne))

/-- If no method has a smaller rank than the first, the first is found. -/
theorem leastBy_eq_of_not_lt :
    ∀ {rest : List HttpMethod}, (∀ m ∈ rest, ¬rank m < rank best) → leastBy rank best rest = best
  | [], _ => rfl
  | m :: rest, h => by
    obtain ⟨hm, hrest⟩ := List.forall_mem_cons.mp h
    rw [leastBy, if_neg hm, leastBy_eq_of_not_lt hrest]

end LeastBy

/-! ## What an order prefers -/

/-- The declared method that an order lists first, and without one the first that is declared. -/
def firstListed? (methods order : List HttpMethod) : Option HttpMethod :=
  (order.find? fun m => m ∈ methods).or methods.head?

/-- An order that ranks methods as it lists them first. `POST` is not ranked, since it is chosen
wherever it is declared. -/
structure RanksByFirst (order : List HttpMethod) : Prop where
  listed : ∀ m ∈ order, ∀ n ∈ order, m ≠ .post → n ≠ .post →
    order.idxOf m < order.idxOf n → lastIdxOf order m < lastIdxOf order n
  unlisted : ∀ m ∈ order, ∀ n, n ∉ order → m ≠ .post → n ≠ .post →
    lastIdxOf order m < (Table.distinct order).length

theorem ranksByFirst_iff : RanksByFirst order ↔ ∀ m ∈ order, ∀ n, m ≠ .post → n ≠ .post →
    order.idxOf m < order.idxOf n → rank order m < rank order n := by
  constructor
  · rintro ⟨hlisted, hunlisted⟩ m hm n hpost hpost' hlt
    rw [rank_of_mem hm]
    by_cases hn : n ∈ order
    · rw [rank_of_mem hn]
      exact hlisted m hm n hn hpost hpost' hlt
    · rw [rank_of_not_mem hn]
      exact hunlisted m hm n hn hpost hpost'
  · intro h
    refine ⟨fun m hm n hn hpost hpost' hlt => ?_, fun m hm n hn hpost hpost' => ?_⟩
    · rw [← rank_of_mem hm, ← rank_of_mem hn]
      exact h m hm n hpost hpost' hlt
    · rw [← rank_of_mem hm, ← rank_of_not_mem hn]
      refine h m hm n hpost hpost' ?_
      rw [List.idxOf_eq_length hn]
      exact List.idxOf_lt_length_of_mem hm

/-- An order that repeats no method ranks by the positions of methods. -/
theorem ranksByFirst_of_nodup (h : order.Nodup) : RanksByFirst order where
  listed m hm n hn _ _ hlt := by
    rwa [lastIdxOf_of_nodup h hm, lastIdxOf_of_nodup h hn]
  unlisted m hm n hn _ _ := by
    rw [Table.distinct_eq_self_iff.mpr h]
    exact lastIdxOf_lt_length hm

/-- What is listed first stands before all other declared methods that are listed. -/
theorem idxOf_lt_of_find? (hm : (order.find? fun m => m ∈ methods) = some m) (hn : n ∈ methods)
    (hne : n ≠ m) : order.idxOf m < order.idxOf n := by
  obtain ⟨-, before, after, rfl, hbefore⟩ := List.find?_eq_some_iff_append.mp hm
  have hnew : ∀ n ∈ methods, n ∉ before := fun n hn hmem => by simpa [hn] using hbefore n hmem
  have hdeclared : m ∈ methods := by simpa using List.find?_some hm
  rw [List.idxOf_append_of_notMem (hnew m hdeclared), List.idxOf_append_of_notMem (hnew n hn),
    List.idxOf_cons_self, List.idxOf_cons_ne _ hne.symm]
  omega

/-! ## The choice -/

theorem choose_of_post (h : .post ∈ methods) (order : Option (List HttpMethod)) :
    choose methods order = some .post := by
  unfold choose
  split
  · exact absurd h List.not_mem_nil
  · exact congrArg some (List.mem_singleton.mp h).symm
  · rw [if_pos h]

/-- Without `POST` the first of the declared methods that have the least rank is chosen. -/
theorem choose_of_not_post {first : HttpMethod} (h : .post ∉ first :: rest)
    (order : Option (List HttpMethod)) :
    choose (first :: rest) order = some (leastBy (rank (order.getD [])) first rest) := by
  have hsame : leastBy (rank []) first rest = first :=
    leastBy_eq_of_not_lt fun m _ hlt => lt_irrefl 0 (hlt : rank [] m < rank [] first)
  cases rest with
  | nil => rfl
  | cons m rest =>
    cases order with
    | none => exact (if_neg h).trans (congrArg some hsame.symm)
    | some order =>
      cases order with
      | nil => exact (if_neg h).trans (congrArg some hsame.symm)
      | cons o order => exact if_neg h

/-- An order that ranks by first occurrences prefers what it lists first. -/
theorem RanksByFirst.choose_eq (h : RanksByFirst (order : List HttpMethod)) {first : HttpMethod}
    (hpost : .post ∉ first :: rest) :
    leastBy (rank order) first rest = (order.find? fun m => m ∈ first :: rest).getD first := by
  cases hfound : order.find? fun m => m ∈ first :: rest with
  | none =>
    have hnew : ∀ m ∈ first :: rest, m ∉ order := fun m hm hmem => by
      simpa [hm] using List.find?_eq_none.mp hfound m hmem
    refine leastBy_eq_of_not_lt fun m hm => ?_
    rw [rank_of_not_mem (hnew m (List.mem_cons_of_mem _ hm)),
      rank_of_not_mem (hnew first List.mem_cons_self)]
    exact lt_irrefl _
  | some m =>
    have hm : m ∈ first :: rest := by simpa using List.find?_some hfound
    refine leastBy_eq_of_lt hm fun n hn hne => ?_
    exact ranksByFirst_iff.mp h m (List.mem_of_find?_eq_some hfound) n
      (ne_of_mem_of_not_mem hm hpost) (ne_of_mem_of_not_mem hn hpost)
      (idxOf_lt_of_find? hfound hn hne)

/-- Of two methods that are declared against the order, the one that is listed first is chosen only
if it has the smaller rank. -/
theorem rank_lt_of_choose (hm : m ∈ order) (hlt : order.idxOf m < order.idxOf n)
    (hpost : m ≠ .post) (hpost' : n ≠ .post)
    (h : choose [n, m] (some order) = firstListed? [n, m] order) : rank order m < rank order n := by
  have hne : m ≠ n := fun heq => absurd hlt (heq ▸ lt_irrefl _)
  obtain ⟨found, hfound⟩ : ∃ found, (order.find? fun k => k ∈ [n, m]) = some found := by
    refine Option.isSome_iff_exists.mp (List.find?_isSome.mpr ⟨m, hm, ?_⟩)
    simp
  have hmem : found ∈ [n, m] := by simpa using List.find?_some hfound
  obtain rfl : found = m := by
    by_contra hother
    have hbefore := idxOf_lt_of_find? hfound (List.mem_cons_of_mem n List.mem_cons_self)
      (Ne.symm hother)
    obtain rfl : found = n := by simpa [hother] using hmem
    exact lt_asymm hlt hbefore
  have hchosen : choose [n, found] (some order) = some found := by
    rw [h, firstListed?, hfound]
    rfl
  rw [choose_of_not_post (by simp [hpost.symm, hpost'.symm])] at hchosen
  by_contra hrank
  rw [Option.getD_some, leastBy, if_neg hrank] at hchosen
  exact hne (Option.some.inj hchosen).symm

/-- Whatever is declared and whatever the order, a declared method is chosen : `POST` where it is
declared, and the first method where the order lists none of those that are declared. Among others
an order prefers what it lists first just when it ranks methods as it lists them first, as it does
if it repeats none. -/
theorem choose_first_listed_iff (order : Option (List HttpMethod)) :
    (∀ methods, methods ≠ [] → ∃ m ∈ methods, choose methods order = some m ∧
      (.post ∈ methods → m = .post) ∧
      (.post ∉ methods → (∀ n ∈ methods, n ∉ order.getD []) → methods.head? = some m)) ∧
    ((∀ methods, methods ≠ [] → .post ∉ methods →
        choose methods order = firstListed? methods (order.getD [])) ↔
      RanksByFirst (order.getD [])) ∧
    ((order.getD []).Nodup → RanksByFirst (order.getD [])) := by
  refine ⟨fun methods hne => ?_, ⟨fun h => ?_, fun h methods hne hpost => ?_⟩,
    ranksByFirst_of_nodup⟩
  · by_cases hpost : .post ∈ methods
    · exact ⟨.post, hpost, choose_of_post hpost order, fun _ => rfl, absurd hpost⟩
    · obtain ⟨first, rest, rfl⟩ := List.exists_cons_of_ne_nil hne
      refine ⟨_, (leastBy_spec _ first rest).1, choose_of_not_post hpost order,
        fun h => absurd h hpost, fun _ hnew => congrArg some ?_⟩
      refine (leastBy_eq_of_not_lt fun m hm => ?_).symm
      rw [rank_of_not_mem (hnew m (List.mem_cons_of_mem _ hm)),
        rank_of_not_mem (hnew first List.mem_cons_self)]
      exact lt_irrefl _
  · refine ranksByFirst_iff.mpr fun m hm n hpost hpost' hlt => ?_
    obtain ⟨listed, rfl⟩ : ∃ listed, order = some listed :=
      Option.ne_none_iff_exists'.mp fun hnone => by simp [hnone] at hm
    exact rank_lt_of_choose hm hlt hpost hpost'
      (h [n, m] (List.cons_ne_nil _ _) (by simp [hpost.symm, hpost'.symm]))
  · obtain ⟨first, rest, rfl⟩ := List.exists_cons_of_ne_nil hne
    rw [choose_of_not_post hpost, h.choose_eq hpost, firstListed?]
    cases (order.getD []).find? fun m => m ∈ first :: rest <;> rfl

/-- A method that is listed goes before one that is not, whatever is declared first. -/
theorem choose_first_listed_get :
    (∃ m ∈ [put, delete, get], choose [put, delete, get] (some [get, delete]) = some m) ∧
      choose [put, delete, get] (some [get, delete]) = some get := by
  obtain ⟨hdeclared, hiff, hnodup⟩ := choose_first_listed_iff (some [get, delete])
  obtain ⟨m, hm, hchosen, -⟩ := hdeclared [put, delete, get] (List.cons_ne_nil _ _)
  exact ⟨⟨m, hm, hchosen⟩,
    hiff.mpr (hnodup (by decide)) [put, delete, get] (List.cons_ne_nil _ _) (by decide)⟩

/-- An order that repeats a method may pass over it : for one that it does not list, or for one that
it lists later. -/
theorem choose_passes_over_repeated :
    choose [put, get] (some [get, get]) = some put ∧
      firstListed? [put, get] [get, get] = some get ∧
      choose [put, get] (some [get, put, get]) = some put ∧
      firstListed? [put, get] [get, put, get] = some get := by
  decide

end Routewright.HttpMethod
