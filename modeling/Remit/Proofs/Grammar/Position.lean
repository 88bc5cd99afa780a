import Mathlib.Data.Nat.Find
import Remit.Sentence

/-! Positions of a word in a list, said by comparison with all other positions: the least, the
greatest, and the next one after a position. The positions at which a keyword counts are of these
kinds, because the scan lists all occurrences in ascending order. -/

namespace Remit

section Position

variable {α : Type} {us : List α} {u : α} {i j : Nat}

def IsFirst (us : List α) (u : α) (i : Nat) : Prop :=
  us[i]? = some u ∧ ∀ j < i, us[j]? ≠ some u

def IsLast (us : List α) (u : α) (i : Nat) : Prop :=
  us[i]? = some u ∧ ∀ j, i < j → us[j]? ≠ some u

def IsNext (us : List α) (u : α) (i j : Nat) : Prop :=
  us[j]? = some u ∧ i < j ∧ ∀ k, i < k → k < j → us[k]? ≠ some u

theorem IsFirst.unique (one : IsFirst us u i) (other : IsFirst us u j) : i = j := by
  rcases Nat.lt_trichotomy i j with below | same | above
  · exact absurd one.1 (other.2 i below)
  · exact same
  · exact absurd other.1 (one.2 j above)

theorem IsLast.unique (one : IsLast us u i) (other : IsLast us u j) : i = j := by
  rcases Nat.lt_trichotomy i j with below | same | above
  · exact absurd other.1 (one.2 j below)
  · exact same
  · exact absurd one.1 (other.2 i above)

theorem IsNext.unique {start : Nat} (one : IsNext us u start i) (other : IsNext us u start j) :
    i = j := by
  rcases Nat.lt_trichotomy i j with below | same | above
  · exact absurd one.1 (other.2.2 i one.2.1 below)
  · exact same
  · exact absurd other.1 (one.2.2 j other.2.1 above)

theorem IsFirst.ne {v : α} (first : IsFirst us u i) (before : j < i) (found : us[j]? = some v) :
    v ≠ u := by
  rintro rfl
  exact first.2 j before found

theorem IsFirst.le (first : IsFirst us u i) (found : us[j]? = some u) : i ≤ j :=
  Nat.le_of_not_lt fun below => first.2 j below found

theorem IsLast.le (last : IsLast us u i) (found : us[j]? = some u) : j ≤ i :=
  Nat.le_of_not_lt fun above => last.2 j above found

theorem IsNext.le {k : Nat} (next : IsNext us u i j) (after : i < k) (found : us[k]? = some u) :
    j ≤ k :=
  Nat.le_of_not_lt fun below => next.2.2 k after below found

theorem exists_isFirst (found : us[j]? = some u) : ∃ i, i ≤ j ∧ IsFirst us u i := by
  classical
  have occurs : ∃ n : Nat, us[n]? = some u := ⟨j, found⟩
  exact ⟨Nat.find occurs, Nat.find_min' occurs found, Nat.find_spec occurs,
    fun _ below => Nat.find_min occurs below⟩

theorem exists_isNext (after : i < j) (found : us[j]? = some u) : ∃ n, IsNext us u i n := by
  classical
  have occurs : ∃ n : Nat, i < n ∧ us[n]? = some u := ⟨j, after, found⟩
  obtain ⟨later, next⟩ := Nat.find_spec occurs
  exact ⟨Nat.find occurs, next, later,
    fun _ above below same => Nat.find_min occurs below ⟨above, same⟩⟩

theorem exists_isLast (found : us[j]? = some u) : ∃ i, IsLast us u i := by
  classical
  have inside : ∀ k : Nat, us[k]? = some u → k ≤ us.length := fun _ same =>
    Nat.le_of_lt (List.getElem?_eq_some_iff.mp same).1
  have last : us[Nat.findGreatest (fun n => us[n]? = some u) us.length]? = some u :=
    Nat.findGreatest_spec (P := fun n => us[n]? = some u) (inside j found) found
  exact ⟨_, last, fun k above same => Nat.findGreatest_is_greatest above (inside k same) same⟩

theorem mem_take_iff : u ∈ us.take i ↔ ∃ j < i, us[j]? = some u := by
  simp only [List.mem_iff_getElem?, List.getElem?_take, Option.ite_none_right_eq_some]

theorem mem_drop_iff : u ∈ us.drop i ↔ ∃ j, i ≤ j ∧ us[j]? = some u := by
  simp only [List.mem_iff_getElem?, List.getElem?_drop]
  constructor
  · rintro ⟨n, found⟩
    exact ⟨i + n, Nat.le_add_right i n, found⟩
  · rintro ⟨j, above, found⟩
    exact ⟨j - i, by rwa [Nat.add_sub_cancel' above]⟩

theorem isFirst_iff_take : IsFirst us u i ↔ us[i]? = some u ∧ ∀ v ∈ us.take i, v ≠ u := by
  rw [List.forall_mem_ne', mem_take_iff]
  simp only [not_exists, not_and]
  exact Iff.rfl

theorem isLast_iff_drop : IsLast us u i ↔ us[i]? = some u ∧ ∀ v ∈ us.drop (i + 1), v ≠ u := by
  rw [List.forall_mem_ne', mem_drop_iff]
  simp only [not_exists, not_and]
  exact Iff.rfl

theorem isNext_iff_drop : IsNext us u i j ↔
    us[j]? = some u ∧ i < j ∧ ∀ v ∈ (us.take j).drop (i + 1), v ≠ u := by
  rw [List.forall_mem_ne', mem_drop_iff]
  simp only [List.getElem?_take, Option.ite_none_right_eq_some, not_exists, not_and]
  exact Iff.rfl

end Position

section Ordered

variable {α : Type} {r : α → α → Prop} {l : List α} {a : α}

/-- The head of an ordered list is the member that nothing in the list precedes. -/
theorem head?_eq_some_of_pairwise (asymm : ∀ a b, r a b → ¬ r b a) (ordered : l.Pairwise r) :
    l.head? = some a ↔ a ∈ l ∧ ∀ b, r b a → b ∉ l := by
  cases l with
  | nil => simp
  | cons c l =>
    obtain ⟨leads, -⟩ := List.pairwise_cons.mp ordered
    simp only [List.head?_cons, Option.some.injEq, List.mem_cons, not_or]
    constructor
    · rintro rfl
      refine ⟨Or.inl rfl, fun b before => ⟨?_, fun member => asymm _ _ before (leads b member)⟩⟩
      rintro rfl
      exact asymm _ _ before before
    · rintro ⟨rfl | member, least⟩
      · rfl
      · exact absurd rfl (least c (leads a member)).1

theorem getLast?_eq_some_of_pairwise (asymm : ∀ a b, r a b → ¬ r b a) (ordered : l.Pairwise r) :
    l.getLast? = some a ↔ a ∈ l ∧ ∀ b, r a b → b ∉ l := by
  have reversed : l.reverse.Pairwise fun a b => r b a := List.pairwise_reverse.mpr ordered
  rw [← List.head?_reverse, head?_eq_some_of_pairwise (fun a b => asymm b a) reversed]
  simp

end Ordered

namespace Sentence

variable {s : Sentence} {k : Keyword} {i j : Nat}

theorem mem_occurrences : i ∈ s.occurrences k ↔ s.capitals[i]? = some k.spelling := by
  simp only [occurrences, List.mem_map, List.mem_filter, beq_iff_eq, Prod.exists,
    List.mk_mem_zipIdx_iff_getElem?]
  constructor
  · rintro ⟨_, _, ⟨found, rfl⟩, rfl⟩
    exact found
  · intro found
    exact ⟨_, _, ⟨found, rfl⟩, rfl⟩

theorem occurrences_ascending : (s.occurrences k).Pairwise (· < ·) := by
  have all : (s.capitals.zipIdx.map (·.2)).Pairwise (· < ·) := by
    rw [List.zipIdx_map_snd]
    exact List.pairwise_lt_range'
  exact all.sublist (List.filter_sublist.map _)

theorem occurrences_head? :
    (s.occurrences k).head? = some i ↔ IsFirst s.capitals k.spelling i := by
  rw [head?_eq_some_of_pairwise (fun _ _ => Nat.lt_asymm) occurrences_ascending]
  simp only [mem_occurrences, IsFirst]

theorem occurrences_getLast? :
    (s.occurrences k).getLast? = some i ↔ IsLast s.capitals k.spelling i := by
  rw [getLast?_eq_some_of_pairwise (fun _ _ => Nat.lt_asymm) occurrences_ascending]
  simp only [mem_occurrences, IsLast]

theorem occurrences_second (first : (s.occurrences k)[0]? = some i) :
    (s.occurrences k)[1]? = some j ↔ IsNext s.capitals k.spelling i j := by
  cases listed : s.occurrences k with
  | nil => simp [listed] at first
  | cons start rest =>
    have same : start = i := by simpa [listed] using first
    subst same
    have members : ∀ n, s.capitals[n]? = some k.spelling ↔ n = start ∨ n ∈ rest := by
      intro n
      rw [← mem_occurrences, listed, List.mem_cons]
    have ascending : (start :: rest).Pairwise (· < ·) := listed ▸ occurrences_ascending
    rw [List.pairwise_cons] at ascending
    rw [List.getElem?_cons_succ, ← List.head?_eq_getElem?,
      head?_eq_some_of_pairwise (fun _ _ => Nat.lt_asymm) ascending.2]
    simp only [IsNext, ne_eq, members]
    constructor
    · rintro ⟨member, least⟩
      refine ⟨Or.inr member, ascending.1 j member, fun n above below => ?_⟩
      rintro (rfl | inside)
      · exact Nat.lt_irrefl _ above
      · exact least n below inside
    · rintro ⟨member, after, least⟩
      refine ⟨member.resolve_left (Nat.ne_of_gt after), fun n below inside => ?_⟩
      exact least n (ascending.1 n inside) below (Or.inr inside)

/-- Every keyword but DEBIT counts where it first occurs. -/
theorem located_zero (differ : k ≠ .debitWord) :
    (s.located k)[0]? = some i ↔ IsFirst s.capitals k.spelling i := by
  rw [← occurrences_head?, ← List.head?_eq_getElem?]
  cases k with
  | debitWord => exact absurd rfl differ
  | _ => simp [located]

theorem located_none (differ : k ≠ .debitWord) :
    (s.located k)[0]? = none ↔ ∀ i : Nat, s.capitals[i]? ≠ some k.spelling := by
  constructor
  · intro missing i found
    have listed : s.occurrences k ≠ [] := List.ne_nil_of_mem (mem_occurrences.mpr found)
    obtain ⟨j, head⟩ := Option.isSome_iff_exists.mp (List.isSome_head?.mpr listed)
    cases missing.symm.trans ((located_zero differ).mpr (occurrences_head?.mp head))
  · intro absent
    cases found : (s.located k)[0]? with
    | none => rfl
    | some i => exact absurd ((located_zero differ).mp found).1 (absent i)

theorem located_debit :
    (s.located .debitWord)[0]? = some i ↔ IsLast s.capitals "DEBIT" i := by
  rw [← List.head?_eq_getElem?, located, Option.head?_toList, occurrences_getLast?]
  rfl

theorem located_account_one (first : IsFirst s.capitals "ACCOUNT" i) :
    (s.located .accountWord)[1]? = some j ↔ IsNext s.capitals "ACCOUNT" i j := by
  have start : (s.occurrences .accountWord)[0]? = some i := by
    rw [← List.head?_eq_getElem?]
    exact occurrences_head?.mpr first
  exact occurrences_second start

end Sentence

end Remit
