import Mathlib.Data.List.InsertIdx
import Remit.Proofs.Grammar.Refusal

namespace Remit

/-- The place of position `i` in a list without its position `p`. -/
def shifted (p i : Nat) : Nat := if p < i then i - 1 else i

section Position

variable {α : Type} {us : List α} {u : α} {p i j : Nat}

theorem shifted_lt_iff (hi : i ≠ p) (hj : j ≠ p) : shifted p i < shifted p j ↔ i < j := by
  unfold shifted
  split <;> split <;> omega

theorem shifted_succ (here : i ≠ p) (next : i + 1 ≠ p) : shifted p (i + 1) = shifted p i + 1 := by
  unfold shifted
  split <;> split <;> omega

theorem exists_shifted (p j : Nat) : ∃ i, i ≠ p ∧ shifted p i = j := by
  by_cases before : j < p
  · exact ⟨j, by omega, if_neg (by omega)⟩
  · exact ⟨j + 1, by omega, if_pos (by omega)⟩

theorem getElem?_eraseIdx_shifted (ne : i ≠ p) : (us.eraseIdx p)[shifted p i]? = us[i]? := by
  rw [List.getElem?_eraseIdx, shifted]
  split
  · rename_i after
    rw [if_neg (by omega), Nat.sub_add_cancel (by omega)]
  · rw [if_pos (by omega)]

theorem getElem?_eraseIdx_self : (us.eraseIdx p)[p]? = us[p + 1]? := by
  rw [List.getElem?_eraseIdx, if_neg (Nat.lt_irrefl p)]

/-- What follows a position still does, unless it is left out itself. -/
theorem getElem?_eraseIdx_succ (here : i ≠ p) (next : i + 1 ≠ p) :
    (us.eraseIdx p)[shifted p i + 1]? = us[i + 1]? := by
  rw [← shifted_succ here next, getElem?_eraseIdx_shifted next]

theorem getElem?_eraseIdx_succ_self : (us.eraseIdx (i + 1))[shifted (i + 1) i + 1]? =
    us[i + 2]? := by
  rw [shifted, if_neg (by omega), getElem?_eraseIdx_self]

theorem IsFirst.eraseIdx (first : IsFirst us u i) (ne : i ≠ p) :
    IsFirst (us.eraseIdx p) u (shifted p i) := by
  refine ⟨(getElem?_eraseIdx_shifted ne).trans first.1, fun j before found => ?_⟩
  obtain ⟨n, other, rfl⟩ := exists_shifted p j
  rw [getElem?_eraseIdx_shifted other] at found
  exact first.2 n ((shifted_lt_iff other ne).mp before) found

theorem IsLast.eraseIdx (last : IsLast us u i) (ne : i ≠ p) :
    IsLast (us.eraseIdx p) u (shifted p i) := by
  refine ⟨(getElem?_eraseIdx_shifted ne).trans last.1, fun j after found => ?_⟩
  obtain ⟨n, other, rfl⟩ := exists_shifted p j
  rw [getElem?_eraseIdx_shifted other] at found
  exact last.2 n ((shifted_lt_iff ne other).mp after) found

theorem IsNext.eraseIdx (next : IsNext us u i j) (here : i ≠ p) (there : j ≠ p) :
    IsNext (us.eraseIdx p) u (shifted p i) (shifted p j) := by
  refine ⟨(getElem?_eraseIdx_shifted there).trans next.1, (shifted_lt_iff here there).mpr next.2.1,
    fun m after before found => ?_⟩
  obtain ⟨n, other, rfl⟩ := exists_shifted p m
  rw [getElem?_eraseIdx_shifted other] at found
  exact next.2.2 n ((shifted_lt_iff here other).mp after) ((shifted_lt_iff other there).mp before)
    found

end Position

section Anchored

variable {ws : List String} {k : Kind} {a : Anchors} {p : Nat}

theorem capitalized_eraseIdx : capitalized (ws.eraseIdx p) = (capitalized ws).eraseIdx p :=
  (List.eraseIdx_map ..).symm

def Anchors.shift (a : Anchors) (p : Nat) : Anchors :=
  ⟨shifted p a.source, shifted p a.target, shifted p a.link, shifted p a.opposite,
    shifted p a.first, shifted p a.second⟩

theorem OppositeAt.eraseIdx {i : Nat} (placed : OppositeAt ws k i) (ne : i ≠ p) :
    OppositeAt (ws.eraseIdx p) k (shifted p i) := by
  cases k with
  | debit =>
    have first : IsFirst (capitalized (ws.eraseIdx p)) "CREDIT" (shifted p i) := by
      rw [capitalized_eraseIdx]
      exact IsFirst.eraseIdx placed ne
    exact first
  | credit =>
    have last : IsLast (capitalized (ws.eraseIdx p)) "DEBIT" (shifted p i) := by
      rw [capitalized_eraseIdx]
      exact IsLast.eraseIdx placed ne
    exact last

theorem Anchors.inOrder_shift : (a.shift p).inOrder k = (a.inOrder k).map (shifted p) := by
  cases k <;> rfl

theorem Anchored.eraseIdx (anchored : Anchored ws k a) (kept : ∀ n ∈ a.inOrder k, n ≠ p) :
    Anchored (ws.eraseIdx p) k (a.shift p) := by
  simp only [Anchors.inOrder, List.forall_mem_cons] at kept
  obtain ⟨near, first, link, opposite, far, second, -⟩ := kept
  obtain ⟨source, target⟩ : a.source ≠ p ∧ a.target ≠ p := by
    cases k with
    | debit => exact ⟨near, far⟩
    | credit => exact ⟨far, near⟩
  have between := anchored.opposite.eraseIdx opposite
  constructor
  case opposite => exact between
  all_goals rw [capitalized_eraseIdx]
  · exact anchored.source.eraseIdx source
  · exact anchored.target.eraseIdx target
  · exact anchored.link.eraseIdx link
  · exact anchored.first.eraseIdx first
  · exact anchored.second.eraseIdx first second

theorem Anchors.Ordered.shift (ordered : a.Ordered k) (kept : ∀ n ∈ 0 :: a.inOrder k, n ≠ p) :
    (a.shift p).Ordered k := by
  have opening : 0 :: (a.shift p).inOrder k = (0 :: a.inOrder k).map (shifted p) := by
    rw [inOrder_shift]
    rfl
  rw [← ordered_iff, opening, List.pairwise_map]
  exact (ordered_iff.mpr ordered).imp_of_mem fun one other =>
    (shifted_lt_iff (kept _ one) (kept _ other)).mpr

theorem Dated.eraseIdx {date : Option Date} (dated : Dated ws date)
    (kept : ∀ i, IsFirst (capitalized ws) "ON" i → i ≠ p ∧ i + 1 ≠ p) :
    Dated (ws.eraseIdx p) date := by
  cases date with
  | none =>
    intro j found
    obtain ⟨i, other, rfl⟩ := exists_shifted p j
    rw [capitalized_eraseIdx, getElem?_eraseIdx_shifted other] at found
    exact dated i found
  | some d =>
    obtain ⟨i, on, stated, late⟩ := dated
    obtain ⟨here, next⟩ := kept i on
    refine ⟨shifted p i, ?_, ?_, late⟩
    · rw [capitalized_eraseIdx]
      exact on.eraseIdx here
    · rw [getElem?_eraseIdx_succ here next]
      exact stated

end Anchored

/-! The words of a sentence but for its currency and its identifiers. -/

structure Shaped (ws : List String) (k : Kind) (n : Int) (a : Anchors) (date : Option Date) :
    Prop where
  opening : Opens ws k
  amount : ∃ m, ws[1]? = some m ∧ IsAmount m n
  anchored : Anchored ws k a
  ordered : a.Ordered k
  dated : Dated ws date

section Shaped

variable {ws : List String} {k : Kind} {n : Int} {a : Anchors} {date : Option Date} {p : Nat}
  {text q x y : String}

theorem Shaped.eraseIdx (shaped : Shaped ws k n a date) (after : 1 < p)
    (anchors : ∀ n ∈ a.inOrder k, n ≠ p)
    (clause : ∀ o, IsFirst (capitalized ws) "ON" o → o ≠ p ∧ o + 1 ≠ p) :
    Shaped (ws.eraseIdx p) k n (a.shift p) date := by
  obtain ⟨opening, ⟨m, stated, amount⟩, anchored, ordered, dated⟩ := shaped
  have opens : Opens (ws.eraseIdx p) k := by
    rw [Opens, capitalized_eraseIdx, List.getElem?_eraseIdx_of_lt (by omega)]
    exact opening
  have front : (ws.eraseIdx p)[1]? = ws[1]? := List.getElem?_eraseIdx_of_lt after
  have kept : ∀ n ∈ 0 :: a.inOrder k, n ≠ p :=
    List.forall_mem_cons.mpr ⟨by omega, anchors⟩
  exact ⟨opens, ⟨m, front.trans stated, amount⟩, anchored.eraseIdx anchors, ordered.shift kept,
    dated.eraseIdx clause⟩

theorem Shaped.nonempty (shaped : Shaped (Text.words text) k n a date) : text ≠ "" := by
  rintro rfl
  cases shaped.opening

theorem Shaped.ofText (shaped : Shaped (Text.words text) k n a date)
    (currency : (Text.words text)[2]? = some q)
    (first : (Text.words text)[a.first + 1]? = some x)
    (second : (Text.words text)[a.second + 1]? = some y) :
    Instruction.ofText text = if IsAccountId x ∧ IsAccountId y then
      .ok ⟨k, n, Text.upper q, (k.sides x y).debit, (k.sides x y).credit, date⟩
      else .error .invalidAccountId := by
  have nonempty := shaped.nonempty
  obtain ⟨opening, ⟨m, stated, amount⟩, anchored, ordered, dated⟩ := shaped
  split
  · rename_i valid
    refine ofText_eq_ok.mpr ⟨opening, ⟨m, stated, amount⟩, ⟨q, currency, rfl⟩,
      ⟨a, x, y, anchored, ordered, first, second, valid.1, valid.2, ?_⟩, dated⟩
    cases k <;> exact ⟨rfl, rfl⟩
  · rename_i invalid
    have long := (List.getElem?_eq_some_iff.mp currency).1
    have followed := (List.getElem?_eq_some_iff.mp second).1
    rw [ofText_eq_error,
      firstBroken_of_anchored nonempty opening ⟨m, n, stated, amount⟩ long anchored]
    refine .inr ⟨ordered, .inr ⟨followed, .inl ⟨?_, rfl⟩⟩⟩
    rintro ⟨v, w, one, two, valid⟩
    cases first.symm.trans one
    cases second.symm.trans two
    exact invalid valid

theorem Shaped.ofText_short (shaped : Shaped (Text.words text) k n a date)
    (short : (Text.words text)[a.second + 1]? = none) :
    Instruction.ofText text = .error .malformed := by
  have nonempty := shaped.nonempty
  obtain ⟨opening, ⟨m, stated, amount⟩, anchored, ordered, dated⟩ := shaped
  obtain ⟨-, -, firstLink, linkOpposite, oppositeFar, farSecond⟩ :=
    Anchors.ordered_iff_near.mp ordered
  have inside := (List.getElem?_eq_some_iff.mp anchored.second.1).1
  rw [capitalized, List.length_map] at inside
  rw [ofText_eq_error,
    firstBroken_of_anchored nonempty opening ⟨m, n, stated, amount⟩ (by omega) anchored]
  have last := List.getElem?_eq_none_iff.mp short
  exact .inr ⟨ordered, .inl ⟨by omega, rfl⟩⟩

end Shaped

end Remit
