import Remit.Proofs.Text.Numeral

namespace Remit.Text

structure IsNumeral (cs : List Char) (width value : Nat) : Prop where
  width : cs.length = width
  digits : ∀ c ∈ cs, c.isDigit = true
  value : Nat.ofDigits 10 (cs.reverse.map digitValue) = value

theorem append_lt_append_iff {as bs cs ds : List Char} (same : as.length = bs.length) :
    as ++ cs < bs ++ ds ↔ as < bs ∨ as = bs ∧ cs < ds := by
  induction as generalizing bs with
  | nil =>
    cases bs with
    | nil => simp
    | cons b bs => cases same
  | cons a as ih =>
    cases bs with
    | nil => cases same
    | cons b bs =>
      have rest := ih (Nat.succ.inj same)
      simp only [List.cons_append, List.cons_lt_cons_iff, List.cons.injEq, rest]
      tauto

theorem lt_iff_digitValue {c d : Char} (digit : c.isDigit = true) :
    c < d ↔ digitValue c < digitValue d := by
  have zero : '0'.toNat = 48 := rfl
  have order : c < d ↔ c.toNat < d.toNat := Iff.rfl
  have below := (toNat_of_isDigit digit).1
  simp only [order, digitValue, zero]
  omega

theorem eq_iff_digitValue {c d : Char} (one : c.isDigit = true) (other : d.isDigit = true) :
    c = d ↔ digitValue c = digitValue d := by
  have zero : '0'.toNat = 48 := rfl
  have below := (toNat_of_isDigit one).1
  have above := (toNat_of_isDigit other).1
  simp only [← Char.toNat_inj, digitValue, zero]
  omega

/-- A digit in front of `base` counts for more than what is below it. -/
theorem lead_lt_iff {x y a b base : Nat} (ha : a < base) (hb : b < base) :
    a + base * x < b + base * y ↔ x < y ∨ x = y ∧ a < b := by
  rcases Nat.lt_trichotomy x y with less | same | more
  · have step : base * (x + 1) ≤ base * y := Nat.mul_le_mul_left base less
    rw [Nat.mul_add] at step
    omega
  · subst same
    omega
  · have step : base * (y + 1) ≤ base * x := Nat.mul_le_mul_left base more
    rw [Nat.mul_add] at step
    omega

namespace IsNumeral

variable {as bs : List Char} {width a b : Nat}

theorem lt_pow (numeral : IsNumeral as width a) : a < Nat.pow 10 width := by
  have bound := digitsValue_lt_pow numeral.digits
  rwa [digitsValue_eq_ofDigits, numeral.value, numeral.width] at bound

theorem nil_iff : IsNumeral as 0 a ↔ as = [] ∧ a = 0 := by
  constructor
  · intro numeral
    have empty := List.length_eq_zero_iff.mp numeral.width
    subst empty
    exact ⟨rfl, numeral.value.symm⟩
  · rintro ⟨rfl, rfl⟩
    exact ⟨rfl, by simp, rfl⟩

/-- A first digit counts as often as there are numerals of the digits after it. -/
theorem cons_iff {c : Char} {cs : List Char} : IsNumeral (c :: cs) (width + 1) a ↔
    c.isDigit = true ∧ ∃ rest, IsNumeral cs width rest ∧
      a = rest + Nat.pow 10 width * digitValue c := by
  constructor
  · intro numeral
    obtain ⟨first, others⟩ := List.forall_mem_cons.mp numeral.digits
    have length : cs.length = width := Nat.succ.inj numeral.width
    have value := numeral.value
    simp only [List.reverse_cons, List.map_append, Nat.ofDigits_append, List.length_map,
      List.length_reverse, length] at value
    exact ⟨first, _, ⟨length, others, rfl⟩, by simpa using value.symm⟩
  · rintro ⟨first, rest, numeral, rfl⟩
    refine ⟨by simp [numeral.width], List.forall_mem_cons.mpr ⟨first, numeral.digits⟩, ?_⟩
    rw [List.reverse_cons, List.map_append, Nat.ofDigits_append, numeral.value, List.length_map,
      List.length_reverse, numeral.width]
    simp

theorem lt_iff (one : IsNumeral as width a) (other : IsNumeral bs width b) :
    as < bs ↔ a < b := by
  induction width generalizing as bs a b with
  | zero =>
    obtain ⟨rfl, rfl⟩ := nil_iff.mp one
    obtain ⟨rfl, rfl⟩ := nil_iff.mp other
    simp
  | succ width ih =>
    cases as with
    | nil => cases one.width
    | cons c as =>
      cases bs with
      | nil => cases other.width
      | cons d bs =>
        obtain ⟨first, low, left, rfl⟩ := cons_iff.mp one
        obtain ⟨second, high, right, rfl⟩ := cons_iff.mp other
        rw [List.cons_lt_cons_iff, ih left right, lead_lt_iff left.lt_pow right.lt_pow,
          lt_iff_digitValue first, eq_iff_digitValue first second]

theorem eq_iff (one : IsNumeral as width a) (other : IsNumeral bs width b) :
    as = bs ↔ a = b := by
  constructor
  · rintro rfl
    exact one.value.symm.trans other.value
  · rintro rfl
    have least : ¬ bs < as := fun below => Nat.lt_irrefl a ((other.lt_iff one).mp below)
    have greatest : ¬ as < bs := fun above => Nat.lt_irrefl a ((one.lt_iff other).mp above)
    exact List.le_antisymm least greatest

end IsNumeral

end Remit.Text
