import Mathlib.Data.List.Induction
import Mathlib.Data.Nat.Digits.Defs
import Remit.Proofs.Text.Ascii
import Remit.Text.Digits

namespace Remit.Text

theorem digitValue_lt {c : Char} (digit : c.isDigit = true) : digitValue c < 10 := by
  obtain ⟨-, above⟩ := toNat_of_isDigit digit
  have zero : '0'.toNat = 48 := rfl
  rw [digitValue, zero]
  omega

theorem digitsValue_append (cs : List Char) (c : Char) :
    digitsValue (cs ++ [c]) = 10 * digitsValue cs + digitValue c := by
  simp [digitsValue]

theorem digitsValue_eq_ofDigits (cs : List Char) :
    digitsValue cs = Nat.ofDigits 10 (cs.reverse.map digitValue) := by
  induction cs using List.reverseRecOn with
  | nil => rfl
  | append_singleton cs c ih =>
    rw [digitsValue_append, ih, List.reverse_append, List.reverse_singleton, List.singleton_append,
      List.map_cons, Nat.ofDigits_cons, Nat.add_comm]

theorem digitsValue_eq_ofDigitChars (cs : List Char) :
    digitsValue cs = Nat.ofDigitChars 10 cs 0 := rfl

theorem natOfDigits?_eq_some {cs : List Char} {n : Nat} : natOfDigits? cs = some n ↔
    cs ≠ [] ∧ (∀ c ∈ cs, c.isDigit = true) ∧ cs.length ≤ maxDigits ∧
      Nat.ofDigits 10 (cs.reverse.map digitValue) = n := by
  rw [← digitsValue_eq_ofDigits]
  simp [natOfDigits?, allDigits, and_assoc]

theorem digitsValue_lt_pow {cs : List Char} (digits : ∀ c ∈ cs, c.isDigit = true) :
    digitsValue cs < Nat.pow 10 cs.length := by
  have small : ∀ d ∈ cs.reverse.map digitValue, d < 10 := by
    intro d member
    obtain ⟨c, inside, rfl⟩ := List.mem_map.mp member
    exact digitValue_lt (digits c (List.mem_reverse.mp inside))
  have bound := Nat.ofDigits_lt_base_pow_length (by decide) small
  rw [digitsValue_eq_ofDigits]
  simpa using bound

theorem writable_digitsValue {cs : List Char} (digits : ∀ c ∈ cs, c.isDigit = true)
    (short : cs.length ≤ maxDigits) : Writable (digitsValue cs) := by
  have grows : ∀ k, cs.length ≤ k → Nat.pow 10 cs.length ≤ Nat.pow 10 k :=
    fun k => Nat.pow_le_pow_right (by decide)
  exact Nat.lt_of_lt_of_le (digitsValue_lt_pow digits) (grows maxDigits short)

theorem Writable.neg {n : Int} (writable : Writable n) : Writable (-n) := by
  unfold Writable
  rw [Int.natAbs_neg]
  exact writable

end Remit.Text
