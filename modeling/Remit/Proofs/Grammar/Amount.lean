import Remit.Proofs.Grammar.Stage
import Remit.Proofs.Text.FixedWidth

namespace Remit

namespace Text

def zeroPadded (zeros n : Nat) : String := String.ofList (List.replicate zeros '0') ++ toString n

theorem toList_zeroPadded (zeros n : Nat) :
    (zeroPadded zeros n).toList = List.replicate zeros '0' ++ Nat.toDigits 10 n := by
  simp [zeroPadded, Nat.toString_eq_repr, Nat.toList_repr]

theorem length_zeroPadded (zeros n : Nat) :
    (zeroPadded zeros n).length = zeros + (Nat.toDigits 10 n).length := by
  simp [← String.length_toList, toList_zeroPadded]

theorem zeroPadded_zero (n : Nat) : zeroPadded 0 n = toString n := by
  simp [zeroPadded]

theorem isNumeral_zeroPadded (zeros n : Nat) :
    IsNumeral (zeroPadded zeros n).toList (zeroPadded zeros n).length n := by
  constructor
  · exact String.length_toList
  · intro c member
    rw [toList_zeroPadded] at member
    rcases List.mem_append.mp member with zero | digit
    · rw [List.eq_of_mem_replicate zero]
      rfl
    · exact Nat.isDigit_of_mem_toDigits (by decide) (by decide) digit
  · calc
      Nat.ofDigits 10 ((zeroPadded zeros n).toList.reverse.map digitValue)
        = Nat.ofDigitChars 10 (zeroPadded zeros n).toList 0 := by
          rw [← digitsValue_eq_ofDigits, digitsValue_eq_ofDigitChars]
      _ = Nat.ofDigitChars 10 (Nat.toDigits 10 n) 0 := by
          simp [toList_zeroPadded, Nat.ofDigitChars_append, Nat.ofDigitChars_replicate_zero]
      _ = n := Nat.ofDigitChars_ten_toDigits

theorem length_toString_le {n width : Nat} (nonempty : 0 < width) (below : n < Nat.pow 10 width) :
    (toString n).length ≤ width := by
  rw [← zeroPadded_zero, length_zeroPadded, Nat.zero_add]
  exact (Nat.length_toDigits_le_iff (by decide) nonempty).mpr below

theorem zeroPadded_ne_empty (zeros n : Nat) : zeroPadded zeros n ≠ "" := by
  intro empty
  have chars := congrArg String.toList empty
  simp [toList_zeroPadded] at chars

/-- The zeros in front are what the value leaves of the width. -/
theorem IsNumeral.eq_zeroPadded {token : String} {width n : Nat}
    (numeral : IsNumeral token.toList width n) (nonempty : 0 < width) :
    token = zeroPadded (width - (Nat.toDigits 10 n).length) n := by
  have digits : (Nat.toDigits 10 n).length ≤ width :=
    (Nat.length_toDigits_le_iff (by decide) nonempty).mpr numeral.lt_pow
  have padded := isNumeral_zeroPadded (width - (Nat.toDigits 10 n).length) n
  rw [length_zeroPadded, Nat.sub_add_cancel digits] at padded
  exact String.toList_inj.mp ((numeral.eq_iff padded).mpr rfl)

end Text

section Amount

variable {token : String} {n : Nat}

theorem isAmount_iff_isNumeral : IsAmount token n ↔
    0 < n ∧ token.length ≤ 4300 ∧ 0 < token.length ∧
      Text.IsNumeral token.toList token.length n := by
  constructor
  · intro amount
    have long : 0 < token.length := by
      apply Nat.pos_of_ne_zero
      simpa using amount.nonempty
    refine ⟨by exact_mod_cast amount.positive, amount.short, long, String.length_toList,
      amount.digits, ?_⟩
    rw [← Text.digitsValue_eq_ofDigits, Text.digitsValue_eq_ofDigitChars]
    exact_mod_cast amount.value.symm
  · rintro ⟨positive, short, long, numeral⟩
    refine ⟨?_, numeral.digits, short, ?_, by exact_mod_cast positive⟩
    · rintro rfl
      cases long
    · rw [← Text.digitsValue_eq_ofDigitChars, Text.digitsValue_eq_ofDigits, numeral.value]

theorem isAmount_iff_zeroPadded : IsAmount token n ↔
    0 < n ∧ token.length ≤ 4300 ∧ ∃ zeros, token = Text.zeroPadded zeros n := by
  rw [isAmount_iff_isNumeral]
  refine and_congr_right fun _ => and_congr_right fun _ => ?_
  constructor
  · rintro ⟨long, numeral⟩
    exact ⟨_, numeral.eq_zeroPadded long⟩
  · rintro ⟨zeros, rfl⟩
    refine ⟨Nat.pos_of_ne_zero ?_, Text.isNumeral_zeroPadded zeros n⟩
    simpa using Text.zeroPadded_ne_empty zeros n

theorem isAmount_iff_read {amount : Int} :
    IsAmount token amount ↔ ∃ n : Nat, amountOfToken? token = some n ∧ amount = n := by
  constructor
  · intro stated
    have natural : (amount.toNat : Int) = amount :=
      Int.toNat_of_nonneg (Int.le_of_lt stated.positive)
    exact ⟨amount.toNat, amountOfToken?_eq_some.mpr (natural ▸ stated), natural.symm⟩
  · rintro ⟨n, read, rfl⟩
    exact amountOfToken?_eq_some.mp read

theorem Sentence.amount_of_word {s : Sentence} (found : s.word? 1 = some token) :
    (∀ amount, s.amount = .ok amount ↔ IsAmount token amount) ∧
    ∀ fault, s.amount = .error fault ↔
      (¬ ∃ amount, IsAmount token amount) ∧ fault = .invalidAmount := by
  simp only [Sentence.amount, found, isAmount_iff_read]
  cases amountOfToken? token with
  | none => simp [eq_comm]
  | some n => simp [eq_comm]

theorem amountOfToken?_zeroPadded (zeros : Nat) (positive : 0 < n) :
    amountOfToken? (Text.zeroPadded zeros n) =
      if (Text.zeroPadded zeros n).length ≤ 4300 then some n else none := by
  split
  · rename_i short
    exact amountOfToken?_eq_some.mpr (isAmount_iff_zeroPadded.mpr ⟨positive, short, zeros, rfl⟩)
  · rename_i long
    apply Option.eq_none_iff_forall_ne_some.mpr
    intro m read
    exact long (amountOfToken?_eq_some.mp read).short

theorem SyntaxFault.invalidAmount_iff {fault : SyntaxFault} :
    fault = .invalidAmount ↔ fault.code.name = "AM01" := by
  cases fault <;> decide

/-- A word is read as an amount just if it is a numeral of at most 4300 ASCII digits with a positive
value, and is refused for its amount in every other case. The decimal form of each number below the
limit is such a word and states that number. With zeros in front it still does until the word is too
long, and there are no other words that state the number. -/
theorem amounts_read_as_decimals :
    (∀ token (n : Nat), amountOfToken? token = some n ↔ IsAmount token n) ∧
    (∀ (s : Sentence) token, s.word? 1 = some token →
      (∀ n, s.amount = .ok n ↔ IsAmount token n) ∧
      ∀ fault, s.amount = .error fault ↔
        (¬ ∃ n, IsAmount token n) ∧ fault.code.name = "AM01") ∧
    (∀ n, 0 < n → n < Nat.pow 10 4300 → amountOfToken? (toString n) = some n) ∧
    (∀ zeros n, 0 < n → amountOfToken? (Text.zeroPadded zeros n) =
      if (Text.zeroPadded zeros n).length ≤ 4300 then some n else none) ∧
    ∀ token (n : Nat), IsAmount token n ↔
      0 < n ∧ token.length ≤ 4300 ∧ ∃ zeros, token = Text.zeroPadded zeros n := by
  refine ⟨fun _ _ => amountOfToken?_eq_some, ?_, ?_, fun zeros _ => amountOfToken?_zeroPadded zeros,
    fun _ _ => isAmount_iff_zeroPadded⟩
  · intro s token found
    obtain ⟨read, refused⟩ := Sentence.amount_of_word found
    refine ⟨read, fun fault => ?_⟩
    rw [refused, SyntaxFault.invalidAmount_iff]
  · intro n positive below
    have short := Text.length_toString_le (by decide) below
    have read := amountOfToken?_zeroPadded 0 positive
    rw [Text.zeroPadded_zero] at read
    rwa [if_pos short] at read

/-- A seven behind as many zeros as there is room for, behind one zero more, and a superscript. -/
theorem amounts_read_as_decimals_sample :
    amountOfToken? (Text.zeroPadded 4299 7) = some 7 ∧
    amountOfToken? (Text.zeroPadded 4300 7) = none ∧
    amountOfToken? (toString 7) = some 7 ∧
    (Sentence.mk ["DEBIT", "5²"]).amount = .error .invalidAmount := by
  obtain ⟨reads, stage, decimal, padded, -⟩ := amounts_read_as_decimals
  have width : ∀ zeros, (Text.zeroPadded zeros 7).length = zeros + 1 :=
    fun zeros => Text.length_zeroPadded zeros 7
  have below : ∀ k, 0 < k → 7 < Nat.pow 10 k := fun k positive =>
    Nat.lt_of_lt_of_le (m := Nat.pow 10 1) (by decide) (Nat.pow_le_pow_right (by decide) positive)
  refine ⟨?_, ?_, decimal 7 (by decide) (below 4300 (by decide)), ?_⟩
  · simp [padded 4299 7 (by decide), width]
  · simp [padded 4300 7 (by decide), width]
  · refine ((stage _ _ rfl).2 .invalidAmount).mpr ⟨?_, rfl⟩
    rintro ⟨n, stated⟩
    have digit : '²'.isDigit = true := stated.digits '²' (by simp)
    cases digit

end Amount

end Remit
