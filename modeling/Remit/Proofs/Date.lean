import Remit.Date
import Remit.Proofs.Text.Numeral

namespace Remit.Date

theorem isDigit_digit (n : Nat) : (digit n).isDigit = true := by
  have small : ∀ k : Fin 10, (Char.ofNat ('0'.toNat + k)).isDigit = true := by decide
  exact small ⟨n % 10, Nat.mod_lt _ (by decide)⟩

theorem digitValue_digit (n : Nat) : Text.digitValue (digit n) = n % 10 := by
  have small : ∀ k : Fin 10, Text.digitValue (Char.ofNat ('0'.toNat + k)) = k := by decide
  exact small ⟨n % 10, Nat.mod_lt _ (by decide)⟩

theorem digit_eq {n : Nat} {c : Char} (isDigit : c.isDigit = true)
    (last : n % 10 = Text.digitValue c) : digit n = c := by
  have lower : '0'.toNat ≤ c.toNat := (Text.toNat_of_isDigit isDigit).1
  rw [digit, last, Text.digitValue, Nat.add_sub_cancel' lower, Char.ofNat_toNat]

theorem daysIn_le (year month : Nat) : daysIn year month ≤ 31 := by
  unfold daysIn
  repeat' split
  all_goals decide

theorem ofParts?_eq_some {year month day : Nat} {d : Date} :
    ofParts? year month day = some d ↔ year = d.year ∧ month = d.month ∧ day = d.day := by
  unfold ofParts?
  constructor
  · intro built
    split at built
    · cases built
      exact ⟨rfl, rfl, rfl⟩
    · cases built
  · rintro ⟨rfl, rfl, rfl⟩
    rw [dif_pos d.valid]

theorem ofIsoChars?_isoChars (d : Date) : ofIsoChars? d.isoChars = some d := by
  obtain ⟨-, fourDigits, -, twelve, -, last⟩ := d.valid
  have month : d.day ≤ 31 := Nat.le_trans last (daysIn_le d.year d.month)
  simp only [isoChars, ofIsoChars?, List.all_cons, List.all_nil, isDigit_digit, Bool.and_self,
    if_true, ofParts?_eq_some, Text.digitsValue, List.foldl_cons, List.foldl_nil,
    digitValue_digit]
  omega

theorem iso_injective {a b : Date} (same : a.iso = b.iso) : a = b := by
  have chars : a.isoChars = b.isoChars := String.ofList_injective same
  have read := congrArg ofIsoChars? chars
  rw [ofIsoChars?_isoChars, ofIsoChars?_isoChars] at read
  exact Option.some.inj read

theorem eq_isoChars_of_ofIsoChars? {cs : List Char} {d : Date} (read : ofIsoChars? cs = some d) :
    cs = d.isoChars := by
  unfold ofIsoChars? at read
  split at read
  · rename_i y₁ y₂ y₃ y₄ m₁ m₂ d₁ d₂
    split at read
    · rename_i digits
      simp only [List.all_cons, List.all_nil, Bool.and_eq_true] at digits
      obtain ⟨hy₁, hy₂, hy₃, hy₄, hm₁, hm₂, hd₁, hd₂, -⟩ := digits
      obtain ⟨year, month, day⟩ := ofParts?_eq_some.mp read
      simp only [Text.digitsValue, List.foldl_cons, List.foldl_nil] at year month day
      -- a digit of the date is the digit that was read, because each of them is below ten
      have year₂ := Text.digitValue_lt hy₂
      have year₃ := Text.digitValue_lt hy₃
      have year₄ := Text.digitValue_lt hy₄
      have year₁ := Text.digitValue_lt hy₁
      have month₁ := Text.digitValue_lt hm₁
      have month₂ := Text.digitValue_lt hm₂
      have day₁ := Text.digitValue_lt hd₁
      have day₂ := Text.digitValue_lt hd₂
      rw [isoChars, digit_eq hy₁ (by omega), digit_eq hy₂ (by omega), digit_eq hy₃ (by omega),
        digit_eq hy₄ (by omega), digit_eq hm₁ (by omega), digit_eq hm₂ (by omega),
        digit_eq hd₁ (by omega), digit_eq hd₂ (by omega)]
    · cases read
  · cases read

/-- A word is read as a date if it is the written form of one whose year has four digits. -/
theorem ofToken?_eq_some {token : String} {d : Date} :
    ofToken? token = some d ↔ token = d.iso ∧ 1000 ≤ d.year := by
  simp only [ofToken?, ofIso?, Option.filter_eq_some_iff, decide_eq_true_eq]
  refine and_congr_left fun _ => ?_
  constructor
  · intro read
    rw [iso, ← eq_isoChars_of_ofIsoChars? read, String.ofList_toList]
  · rintro rfl
    rw [iso, String.toList_ofList, ofIsoChars?_isoChars]

end Remit.Date
