import Remit.Text.Word

namespace Remit.Text

variable {c : Char}

theorem isBlank_of_graphic (above : 0x20 < c.toNat) (below : c.toNat < 0x7F) :
    isBlank c = false := by
  simp only [isBlank, Bool.or_eq_false_iff, Bool.and_eq_false_iff, decide_eq_false_iff_not,
    beq_eq_false_iff_ne]
  omega

theorem toNat_of_isDigit (digit : c.isDigit = true) : 48 ≤ c.toNat ∧ c.toNat ≤ 57 := by
  simp only [Char.isDigit, ge_iff_le, Bool.and_eq_true, decide_eq_true_eq] at digit
  exact digit

theorem isBlank_of_isDigit (digit : c.isDigit = true) : isBlank c = false := by
  obtain ⟨lower, upper⟩ := toNat_of_isDigit digit
  exact isBlank_of_graphic (by omega) (by omega)

theorem toNat_of_isAlphanum (letter : c.isAlphanum = true) : 48 ≤ c.toNat ∧ c.toNat ≤ 122 := by
  have ranges : (c.isUpper || c.isLower || c.isDigit) = true := letter
  rcases Bool.or_eq_true_iff.mp ranges with letter | digit
  · rcases Bool.or_eq_true_iff.mp letter with upper | lower
    · have bounds : 65 ≤ c.toNat ∧ c.toNat ≤ 90 := of_decide_eq_true upper
      omega
    · have above : (decide (97 ≤ c.toNat) && decide (c.toNat ≤ 122)) = true := lower
      have bounds : 97 ≤ c.toNat ∧ c.toNat ≤ 122 := by simpa using above
      omega
  · have bounds := toNat_of_isDigit digit
    omega

theorem isBlank_of_isAlphanum (letter : c.isAlphanum = true) : isBlank c = false := by
  obtain ⟨lower, upper⟩ := toNat_of_isAlphanum letter
  exact isBlank_of_graphic (by omega) (by omega)

theorem upperChar_of_isDigit (digit : c.isDigit = true) : upperChar c = [c] := by
  have ten : ∀ k : Fin 10, upperChar (Char.ofNat (48 + k)) = [Char.ofNat (48 + k)] := by decide
  obtain ⟨lower, upper⟩ := toNat_of_isDigit digit
  have own := ten ⟨c.toNat - 48, by omega⟩
  rwa [Nat.add_sub_cancel' lower, Char.ofNat_toNat] at own

theorem upper_eq_self {s : String} (plain : ∀ c ∈ s.toList, c.isDigit = true ∨ c = '-') :
    upper s = s := by
  have same : ∀ cs : List Char, (∀ c ∈ cs, c.isDigit = true ∨ c = '-') →
      cs.flatMap upperChar = cs := by
    intro cs
    induction cs with
    | nil => exact fun _ => rfl
    | cons c cs ih =>
      intro plain
      obtain ⟨first, others⟩ := List.forall_mem_cons.mp plain
      have single : upperChar c = [c] := by
        rcases first with digit | rfl
        · exact upperChar_of_isDigit digit
        · rfl
      rw [List.flatMap_cons, single, ih others, List.singleton_append]
  rw [upper, same s.toList plain, String.ofList_toList]

end Remit.Text
