import Remit.Proofs.Grammar.Counterpart

namespace Remit

variable {text other : String}

theorem capitalized_alike (alike : Text.asciiLower text = Text.asciiLower other) :
    capitalized (Text.words other) = capitalized (Text.words text) := by
  apply List.ext_getElem?
  intro i
  exact SameWord.capitalized_eq (Text.words_alike alike.symm i)

theorem counterpart_of_alike (alike : Text.asciiLower text = Text.asciiLower other) :
    Counterpart (Text.words text) (Text.words other) id := by
  constructor
  · exact strictMono_id
  · intro i _
    exact ⟨rfl, Text.words_alike alike.symm i⟩
  · intro k j
    simp only [capitalized_alike alike, id_eq, exists_eq_left]
  · intro i _
    exact Text.words_alike alike.symm (i + 1)

theorem eq_empty_of_alike (alike : Text.asciiLower text = Text.asciiLower other)
    (empty : other = "") : text = "" := by
  subst empty
  exact Text.eq_of_asciiLower alike (by simp)

/-- Two texts with one small form are refused with the same fault, or both are read, and then only
the identifiers can differ, which keep the case of their words. -/
theorem letter_case_ignored (alike : Text.asciiLower text = Text.asciiLower other) :
    (∃ fault, Instruction.ofText text = .error fault ∧ Instruction.ofText other = .error fault) ∨
    ∃ i j, Instruction.ofText text = .ok i ∧ Instruction.ofText other = .ok j ∧
      i.kind = j.kind ∧ i.amount = j.amount ∧ i.currency = j.currency ∧
      i.executeBy = j.executeBy ∧
      ∃ d c, Leads (Text.words text) d ∧ Leads (Text.words text) c ∧
        (Text.words text)[d + 1]? = some i.debit ∧ (Text.words other)[d + 1]? = some j.debit ∧
        (Text.words text)[c + 1]? = some i.credit ∧
        (Text.words other)[c + 1]? = some j.credit := by
  have empty : text = "" ↔ other = "" :=
    ⟨eq_empty_of_alike alike.symm, eq_empty_of_alike alike⟩
  rcases (counterpart_of_alike alike).reading empty with refused | ⟨i, j, one, two, same⟩
  · exact .inl refused
  · exact .inr ⟨i, j, one, two, same.kind, same.amount, same.currency, same.executeBy,
      same.places⟩

theorem letter_case_ignored_sample : ∃ i j,
    Instruction.ofText "debit 5 usd from account a-One for credit to account B.two" = .ok i ∧
    Instruction.ofText "Debit 5 USD From Account A-oNE For Credit To Account b.Two" = .ok j ∧
    i.kind = j.kind ∧ i.amount = j.amount ∧ i.currency = j.currency ∧
    i.debit = "a-One" ∧ j.debit = "A-oNE" := by
  have one : Instruction.ofText "debit 5 usd from account a-One for credit to account B.two" =
      .ok ⟨.debit, 5, "USD", "a-One", "B.two", none⟩ := by decide +kernel
  have two : Instruction.ofText "Debit 5 USD From Account A-oNE For Credit To Account b.Two" =
      .ok ⟨.debit, 5, "USD", "A-oNE", "b.Two", none⟩ := by decide +kernel
  have alike : Text.asciiLower "debit 5 usd from account a-One for credit to account B.two" =
      Text.asciiLower "Debit 5 USD From Account A-oNE For Credit To Account b.Two" := by
    decide +kernel
  rcases letter_case_ignored alike with ⟨fault, refused, -⟩ | ⟨i, j, hi, hj, kind, amount,
    currency, -, -⟩
  · cases one.symm.trans refused
  · cases one.symm.trans hi
    cases two.symm.trans hj
    exact ⟨_, _, hi, hj, kind, amount, currency, rfl, rfl⟩

end Remit
