import Remit.Proofs.Grammar.Stage
import Remit.Proofs.Text.Runs

namespace Remit

section Bind

variable {ε α β : Type} {x : Except ε α} {f : α → Except ε β}

theorem eq_ok_of_bind {b : β} (bound : (x >>= f) = .ok b) : ∃ a, x = .ok a ∧ f a = .ok b := by
  cases x with
  | error e => cases bound
  | ok a => exact ⟨a, rfl, bound⟩

theorem eq_error_of_bind {e : ε} (bound : (x >>= f) = .error e) :
    x = .error e ∨ ∃ a, x = .ok a ∧ f a = .error e := by
  cases x with
  | error d =>
    cases bound
    exact Or.inl rfl
  | ok a => exact Or.inr ⟨a, rfl, bound⟩

end Bind

variable {text : String} {ws : List String} {i j : Instruction Int} {fault : SyntaxFault}

theorem ne_empty_of_mem_words : ∀ w ∈ Text.words text, w ≠ "" := by
  rintro w member rfl
  exact (Text.isWord_of_mem_words member).1 rfl

/-- A text without words is read as one empty word, which opens no sentence. -/
theorem ofText_of_words (nonempty : text ≠ "") : Instruction.ofText text =
    if Text.words text = [] then .error .missingKeyword
    else (Sentence.mk (Text.words text)).instruction := by
  rw [Instruction.ofText, if_neg nonempty, Sentence.ofText]
  split
  · rename_i blank
    rw [if_pos blank]
    rfl
  · rename_i full
    rw [if_neg full]

namespace Sentence

theorem instruction_eq_ok (full : ∀ w ∈ ws, w ≠ "") (read : (mk ws).instruction = .ok i) :
    States ws i := by
  obtain ⟨k, kind, read⟩ := eq_ok_of_bind read
  obtain ⟨n, amount, read⟩ := eq_ok_of_bind read
  obtain ⟨q, currency, read⟩ := eq_ok_of_bind read
  obtain ⟨ids, sides, read⟩ := eq_ok_of_bind read
  obtain ⟨date, clause, read⟩ := eq_ok_of_bind read
  cases read
  obtain ⟨a, first, second, anchored, ordered, one, two, hfirst, hsecond, rfl⟩ :=
    checkedSides_eq_ok full sides
  refine ⟨kind_eq_ok.mp kind, amount_eq_ok full amount, currency_eq_ok full currency,
    ⟨a, first, second, anchored, ordered, one, two, hfirst, hsecond, ?_⟩,
    executeBy_eq_ok full clause⟩
  cases k <;> exact ⟨rfl, rfl⟩

theorem instruction_eq_error (full : ∀ w ∈ ws, w ≠ "") (nonempty : text ≠ "")
    (failed : (mk ws).instruction = .error fault) :
    FirstBroken (rules ws text) fault.code.name := by
  refine .inr ⟨nonempty, ?_⟩
  rcases eq_error_of_bind failed with kind | ⟨k, kind, failed⟩
  · obtain ⟨rfl, unopened⟩ := kind_eq_error kind
    exact .inl ⟨unopened, rfl⟩
  have opening := kind_eq_ok.mp kind
  refine .inr ⟨⟨k, opening⟩, ?_⟩
  rcases eq_error_of_bind failed with amount | ⟨n, amount, failed⟩
  · rcases amount_eq_error full amount with ⟨short, rfl⟩ | ⟨long, invalid, rfl⟩
    · exact .inl ⟨short, rfl⟩
    · exact .inr ⟨long, .inl ⟨invalid, rfl⟩⟩
  obtain ⟨m, stated, valid⟩ := amount_eq_ok full amount
  refine .inr ⟨(List.getElem?_eq_some_iff.mp stated).1, .inr ⟨⟨m, n, stated, valid⟩, ?_⟩⟩
  rcases eq_error_of_bind failed with currency | ⟨q, currency, failed⟩
  · obtain ⟨short, rfl⟩ := currency_eq_error full currency
    exact .inl ⟨short, rfl⟩
  obtain ⟨w, spelled, -⟩ := currency_eq_ok full currency
  refine .inr ⟨(List.getElem?_eq_some_iff.mp spelled).1, ?_⟩
  rcases eq_error_of_bind failed with sides | ⟨ids, sides, failed⟩
  · rcases checkedSides_eq_error full sides with
      refused | ⟨a, first, second, anchored, ordered, one, two, invalid, rfl⟩
    · rcases sides_eq_error full refused with
        ⟨missing, rfl⟩ | ⟨a, anchored, ⟨disordered, rfl⟩ | ⟨ordered, short, rfl⟩⟩
      · refine .inl ⟨?_, rfl⟩
        rintro ⟨j, a, opens, anchored⟩
        cases opens.unique opening
        exact missing ⟨a, anchored⟩
      · exact .inr ⟨⟨k, a, opening, anchored⟩,
          .inl ⟨mt (anchored.exists_iff opening).mp disordered, rfl⟩⟩
      · exact .inr ⟨⟨k, a, opening, anchored⟩, .inr ⟨⟨k, a, opening, anchored, ordered⟩,
          .inl ⟨mt (anchored.exists_iff opening).mp short, rfl⟩⟩⟩
    · refine .inr ⟨⟨k, a, opening, anchored⟩, .inr ⟨⟨k, a, opening, anchored, ordered⟩,
        .inr ⟨⟨k, a, opening, anchored, (List.getElem?_eq_some_iff.mp two).1⟩,
          .inl ⟨mt (anchored.exists_iff opening).mp ?_, rfl⟩⟩⟩⟩
      rintro ⟨v, w, found, stands, valid⟩
      cases found.symm.trans one
      cases stands.symm.trans two
      exact invalid valid
  obtain ⟨a, first, second, anchored, ordered, one, two, hfirst, hsecond, -⟩ :=
    checkedSides_eq_ok full sides
  refine .inr ⟨⟨k, a, opening, anchored⟩, .inr ⟨⟨k, a, opening, anchored, ordered⟩,
    .inr ⟨⟨k, a, opening, anchored, (List.getElem?_eq_some_iff.mp two).1⟩,
      .inr ⟨⟨k, a, opening, anchored, first, second, one, two, hfirst, hsecond⟩, ?_⟩⟩⟩⟩
  rcases eq_error_of_bind failed with clause | ⟨date, -, read⟩
  · obtain ⟨undated, rfl⟩ := executeBy_eq_error full clause
    exact .inl ⟨undated, rfl⟩
  · cases read

end Sentence

theorem Dated.unique {c d : Option Date} (one : Dated ws c) (other : Dated ws d) : c = d := by
  cases c with
  | none =>
    cases d with
    | none => rfl
    | some d =>
      obtain ⟨i, on, -⟩ := other
      exact absurd on.1 (one i)
  | some c =>
    obtain ⟨i, on, stated, -⟩ := one
    cases d with
    | none => exact absurd on.1 (other i)
    | some d =>
      obtain ⟨j, first, same, -⟩ := other
      cases on.unique first
      rw [Date.iso_injective (Option.some.inj (stated.symm.trans same))]

theorem States.unique (one : States ws i) (other : States ws j) : i = j := by
  have kind := one.opening.unique other.opening
  obtain ⟨m, numeral, amount⟩ := one.amount
  obtain ⟨n, sameNumeral, sameAmount⟩ := other.amount
  obtain ⟨q, spelled, currency⟩ := one.currency
  obtain ⟨r, sameSpelled, sameCurrency⟩ := other.currency
  obtain ⟨a, first, second, anchored, -, hfirst, hsecond, -, -, sides⟩ := one.sides
  obtain ⟨b, v, w, others, -, hv, hw, -, -, otherSides⟩ := other.sides
  have date := one.date.unique other.date
  cases numeral.symm.trans sameNumeral
  cases spelled.symm.trans sameSpelled
  cases anchored.unique (kind ▸ others)
  cases hfirst.symm.trans hv
  cases hsecond.symm.trans hw
  have value := amount.value.trans sameAmount.value.symm
  have capitals := currency.trans sameCurrency.symm
  obtain ⟨k, n, c, x, y, d⟩ := i
  obtain ⟨k', n', c', x', y', d'⟩ := j
  cases kind
  cases value
  cases capitals
  cases date
  cases k
  · obtain ⟨rfl, rfl⟩ := sides
    obtain ⟨rfl, rfl⟩ := otherSides
    rfl
  · obtain ⟨rfl, rfl⟩ := sides
    obtain ⟨rfl, rfl⟩ := otherSides
    rfl

theorem States.nonempty (stated : States (Text.words text) i) : text ≠ "" := by
  rintro rfl
  obtain ⟨m, found, -⟩ := stated.amount
  cases found

theorem States.keeps_rules (stated : States (Text.words text) i) :
    ∀ entry ∈ rules (Text.words text) text, entry.1 := by
  have nonempty := stated.nonempty
  obtain ⟨opening, ⟨m, numeral, amount⟩, ⟨q, spelled, -⟩,
    ⟨a, first, second, anchored, ordered, one, two, hfirst, hsecond, -⟩, date⟩ := stated
  simp only [rules, List.forall_mem_cons, List.not_mem_nil, false_implies, implies_true, and_true]
  exact ⟨nonempty, ⟨_, opening⟩, (List.getElem?_eq_some_iff.mp numeral).1,
    ⟨m, _, numeral, amount⟩, (List.getElem?_eq_some_iff.mp spelled).1,
    ⟨_, a, opening, anchored⟩, ⟨_, a, opening, anchored, ordered⟩,
    ⟨_, a, opening, anchored, (List.getElem?_eq_some_iff.mp two).1⟩,
    ⟨_, a, opening, anchored, first, second, one, two, hfirst, hsecond⟩, ⟨_, date⟩⟩

theorem states_of_ofText (read : Instruction.ofText text = .ok i) :
    States (Text.words text) i := by
  by_cases nonempty : text = ""
  · rw [Instruction.ofText, if_pos nonempty] at read
    cases read
  · rw [ofText_of_words nonempty] at read
    split at read
    · cases read
    · exact Sentence.instruction_eq_ok ne_empty_of_mem_words read

theorem firstBroken_of_ofText (failed : Instruction.ofText text = .error fault) :
    FirstBroken (rules (Text.words text) text) fault.code.name := by
  by_cases nonempty : text = ""
  · rw [Instruction.ofText, if_pos nonempty] at failed
    cases failed
    exact .inl ⟨not_not_intro nonempty, rfl⟩
  · rw [ofText_of_words nonempty] at failed
    split at failed
    · rename_i blank
      cases failed
      refine .inr ⟨nonempty, .inl ⟨?_, rfl⟩⟩
      rw [blank]
      rintro ⟨k, opening⟩
      cases opening
    · exact Sentence.instruction_eq_error ne_empty_of_mem_words nonempty failed

theorem ofText_eq_ok : Instruction.ofText text = .ok i ↔ States (Text.words text) i := by
  constructor
  · exact states_of_ofText
  · intro stated
    cases result : Instruction.ofText text with
    | ok j => rw [(states_of_ofText result).unique stated]
    | error fault =>
      exact absurd stated.keeps_rules (firstBroken_of_ofText result).exists_broken

/-- The words are the maximal runs of characters that are not blank. A text is read if its words
keep all rules, and then as the instruction that they state. If not, the code is that of the first
rule that they break. -/
theorem instruction_read_by_rules (text : String) :
    Text.Runs text.toList ((Text.words text).map String.toList) ∧
    (∀ i, Instruction.ofText text = .ok i ↔ States (Text.words text) i) ∧
    ((∃ i, Instruction.ofText text = .ok i) ↔
      ∀ entry ∈ rules (Text.words text) text, entry.1) ∧
    ∀ code, (∃ fault, Instruction.ofText text = .error fault ∧ fault.code.name = code) ↔
      FirstBroken (rules (Text.words text) text) code := by
  refine ⟨Text.words_eq_iff.mp rfl, fun i => ofText_eq_ok, ?_, fun code => ?_⟩
  · constructor
    · rintro ⟨i, read⟩
      exact (states_of_ofText read).keeps_rules
    · intro kept
      cases result : Instruction.ofText text with
      | ok i => exact ⟨i, rfl⟩
      | error fault => exact absurd kept (firstBroken_of_ofText result).exists_broken
  · constructor
    · rintro ⟨fault, failed, rfl⟩
      exact firstBroken_of_ofText failed
    · intro broken
      cases result : Instruction.ofText text with
      | ok i => exact absurd (states_of_ofText result).keeps_rules broken.exists_broken
      | error fault => exact ⟨fault, rfl, (firstBroken_of_ofText result).unique broken⟩

end Remit
