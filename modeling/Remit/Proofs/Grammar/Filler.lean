import Mathlib.Data.List.InsertIdx
import Remit.Proofs.Grammar.Counterpart

namespace Remit

def opened (p i : Nat) : Nat := if i < p then i else i + 1

section Position

variable {α : Type} {us : List α} {u x : α} {p i j : Nat}

theorem opened_strictMono (p : Nat) : StrictMono (opened p) := by
  intro i j before
  unfold opened
  split <;> split <;> omega

theorem exists_opened (other : j ≠ p) : ∃ i, opened p i = j := by
  by_cases before : j < p
  · exact ⟨j, if_pos before⟩
  · refine ⟨j - 1, ?_⟩
    rw [opened, if_neg (by omega)]
    omega

theorem opened_succ (apart : i + 1 ≠ p) : opened p (i + 1) = opened p i + 1 := by
  unfold opened
  split <;> split <;> omega

theorem getElem?_insertIdx_opened (us : List α) (x : α) (p i : Nat) :
    (us.insertIdx p x)[opened p i]? = us[i]? := by
  rw [List.getElem?_insertIdx]
  by_cases before : i < p
  · rw [opened, if_pos before, if_pos before]
  · rw [opened, if_neg before, if_neg (by omega), if_neg (by omega), Nat.add_sub_cancel]

/-- Any word but the new one stands where it was found before. -/
theorem getElem?_insertIdx_iff (new : u ≠ x) :
    (us.insertIdx p x)[j]? = some u ↔ ∃ i, opened p i = j ∧ us[i]? = some u := by
  constructor
  · intro found
    have other : j ≠ p := by
      rintro rfl
      rw [List.getElem?_insertIdx_self, Option.ite_none_right_eq_some] at found
      exact new (Option.some.inj found.2).symm
    obtain ⟨i, rfl⟩ := exists_opened other
    exact ⟨i, rfl, by rwa [getElem?_insertIdx_opened] at found⟩
  · rintro ⟨i, rfl, found⟩
    rw [getElem?_insertIdx_opened, found]

end Position

def Filler (x : String) : Prop := ∀ k : Keyword, Text.upper x ≠ k.spelling

section Filler

variable {ws : List String} {x text longer : String} {p i : Nat}

theorem Leads.spelled (leads : Leads ws i) :
    (capitalized ws)[i]? = some "ACCOUNT" ∨ (capitalized ws)[i]? = some "ON" := by
  cases leads with
  | first account => exact .inl account.1
  | second _ next => exact .inl next.1
  | date on => exact .inr on.1

theorem capitalized_insertIdx :
    capitalized (ws.insertIdx p x) = (capitalized ws).insertIdx p (Text.upper x) :=
  List.map_insertIdx ..

theorem getElem?_insertIdx_field (free : ¬ Leads ws (p - 1)) (leads : Leads ws i) :
    (ws.insertIdx p x)[opened p i + 1]? = ws[i + 1]? := by
  have apart : i + 1 ≠ p := by
    rintro rfl
    exact free leads
  rw [← opened_succ apart, getElem?_insertIdx_opened]

theorem counterpart_insertIdx (behind : 3 ≤ p) (filler : Filler x) (free : ¬ Leads ws (p - 1)) :
    Counterpart ws (ws.insertIdx p x) (opened p) := by
  refine ⟨opened_strictMono p, fun i front => ?_, fun k j => ?_, fun i leads => ?_⟩
  · have own : opened p i = i := if_pos (by omega)
    have same := getElem?_insertIdx_opened ws x p i
    rw [own] at same
    exact ⟨own, congrArg _ same⟩
  · rw [capitalized_insertIdx]
    exact getElem?_insertIdx_iff (filler k).symm
  · exact congrArg _ (getElem?_insertIdx_field free leads)

theorem Corresponds.eq_of_filler {i j : Instruction Int} (free : ¬ Leads ws (p - 1))
    (same : Corresponds ws (ws.insertIdx p x) (opened p) i j) : i = j := by
  obtain ⟨d, c, leadsDebit, leadsCredit, debit, otherDebit, credit, otherCredit⟩ := same.places
  rw [getElem?_insertIdx_field free leadsDebit, debit] at otherDebit
  rw [getElem?_insertIdx_field free leadsCredit, credit] at otherCredit
  obtain ⟨kind, amount, currency, executeBy, -⟩ := same
  cases i
  cases j
  rw [Instruction.mk.injEq]
  exact ⟨kind, amount, currency, Option.some.inj otherDebit, Option.some.inj otherCredit,
    executeBy⟩

theorem ofText_insertIdx (behind : 3 ≤ p) (inside : p ≤ (Text.words text).length)
    (filler : Filler x) (free : ¬ Leads (Text.words text) (p - 1))
    (inserted : Text.words longer = (Text.words text).insertIdx p x) :
    Instruction.ofText longer = Instruction.ofText text := by
  have counter := counterpart_insertIdx behind filler free
  rw [← inserted] at counter
  have long : (Text.words longer).length = (Text.words text).length + 1 := by
    rw [inserted, List.length_insertIdx_of_le_length inside]
  have blank : (Text.words "").length = 0 := rfl
  have empty : text = "" ↔ longer = "" := by
    constructor
    · rintro rfl
      omega
    · rintro rfl
      omega
  rcases counter.reading empty with ⟨fault, one, two⟩ | ⟨i, j, one, two, same⟩
  · rw [one, two]
  · rw [inserted] at same
    rw [one, two, same.eq_of_filler free]

/-- A filler word is passed over wherever it is added behind the leading words, unless it comes
between one of the first two ACCOUNT or the first ON and the word after it. The text with it is read
as the text without it, or refused with the same fault. -/
theorem filler_word_ignored (behind : 3 ≤ p) (inside : p ≤ (Text.words text).length)
    (word : Text.IsWord x.toList) (filler : Filler x) (free : ¬ Leads (Text.words text) (p - 1)) :
    Text.words (" ".intercalate ((Text.words text).insertIdx p x)) =
      (Text.words text).insertIdx p x ∧
    ∀ longer, Text.words longer = (Text.words text).insertIdx p x →
      Instruction.ofText longer = Instruction.ofText text := by
  constructor
  · apply Text.words_intercalate
    intro w member
    rcases List.eq_or_mem_of_mem_insertIdx member with rfl | old
    · exact word
    · exact Text.isWord_of_mem_words old
  · intro longer inserted
    exact ofText_insertIdx behind inside filler free inserted

end Filler

/-- A word between TO and the second ACCOUNT. -/
theorem filler_word_ignored_sample :
    Instruction.ofText "DEBIT 5 USD FROM ACCOUNT A1 FOR CREDIT TO the ACCOUNT B1" =
      .ok ⟨.debit, 5, "USD", "A1", "B1", none⟩ := by
  have words : Text.words "DEBIT 5 USD FROM ACCOUNT A1 FOR CREDIT TO ACCOUNT B1" =
      ["DEBIT", "5", "USD", "FROM", "ACCOUNT", "A1", "FOR", "CREDIT", "TO", "ACCOUNT", "B1"] := by
    decide +kernel
  have inserted : Text.words "DEBIT 5 USD FROM ACCOUNT A1 FOR CREDIT TO the ACCOUNT B1" =
      (Text.words "DEBIT 5 USD FROM ACCOUNT A1 FOR CREDIT TO ACCOUNT B1").insertIdx 9 "the" := by
    rw [words]
    decide +kernel
  have inside : 9 ≤ (Text.words "DEBIT 5 USD FROM ACCOUNT A1 FOR CREDIT TO ACCOUNT B1").length := by
    rw [words]
    decide
  have filler : Filler "the" := by
    intro k
    cases k <;> decide
  have free : ¬ Leads (Text.words "DEBIT 5 USD FROM ACCOUNT A1 FOR CREDIT TO ACCOUNT B1") 8 := by
    intro leads
    have keyword := leads.spelled
    rw [words] at keyword
    exact absurd keyword (by decide)
  obtain ⟨-, same⟩ := filler_word_ignored (by decide) inside (by decide) filler free
  exact (same _ inserted).trans (by decide +kernel)

end Remit
