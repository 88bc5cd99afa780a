import Remit.Proofs.Date
import Remit.Proofs.Grammar.Anchor
import Remit.Proofs.Text.Runs

namespace Remit

def dateClause : Option Date → List String
  | none => []
  | some d => ["ON", d.iso]

/-- The words of a sentence that names account `x` before account `y`. -/
def Kind.phrase (k : Kind) (m q x y : String) (day : Option Date) : List String :=
  [k.name, m, q, k.near.spelling, "ACCOUNT", x, "FOR", k.other.spelling, k.far.spelling,
    "ACCOUNT", y] ++ dateClause day

variable {m x : String} {n : Int}

section Keyword

theorem ne_spelling_of_head {c : Char} (head : m.toList.head? = some c) (digit : c.isDigit = true)
    (word : Keyword) : m ≠ word.spelling := by
  rintro rfl
  cases word <;> cases head <;> cases digit

theorem IsAmount.ne_spelling (amount : IsAmount m n) (word : Keyword) : m ≠ word.spelling := by
  have nonempty : m.toList ≠ [] := mt String.toList_eq_nil_iff.mp amount.nonempty
  obtain ⟨c, head⟩ := Option.isSome_iff_exists.mp (List.isSome_head?.mpr nonempty)
  have digit : c.isDigit = true := amount.digits c (List.mem_of_head? head)
  exact ne_spelling_of_head head digit word

theorem Date.iso_ne_spelling (d : Date) (word : Keyword) : d.iso ≠ word.spelling := by
  have head : d.iso.toList.head? = some (digit (d.year / 1000)) := by
    rw [iso, String.toList_ofList]
    rfl
  exact ne_spelling_of_head head (isDigit_digit _) word

end Keyword

section Capital

theorem IsAmount.upper (amount : IsAmount m n) : Text.upper m = m :=
  Text.upper_eq_self fun c member => Or.inl (amount.digits c member)

theorem Date.upper_iso (d : Date) : Text.upper d.iso = d.iso := by
  refine Text.upper_eq_self ?_
  simp [iso, isoChars, isDigit_digit]

theorem upper_spelling (word : Keyword) : Text.upper word.spelling = word.spelling := by
  cases word <;> decide

theorem capitalized_phrase (k : Kind) (amount : IsAmount m n) (q x y : String)
    (day : Option Date) : capitalized (k.phrase m q x y day) =
      k.phrase m (Text.upper q) (Text.upper x) (Text.upper y) day := by
  have name : Text.upper k.name = k.name := by cases k <;> decide
  have account : Text.upper "ACCOUNT" = "ACCOUNT" := upper_spelling .accountWord
  have link : Text.upper "FOR" = "FOR" := upper_spelling .forWord
  have clause : (dateClause day).map Text.upper = dateClause day := by
    cases day with
    | none => rfl
    | some d =>
      have on : Text.upper "ON" = "ON" := upper_spelling .onWord
      simp [dateClause, on, d.upper_iso]
  simp [capitalized, Kind.phrase, amount.upper, name, account, link, clause, upper_spelling]

end Capital

section Word

theorem IsAmount.isWord (amount : IsAmount m n) : Text.IsWord m.toList :=
  ⟨mt String.toList_eq_nil_iff.mp amount.nonempty,
    fun c member => Text.isBlank_of_isDigit (amount.digits c member)⟩

theorem IsAccountId.isWord (valid : IsAccountId x) : Text.IsWord x.toList := by
  refine ⟨mt String.toList_eq_nil_iff.mp valid.1, fun c member => ?_⟩
  rcases valid.2 c member with letter | rfl | rfl | rfl
  · exact Text.isBlank_of_isAlphanum letter
  all_goals decide

theorem Date.isWord_iso (d : Date) : Text.IsWord d.iso.toList := by
  have hyphen : Text.isBlank '-' = false := by decide
  have digits : ∀ n, Text.isBlank (digit n) = false := fun n =>
    Text.isBlank_of_isDigit (isDigit_digit n)
  rw [iso, String.toList_ofList]
  refine ⟨by simp [isoChars], ?_⟩
  simp [isoChars, digits, hyphen]

theorem isWord_spelling (word : Keyword) : Text.IsWord word.spelling.toList := by
  cases word <;> decide

theorem words_phrase {q y : String} (k : Kind) (amount : Text.IsWord m.toList)
    (currency : Text.IsWord q.toList) (first : IsAccountId x) (second : IsAccountId y)
    (day : Option Date) :
    Text.words (" ".intercalate (k.phrase m q x y day)) = k.phrase m q x y day := by
  have name : Text.IsWord k.name.toList := by
    cases k
    · exact isWord_spelling .debitWord
    · exact isWord_spelling .creditWord
  have account := isWord_spelling .accountWord
  have link := isWord_spelling .forWord
  have clause : ∀ w ∈ dateClause day, Text.IsWord w.toList := by
    cases day with
    | none => simp [dateClause]
    | some d =>
      simp only [dateClause, List.forall_mem_cons]
      exact ⟨isWord_spelling .onWord, d.isWord_iso, by simp⟩
  refine Text.words_intercalate ?_
  simp only [Kind.phrase, List.cons_append, List.nil_append, List.forall_mem_cons]
  exact ⟨name, amount, currency, isWord_spelling _, account, first.isWord, link,
    isWord_spelling _, isWord_spelling _, account, second.isWord, clause⟩

end Word

end Remit
