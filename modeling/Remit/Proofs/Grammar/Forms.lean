import Remit.Proofs.Grammar.Canonical
import Remit.Proofs.Grammar.Refusal

/-! The two forms of one transfer, as sentences with nothing between their parts. A form is refused
for the order of its keywords if the currency or an identifier displaces one of them. The keywords
that can be displaced are not the same in both forms: a DEBIT looks for CREDIT at its first place
and a CREDIT for DEBIT at its last, and the account that stands first is not the same. So the forms
mean the same just where both displace a keyword or neither does. -/

namespace Remit

variable {k : Kind} {m q x y d c : String} {n : Int} {day : Option Date} {a : Anchors}
  {fault : SyntaxFault}

section Phrase

theorem hasKeywords_phrase (k : Kind) (amount : IsAmount m n) (q x y : String)
    (day : Option Date) : HasKeywords (k.phrase m q x y day) k := by
  have capitals := capitalized_phrase k amount q x y day
  refine ⟨?_, ?_, ?_, ?_, 4, 9, by decide, ?_⟩ <;> rw [capitals]
  all_goals simp [Kind.phrase]

theorem ordered_phrase (amount : IsAmount m n) (anchored : Anchored (k.phrase m q x y day) k a) :
    a.Ordered k ↔ k.InPlace (Text.upper q) (Text.upper x) (Text.upper y) := by
  have capitals := capitalized_phrase k amount q x y day
  constructor
  · exact anchored.inPlace capitals amount.ne_spelling
  · intro inPlace
    obtain ⟨b, others, ordered⟩ := inPlace.exists_anchored amount.ne_spelling capitals
    cases anchored.unique others
    exact ordered

theorem nonempty_phrase (token : Text.IsWord m.toList) (currency : Text.IsWord q.toList)
    (first : IsAccountId x) (second : IsAccountId y) :
    " ".intercalate (k.phrase m q x y day) ≠ "" := by
  intro empty
  have words := words_phrase k token currency first second day
  rw [empty] at words
  cases words

/-- A phrase whose amount is one can only break the rules about its keywords and what follows. -/
theorem ofText_phrase_eq_error (amount : IsAmount m n) (currency : Text.IsWord q.toList)
    (first : IsAccountId x) (second : IsAccountId y)
    (anchored : Anchored (k.phrase m q x y day) k a) :
    Instruction.ofText (" ".intercalate (k.phrase m q x y day)) = .error fault ↔
      FirstBroken (lateRules (k.phrase m q x y day) k a) fault.code.name := by
  rw [ofText_eq_error, words_phrase k amount.isWord currency first second day]
  exact firstBroken_of_anchored (nonempty_phrase amount.isWord currency first second)
    opens_phrase ⟨m, n, rfl, amount⟩ (by simp [Kind.phrase]) anchored

theorem ofText_phrase_order (amount : IsAmount m n) (currency : Text.IsWord q.toList)
    (first : IsAccountId x) (second : IsAccountId y)
    (displaced : ¬ k.InPlace (Text.upper q) (Text.upper x) (Text.upper y)) :
    Instruction.ofText (" ".intercalate (k.phrase m q x y day)) = .error .wrongKeywordOrder := by
  obtain ⟨a, anchored⟩ := exists_anchored_iff.mpr (hasKeywords_phrase k amount q x y day)
  have disordered := mt (ordered_phrase amount anchored).mp displaced
  exact (ofText_phrase_eq_error amount currency first second anchored).mpr (.inl ⟨disordered, rfl⟩)

theorem ofText_phrase_date (amount : IsAmount m n) (currency : Text.IsWord q.toList)
    (first : IsAccountId x) (second : IsAccountId y)
    (inPlace : k.InPlace (Text.upper q) (Text.upper x) (Text.upper y))
    (on : ¬ (Text.upper q ≠ "ON" ∧ Text.upper x ≠ "ON" ∧ Text.upper y ≠ "ON")) :
    Instruction.ofText (" ".intercalate (k.phrase m q x y day)) = .error .invalidDate := by
  have capitals := capitalized_phrase k amount q x y day
  obtain ⟨a, anchored⟩ := exists_anchored_iff.mpr (hasKeywords_phrase k amount q x y day)
  have ordered := (ordered_phrase amount anchored).mpr inPlace
  obtain ⟨four, -, -, -, nine⟩ := anchored.places capitals amount.ne_spelling ordered
  have undated : ¬ ∃ date, Dated (k.phrase m q x y day) date := by
    rintro ⟨date, dated⟩
    exact on (dated.on capitals rfl amount.ne_spelling)
  have followed : a.second + 1 < (k.phrase m q x y day).length := by
    rw [nine]
    simp [Kind.phrase]
  have named : ∃ v w, (k.phrase m q x y day)[a.first + 1]? = some v ∧
      (k.phrase m q x y day)[a.second + 1]? = some w ∧ IsAccountId v ∧ IsAccountId w := by
    rw [four, nine]
    exact ⟨x, y, rfl, rfl, first, second⟩
  exact (ofText_phrase_eq_error amount currency first second anchored).mpr
    (.inr ⟨ordered, .inr ⟨followed, .inr ⟨named, .inl ⟨undated, rfl⟩⟩⟩⟩)

theorem ofText_phrase_amount (token : Text.IsWord m.toList) (currency : Text.IsWord q.toList)
    (first : IsAccountId x) (second : IsAccountId y) (unreadable : ¬ ∃ n, IsAmount m n) :
    Instruction.ofText (" ".intercalate (k.phrase m q x y day)) = .error .invalidAmount := by
  rw [ofText_eq_error, words_phrase k token currency first second day]
  refine .inr ⟨nonempty_phrase token currency first second, .inr ⟨⟨k, opens_phrase⟩,
    .inr ⟨by simp [Kind.phrase], .inl ⟨?_, rfl⟩⟩⟩⟩
  rintro ⟨w, n, stated, amount⟩
  cases stated
  exact unreadable ⟨n, amount⟩

/-- What comes of a sentence whose keywords may be displaced and of which a word may spell ON. -/
def reading (displaced spelled : Prop) [Decidable displaced] [Decidable spelled]
    (meant : Instruction Int) : Except SyntaxFault (Instruction Int) :=
  if displaced then .error .wrongKeywordOrder
  else if spelled then .error .invalidDate
  else .ok meant

theorem ofText_phrase_eq {displaced spelled : Prop} [Decidable displaced] [Decidable spelled]
    (amount : IsAmount m n) (currency : Text.IsWord q.toList) (first : IsAccountId x)
    (second : IsAccountId y) (late : ∀ e, day = some e → 1000 ≤ e.year)
    (inPlace : k.InPlace (Text.upper q) (Text.upper x) (Text.upper y) ↔ ¬ displaced)
    (free : (Text.upper q ≠ "ON" ∧ Text.upper x ≠ "ON" ∧ Text.upper y ≠ "ON") ↔ ¬ spelled) :
    Instruction.ofText (" ".intercalate (k.phrase m q x y day)) = reading displaced spelled
      ⟨k, n, Text.upper q, (k.sides x y).debit, (k.sides x y).credit, day⟩ := by
  unfold reading
  by_cases moved : displaced
  · rw [if_pos moved]
    exact ofText_phrase_order amount currency first second (mt inPlace.mp (not_not_intro moved))
  rw [if_neg moved]
  by_cases on : spelled
  · rw [if_pos on]
    exact ofText_phrase_date amount currency first second (inPlace.mpr moved)
      (mt free.mp (not_not_intro on))
  · rw [if_neg on]
    have clear := Kind.clear_iff.mpr ⟨inPlace.mpr moved, free.mpr on⟩
    exact (ofText_phrase amount currency first second late).mpr ⟨clear, rfl⟩

end Phrase

def DebitDisplaced (Q D : String) : Prop :=
  Q ∈ ["ACCOUNT", "FOR", "CREDIT", "TO"] ∨ D ∈ ["ACCOUNT", "CREDIT", "TO"]

def CreditDisplaced (Q D C : String) : Prop :=
  Q ∈ ["ACCOUNT", "FOR", "FROM"] ∨ C ∈ ["ACCOUNT", "FROM"] ∨ D = "DEBIT"

instance (Q D : String) : Decidable (DebitDisplaced Q D) := inferInstanceAs (Decidable (_ ∨ _))

instance (Q D C : String) : Decidable (CreditDisplaced Q D C) :=
  inferInstanceAs (Decidable (_ ∨ _))

theorem inPlace_debit {Q D C : String} :
    Kind.debit.InPlace Q D C ↔ ¬ DebitDisplaced Q D := by
  simp only [DebitDisplaced, List.mem_cons, List.not_mem_nil, or_false, not_or]
  constructor
  · rintro ⟨⟨qAccount, qFor, qTo⟩, ⟨dAccount, dTo⟩, credit, -⟩
    obtain ⟨qCredit, dCredit⟩ := credit rfl
    exact ⟨⟨qAccount, qFor, qCredit, qTo⟩, dAccount, dCredit, dTo⟩
  · rintro ⟨⟨qAccount, qFor, qCredit, qTo⟩, dAccount, dCredit, dTo⟩
    exact ⟨⟨qAccount, qFor, qTo⟩, ⟨dAccount, dTo⟩, fun _ => ⟨qCredit, dCredit⟩, nofun⟩

theorem inPlace_credit {Q D C : String} :
    Kind.credit.InPlace Q C D ↔ ¬ CreditDisplaced Q D C := by
  simp only [CreditDisplaced, List.mem_cons, List.not_mem_nil, or_false, not_or]
  constructor
  · rintro ⟨⟨qAccount, qFor, qFrom⟩, ⟨cAccount, cFrom⟩, -, debit⟩
    exact ⟨⟨qAccount, qFor, qFrom⟩, ⟨cAccount, cFrom⟩, debit rfl⟩
  · rintro ⟨⟨qAccount, qFor, qFrom⟩, ⟨cAccount, cFrom⟩, dDebit⟩
    exact ⟨⟨qAccount, qFor, qFrom⟩, ⟨cAccount, cFrom⟩, nofun, fun _ => dDebit⟩

/-- Both are read, as instructions that differ at most in their kind, or both are refused with one
fault. -/
def SameMeaning (r s : Except SyntaxFault (Instruction Int)) : Prop :=
  (∃ i j, r = .ok i ∧ s = .ok j ∧ j = { i with kind := j.kind }) ∨
    ∃ fault, r = .error fault ∧ s = .error fault

section Meaning

variable {r s : Except SyntaxFault (Instruction Int)} {i j : Instruction Int} {P Q on : Prop}
  [Decidable P] [Decidable Q] [Decidable on]

theorem SameMeaning.error_iff (same : SameMeaning r s) : r = .error fault ↔ s = .error fault := by
  obtain ⟨i, j, rfl, rfl, -⟩ | ⟨found, rfl, rfl⟩ := same
  · simp
  · exact Iff.rfl

theorem reading_order : reading P on i = .error .wrongKeywordOrder ↔ P := by
  unfold reading
  split
  · simp [*]
  · split <;> simp [*]

theorem reading_eq_ok (read : reading P on i = .ok j) : j = i := by
  unfold reading at read
  split at read
  · cases read
  · split at read <;> cases read
    rfl

theorem sameMeaning_reading (agree : j = { i with kind := j.kind }) :
    SameMeaning (reading P on i) (reading Q on j) ↔ (P ↔ Q) := by
  constructor
  · intro same
    have refused : reading P on i = .error .wrongKeywordOrder ↔
        reading Q on j = .error .wrongKeywordOrder := same.error_iff
    rwa [reading_order, reading_order] at refused
  · intro both
    by_cases displaced : P
    · exact .inr ⟨_, reading_order.mpr displaced, reading_order.mpr (both.mp displaced)⟩
    · have kept := mt both.mpr displaced
      -- neither form has a displaced keyword, so the date clause decides for both
      by_cases spelled : on
      · exact .inr ⟨.invalidDate, by simp [reading, displaced, spelled],
          by simp [reading, kept, spelled]⟩
      · exact .inl ⟨i, j, by simp [reading, displaced, spelled], by simp [reading, kept, spelled],
          agree⟩

end Meaning

section Forms

variable (currency : Text.IsWord q.toList) (debit : IsAccountId d) (credit : IsAccountId c)
  (late : ∀ e, day = some e → 1000 ≤ e.year)
include currency debit credit late

theorem ofText_debitSentence (amount : IsAmount m n) :
    Instruction.ofText (debitSentence m q d c day) =
      reading (DebitDisplaced (Text.upper q) (Text.upper d))
        ("ON" ∈ [Text.upper q, Text.upper d, Text.upper c])
        ⟨.debit, n, Text.upper q, d, c, day⟩ :=
  ofText_phrase_eq (k := .debit) amount currency debit credit late inPlace_debit
    (by simp [eq_comm])

theorem ofText_creditSentence (amount : IsAmount m n) :
    Instruction.ofText (creditSentence m q d c day) =
      reading (CreditDisplaced (Text.upper q) (Text.upper d) (Text.upper c))
        ("ON" ∈ [Text.upper q, Text.upper d, Text.upper c])
        ⟨.credit, n, Text.upper q, d, c, day⟩ :=
  ofText_phrase_eq (k := .credit) amount currency credit debit late inPlace_credit
    (by simp [eq_comm, and_comm])

/-- The two forms of a transfer. If the amount is none, both are refused for it. If not, each is
refused for the order of its keywords or for its date clause, or it is read. What both read is one
transfer, and they mean the same just if both have a displaced keyword or neither has. -/
theorem forms_agree_unless_displaced (token : Text.IsWord m.toList) :
    ((¬ ∃ n, IsAmount m n) →
      Instruction.ofText (debitSentence m q d c day) = .error .invalidAmount ∧
      Instruction.ofText (creditSentence m q d c day) = .error .invalidAmount) ∧
    (∀ n, IsAmount m n →
      Instruction.ofText (debitSentence m q d c day) =
        reading (DebitDisplaced (Text.upper q) (Text.upper d))
          ("ON" ∈ [Text.upper q, Text.upper d, Text.upper c])
          ⟨.debit, n, Text.upper q, d, c, day⟩ ∧
      Instruction.ofText (creditSentence m q d c day) =
        reading (CreditDisplaced (Text.upper q) (Text.upper d) (Text.upper c))
          ("ON" ∈ [Text.upper q, Text.upper d, Text.upper c])
          ⟨.credit, n, Text.upper q, d, c, day⟩) ∧
    (∀ i j, Instruction.ofText (debitSentence m q d c day) = .ok i →
      Instruction.ofText (creditSentence m q d c day) = .ok j → j = { i with kind := .credit }) ∧
    (SameMeaning (Instruction.ofText (debitSentence m q d c day))
      (Instruction.ofText (creditSentence m q d c day)) ↔
        ((∃ n, IsAmount m n) → (DebitDisplaced (Text.upper q) (Text.upper d) ↔
          CreditDisplaced (Text.upper q) (Text.upper d) (Text.upper c)))) := by
  have unreadable : (¬ ∃ n, IsAmount m n) →
      Instruction.ofText (debitSentence m q d c day) = .error .invalidAmount ∧
      Instruction.ofText (creditSentence m q d c day) = .error .invalidAmount := fun none =>
    ⟨ofText_phrase_amount (k := .debit) token currency debit credit none,
      ofText_phrase_amount (k := .credit) token currency credit debit none⟩
  refine ⟨unreadable, fun n amount => ⟨ofText_debitSentence currency debit credit late amount,
    ofText_creditSentence currency debit credit late amount⟩, ?_, ?_⟩
  · intro i j debitRead creditRead
    by_cases read : ∃ n, IsAmount m n
    · obtain ⟨n, amount⟩ := read
      rw [ofText_debitSentence currency debit credit late amount] at debitRead
      rw [ofText_creditSentence currency debit credit late amount] at creditRead
      rw [reading_eq_ok debitRead, reading_eq_ok creditRead]
    · cases debitRead.symm.trans (unreadable read).1
  · by_cases read : ∃ n, IsAmount m n
    · obtain ⟨n, amount⟩ := read
      rw [ofText_debitSentence currency debit credit late amount,
        ofText_creditSentence currency debit credit late amount, sameMeaning_reading rfl]
      exact ⟨fun both _ => both, fun both => both ⟨n, amount⟩⟩
    · obtain ⟨debitRefused, creditRefused⟩ := unreadable read
      exact iff_of_true (Or.inr ⟨_, debitRefused, creditRefused⟩) fun amount => absurd amount read

end Forms

/-- A currency and an account of which each displaces a keyword of one form. -/
theorem forms_agree_unless_displaced_sample :
    Instruction.ofText (debitSentence "5" "credit" "A1" "DEBIT" none) =
      .error .wrongKeywordOrder ∧
    ¬ SameMeaning (Instruction.ofText (debitSentence "5" "credit" "A1" "DEBIT" none))
      (Instruction.ofText (creditSentence "5" "credit" "A1" "DEBIT" none)) := by
  have token : Text.IsWord "5".toList := by decide
  have amount : IsAmount "5" 5 := amountOfToken?_eq_some.mp (by decide)
  have currency : Text.IsWord "credit".toList := by decide
  have debit : IsAccountId "A1" := by decide
  have credit : IsAccountId "DEBIT" := by decide
  have late : ∀ e : Date, none = some e → 1000 ≤ e.year := nofun
  obtain ⟨-, read, -, same⟩ := forms_agree_unless_displaced currency debit credit late token
  refine ⟨(read 5 amount).1, fun agree => ?_⟩
  exact absurd (same.mp agree ⟨5, amount⟩) (by decide)

/-- An account with the name of a keyword, which only one of the forms can debit. -/
theorem forms_differ :
    ¬ ∀ (m q d c : String) (day : Option Date), Text.IsWord m.toList → Text.IsWord q.toList →
      IsAccountId d → IsAccountId c → (∀ e, day = some e → 1000 ≤ e.year) →
        SameMeaning (Instruction.ofText (debitSentence m q d c day))
          (Instruction.ofText (creditSentence m q d c day)) := by
  intro same
  have currency : Text.IsWord "USD".toList := by decide
  have debit : IsAccountId "TO" := by decide
  have credit : IsAccountId "B1" := by decide
  have late : ∀ e : Date, none = some e → 1000 ≤ e.year := nofun
  have refused : Instruction.ofText (debitSentence "500" "USD" "TO" "B1" none) =
      .error .wrongKeywordOrder := by decide +kernel
  have read := (same "500" "USD" "TO" "B1" none (by decide) currency debit credit late).error_iff.mp
    refused
  exact absurd read (by decide +kernel)

end Remit
