import Remit.Proofs.Ending
import Remit.Proofs.Grammar.Reading

/-! Which instructions move money, at once or on their date. The checks and the reading agree on
one condition: what the reading guarantees of the amount is what the first check asks for, and the
accounts that are checked are the ones that are moved. An instruction that does not meet the
condition leaves its views level. -/

namespace Remit

def Instruction.Allowed (i : Instruction Int) (accounts : Snapshot) : Prop :=
  ∃ debit credit, accounts.resolve i.debit = some debit ∧
    accounts.resolve i.credit = some credit ∧ i.debit ≠ i.credit ∧
    i.currency ∈ ["NGN", "USD", "GBP", "GHS"] ∧ debit.currency = i.currency ∧
    credit.currency = i.currency ∧ i.amount ≤ debit.balance

def Instruction.Early (i : Instruction Int) (today : Date) : Prop :=
  ∃ d, i.executeBy = some d ∧ today < d

variable {text : Json} {accounts : Snapshot} {today : Date} {p : Processed} {i : Instruction Int}

theorem isPending_iff : isPending i.executeBy today = true ↔ i.Early today := by
  unfold isPending Instruction.Early
  cases i.executeBy with
  | none => simp
  | some d => simp

theorem positive_of_ofValue (read : Instruction.ofValue text = .ok i) : 0 < i.amount := by
  cases text with
  | str s =>
    have stated : States (Text.words s) i := ofText_eq_ok.mp read
    obtain ⟨m, -, amount⟩ := stated.amount
    exact amount.positive
  | _ => cases read

theorem Instruction.allowed_iff (positive : 0 < i.amount) :
    i.Allowed accounts ↔ ∃ debit credit, i.Authorized accounts debit credit := by
  constructor
  · rintro ⟨debit, credit, debited, credited, differ, supported, debitCurrency, creditCurrency,
      funded⟩
    have distinct := (Snapshot.ids_differ_iff debited credited).mpr differ
    exact ⟨debit, credit, debited, credited, positive, distinct, supported, debitCurrency,
      creditCurrency, funded⟩
  · rintro ⟨debit, credit, authorized⟩
    exact ⟨debit, credit, authorized.debited, authorized.credited, authorized.sides_differ,
      authorized.supported, authorized.debitCurrency, authorized.creditCurrency,
      authorized.funded⟩

theorem Instruction.views_level {v : View} (member : v ∈ i.views accounts false) :
    v.balance = v.balanceBefore := by
  obtain ⟨-, first, -, rfl⟩ := Instruction.mem_views.mp member
  exact Int.add_zero first.balance

namespace Ended

theorem of_unread {fault : SyntaxFault} (ended : Ended text accounts today p)
    (unread : Instruction.ofValue text = .error fault) :
    p.outcome.status = .failed ∧ p.outcome.instruction = none ∧ p.outcome.views = [] := by
  cases ended with
  | unrecognized => exact ⟨rfl, rfl, rfl⟩
  | refused read | scheduled read | executed read => cases read.symm.trans unread

theorem of_allowed (ended : Ended text accounts today p)
    (read : Instruction.ofValue text = .ok i) (allowed : i.Allowed accounts) :
    p.outcome.instruction = some i ∧
      (i.Early today ∧ p.outcome.status = .pending ∧ p.outcome.code.name = "AP02" ∨
        ¬ i.Early today ∧ p.outcome.status = .successful ∧ p.outcome.code.name = "AP00") := by
  cases ended with
  | unrecognized unread => cases unread.symm.trans read
  | refused same invalid =>
    cases same.symm.trans read
    have authorized := (Instruction.allowed_iff (positive_of_ofValue read)).mp allowed
    cases (validate_int_eq_ok.mpr authorized).symm.trans invalid
  | scheduled same authorized early =>
    cases same.symm.trans read
    exact ⟨rfl, Or.inl ⟨isPending_iff.mp early, rfl, rfl⟩⟩
  | executed same authorized due =>
    cases same.symm.trans read
    have notEarly : ¬ i.Early today := by
      rw [← isPending_iff, due]
      decide
    exact ⟨rfl, Or.inr ⟨notEarly, rfl, rfl⟩⟩

theorem of_not_allowed (ended : Ended text accounts today p)
    (read : Instruction.ofValue text = .ok i) (forbidden : ¬ i.Allowed accounts) :
    p.outcome.status = .failed ∧ p.outcome.instruction = some i ∧
      ∀ v ∈ p.outcome.views, v.balance = v.balanceBefore := by
  have unauthorized := mt (Instruction.allowed_iff (positive_of_ofValue read)).mpr forbidden
  cases ended with
  | unrecognized unread => cases unread.symm.trans read
  | refused same invalid =>
    cases same.symm.trans read
    exact ⟨rfl, rfl, fun v member => Instruction.views_level member⟩
  | scheduled same authorized =>
    cases same.symm.trans read
    exact absurd ⟨_, _, authorized⟩ unauthorized
  | executed same authorized =>
    cases same.symm.trans read
    exact absurd ⟨_, _, authorized⟩ unauthorized

end Ended

/-- An outcome is successful or pending just if the text states an instruction that meets the
condition, and then its date decides which of the two. All others fail without a movement. -/
theorem authorization_exact (processed : process text accounts today = .ok p) :
    (p.outcome.status = .successful ∨ p.outcome.status = .pending ↔
      ∃ i, Instruction.ofValue text = .ok i ∧ i.Allowed accounts) ∧
    (∀ i, Instruction.ofValue text = .ok i → i.Allowed accounts →
      p.outcome.instruction = some i ∧
      (p.outcome.status = .pending ∧ p.outcome.code.name = "AP02" ↔ i.Early today) ∧
      (p.outcome.status = .successful ∧ p.outcome.code.name = "AP00" ↔ ¬ i.Early today)) ∧
    (∀ fault, Instruction.ofValue text = .error fault →
      p.outcome.status = .failed ∧ p.outcome.instruction = none ∧ p.outcome.views = []) ∧
    ∀ i, Instruction.ofValue text = .ok i → ¬ i.Allowed accounts →
      p.outcome.status = .failed ∧ p.outcome.instruction = some i ∧
        ∀ v ∈ p.outcome.views, v.balance = v.balanceBefore := by
  have ended := process_eq_ok.mp processed
  refine ⟨⟨?_, ?_⟩, ?_, fun fault unread => ended.of_unread unread,
    fun i read forbidden => ended.of_not_allowed read forbidden⟩
  · intro passed
    cases read : Instruction.ofValue text with
    | error fault => simp [(ended.of_unread read).1] at passed
    | ok i =>
      by_cases allowed : i.Allowed accounts
      · exact ⟨i, rfl, allowed⟩
      · simp [(ended.of_not_allowed read allowed).1] at passed
  · rintro ⟨i, read, allowed⟩
    obtain ⟨-, ⟨-, pending, -⟩ | ⟨-, successful, -⟩⟩ := ended.of_allowed read allowed
    · exact Or.inr pending
    · exact Or.inl successful
  · intro i read allowed
    obtain ⟨stated, ⟨early, pending, code⟩ | ⟨due, successful, code⟩⟩ :=
      ended.of_allowed read allowed
    · simp [stated, early, pending, code]
    · simp [stated, due, successful, code]

def sampleScheduled : Outcome :=
  ⟨.pending, .scheduled, some ⟨.debit, 500, "USD", "A1", "B1", some ⟨2025, 6, 16, by decide⟩⟩,
    [⟨"A1", 500, 500, "USD"⟩, ⟨"B1", -7, -7, "USD"⟩]⟩

/-- The whole balance is asked for, for the day after. -/
theorem authorization_exact_sample :
    process (.str "DEBIT 500 USD FROM ACCOUNT A1 FOR CREDIT TO ACCOUNT B1 ON 2025-06-16")
      [⟨"A1", 500, "USD"⟩, ⟨"B1", -7, "USD"⟩] ⟨2025, 6, 15, by decide⟩ =
        .ok ⟨sampleScheduled, executedRecord .debit sampleScheduled⟩ ∧
    ∃ i, Instruction.ofValue
        (.str "DEBIT 500 USD FROM ACCOUNT A1 FOR CREDIT TO ACCOUNT B1 ON 2025-06-16") = .ok i ∧
      i.Allowed [⟨"A1", 500, "USD"⟩, ⟨"B1", -7, "USD"⟩] ∧ i.Early ⟨2025, 6, 15, by decide⟩ := by
  have processed : process
      (.str "DEBIT 500 USD FROM ACCOUNT A1 FOR CREDIT TO ACCOUNT B1 ON 2025-06-16")
      [⟨"A1", 500, "USD"⟩, ⟨"B1", -7, "USD"⟩] ⟨2025, 6, 15, by decide⟩ =
        .ok ⟨sampleScheduled, executedRecord .debit sampleScheduled⟩ := by rfl
  obtain ⟨passes, decides, -, -⟩ := authorization_exact processed
  obtain ⟨i, read, allowed⟩ := passes.mp (Or.inr rfl)
  have early := (decides i read allowed).2.1.mp ⟨rfl, rfl⟩
  exact ⟨processed, i, read, allowed, early⟩

end Remit
