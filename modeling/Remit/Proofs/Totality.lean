import Remit.Proofs.Decision
import Remit.Proofs.Dependence
import Remit.Proofs.Session.Overdraft

/-! Which requests have an outcome. The only stage that can end without one is the refusal for lack
of funds, because its text shows two integers. The amount has a written form, as it was read from
one. So everything else must be in order, and the balance must lie so far below zero that it has no
written form. A session whose accounts do not start that low never gets there. No stage after the
checks can miss an account: every entry that an instruction names has its view. -/

namespace Remit

theorem IsAmount.writable {token : String} {n : Int} (amount : IsAmount token n) :
    Text.Writable n := by
  rw [amount.value, ← Text.digitsValue_eq_ofDigitChars]
  exact Text.writable_digitsValue amount.digits amount.short

theorem writable_of_ofValue {text : Json} {i : Instruction Int}
    (read : Instruction.ofValue text = .ok i) : Text.Writable i.amount := by
  cases text with
  | str s =>
    obtain ⟨m, -, amount⟩ := (ofText_eq_ok.mp read : States (Text.words s) i).amount
    exact amount.writable
  | _ => cases read

theorem Refusal.reason_insufficientFunds {debit : Account} {amount : Int} {currency : String}
    {e : Text.TooLong} : (Refusal.insufficientFunds debit amount currency).reason = .error e ↔
      ¬ (Text.Writable debit.balance ∧ Text.Writable amount) := by
  cases e
  unfold reason Text.decimal?
  by_cases held : Text.Writable debit.balance
  · by_cases needed : Text.Writable amount
    · simp only [held, needed, if_true, and_self, not_true_eq_false, iff_false]
      exact nofun
    · simp only [held, needed, if_true, if_false, and_false, not_false_eq_true, iff_true]
      rfl
  · simp only [held, if_false, false_and, not_false_eq_true, iff_true]
    rfl

theorem Refusal.reason_eq_error {refusal : Refusal} {e : Text.TooLong} :
    refusal.reason = .error e ↔ ∃ debit amount currency,
      refusal = .insufficientFunds debit amount currency ∧
        ¬ (Text.Writable debit.balance ∧ Text.Writable amount) := by
  constructor
  · intro unwritten
    cases refusal with
    | insufficientFunds debit amount currency =>
      exact ⟨debit, amount, currency, rfl, reason_insufficientFunds.mp unwritten⟩
    | _ => cases unwritten
  · rintro ⟨debit, amount, currency, rfl, unwritable⟩
    exact reason_insufficientFunds.mpr unwritable

/-- All is in order but the funds. -/
structure Instruction.Unfunded (i : Instruction Int) (accounts : Snapshot)
    (debit credit : Account) : Prop where
  debited : accounts.resolve i.debit = some debit
  credited : accounts.resolve i.credit = some credit
  distinct : debit.id ≠ credit.id
  supported : i.currency ∈ supportedCurrencies
  debitCurrency : debit.currency = i.currency
  creditCurrency : credit.currency = i.currency
  short : debit.balance < i.amount

theorem checkAccounts_unfunded {i : Instruction Int} {debit credit holder : Account} {amount : Int}
    {currency : String} :
    checkAccounts i debit credit = .error (.insufficientFunds holder amount currency) ↔
      (debit.id ≠ credit.id ∧ i.currency ∈ supportedCurrencies ∧ debit.currency = i.currency ∧
        credit.currency = i.currency ∧ debit.balance < i.amount) ∧
      holder = debit ∧ amount = i.amount ∧ currency = i.currency := by
  unfold checkAccounts
  constructor
  · intro refused
    split at refused
    · cases refused
    · rename_i distinct
      split at refused
      · cases refused
      · rename_i supported
        split at refused
        · cases refused
        · rename_i agree
          split at refused
          · cases refused
          · rename_i stated
            split at refused
            · rename_i short
              cases refused
              have debited := Decidable.not_not.mp stated
              have credited := (Decidable.not_not.mp agree).symm.trans debited
              exact ⟨⟨distinct, Decidable.not_not.mp supported, debited, credited, short⟩, rfl, rfl,
                rfl⟩
            · cases refused
  · rintro ⟨⟨distinct, supported, debited, credited, short⟩, rfl, rfl, rfl⟩
    rw [if_neg distinct, if_neg (not_not_intro supported),
      if_neg (not_not_intro (debited.trans credited.symm)), if_neg (not_not_intro debited),
      if_pos short]

theorem validate_unfunded {i : Instruction Int} {accounts : Snapshot} (positive : 0 < i.amount)
    {holder : Account} {amount : Int} {currency : String} :
    validate (i.withAmount (.int i.amount)) accounts =
        .error (.insufficientFunds holder amount currency) ↔
      (∃ credit, i.Unfunded accounts holder credit) ∧ amount = i.amount ∧
        currency = i.currency := by
  have checked : checkAmount (.int i.amount) = .ok i.amount := checkAmount_eq_ok.mpr ⟨rfl, positive⟩
  unfold validate
  simp only [Instruction.withAmount, checked]
  constructor
  · intro refused
    split at refused
    · cases refused
    · rename_i debit debited
      split at refused
      · cases refused
      · rename_i credit credited
        obtain ⟨⟨distinct, supported, debitCurrency, creditCurrency, short⟩, rfl, rfl, rfl⟩ :=
          checkAccounts_unfunded.mp refused
        exact ⟨⟨credit, debited, credited, distinct, supported, debitCurrency, creditCurrency,
          short⟩, rfl, rfl⟩
  · rintro ⟨⟨credit, unfunded⟩, rfl, rfl⟩
    simp only [unfunded.debited, unfunded.credited]
    exact checkAccounts_unfunded.mpr ⟨⟨unfunded.distinct, unfunded.supported,
      unfunded.debitCurrency, unfunded.creditCurrency, unfunded.short⟩, rfl, rfl, rfl⟩

/-- All is in order but the funds, and the balance that the reason would show has more than 4300
digits. -/
def Unworded (text : Json) (accounts : Snapshot) : Prop :=
  ∃ i debit credit, Instruction.ofValue text = .ok i ∧ accounts.resolve i.debit = some debit ∧
    accounts.resolve i.credit = some credit ∧ i.debit ≠ i.credit ∧
    i.currency ∈ ["NGN", "USD", "GBP", "GHS"] ∧ debit.currency = i.currency ∧
    credit.currency = i.currency ∧ debit.balance ≤ -(Nat.pow 10 4300 : Int)

theorem low_iff {held amount : Int} (positive : 0 < amount) (writable : Text.Writable amount) :
    held ≤ -(Nat.pow 10 4300 : Int) ↔ held < amount ∧ ¬ Text.Writable held := by
  have limit : Text.maxDigits = 4300 := rfl
  rw [← limit]
  unfold Text.Writable at *
  generalize Nat.pow 10 Text.maxDigits = bound at *
  omega

section Process

variable {text : Json} {accounts : Snapshot} {today : Date} {e : Text.TooLong}

theorem Instruction.process_eq_error {i : Instruction Int} :
    i.process accounts today = .error e ↔ ∃ refusal,
      validate (i.withAmount (.int i.amount)) accounts = .error refusal ∧
        refusal.reason = .error e := by
  unfold process
  split
  · rename_i refusal invalid
    split <;> simp_all
  · simp_all

theorem Instruction.unworded_iff {i : Instruction Int} (read : Instruction.ofValue text = .ok i) :
    Unworded text accounts ↔
      ∃ debit credit, i.Unfunded accounts debit credit ∧ ¬ Text.Writable debit.balance := by
  have low : ∀ held, held ≤ -(Nat.pow 10 4300 : Int) ↔ held < i.amount ∧ ¬ Text.Writable held :=
    fun held => low_iff (positive_of_ofValue read) (writable_of_ofValue read)
  constructor
  · rintro ⟨j, debit, credit, same, debited, credited, differ, supported, debitCurrency,
      creditCurrency, below⟩
    cases read.symm.trans same
    obtain ⟨short, unwritable⟩ := (low _).mp below
    exact ⟨debit, credit, ⟨debited, credited, (Snapshot.ids_differ_iff debited credited).mpr differ,
      supported, debitCurrency, creditCurrency, short⟩, unwritable⟩
  · rintro ⟨debit, credit, ⟨debited, credited, distinct, supported, debitCurrency, creditCurrency,
      short⟩, unwritable⟩
    exact ⟨i, debit, credit, read, debited, credited,
      (Snapshot.ids_differ_iff debited credited).mp distinct, supported, debitCurrency,
      creditCurrency, (low _).mpr ⟨short, unwritable⟩⟩

theorem process_eq_error : process text accounts today = .error e ↔ Unworded text accounts := by
  unfold process
  constructor
  · intro failed
    split at failed
    · cases failed
    · rename_i i read
      obtain ⟨refusal, invalid, unwritten⟩ := Instruction.process_eq_error.mp failed
      obtain ⟨debit, amount, currency, rfl, unwritable⟩ := Refusal.reason_eq_error.mp unwritten
      have positive := positive_of_ofValue read
      obtain ⟨⟨credit, unfunded⟩, rfl, rfl⟩ := (validate_unfunded positive).mp invalid
      refine (Instruction.unworded_iff read).mpr ⟨debit, credit, unfunded, fun held => ?_⟩
      exact unwritable ⟨held, writable_of_ofValue read⟩
  · intro unworded
    obtain ⟨i, -, -, read, -⟩ := id unworded
    obtain ⟨debit, credit, unfunded, unwritable⟩ := (Instruction.unworded_iff read).mp unworded
    have invalid := (validate_unfunded (positive_of_ofValue read)).mpr
      ⟨⟨credit, unfunded⟩, rfl, rfl⟩
    rw [read]
    exact Instruction.process_eq_error.mpr ⟨_, invalid, Refusal.reason_insufficientFunds.mpr
      fun both => unwritable both.1⟩

theorem exists_outcome_iff :
    (∃ p, process text accounts today = .ok p) ↔ ¬ Unworded text accounts := by
  have failed : process text accounts today = .error .tooLong ↔ Unworded text accounts :=
    process_eq_error
  rw [← failed]
  cases process text accounts today with
  | ok p => simp
  | error e => cases e; simp

theorem Ended.views_ids {p : Processed} (ended : Ended text accounts today p) {i : Instruction Int}
    (stated : p.outcome.instruction = some i) :
    p.outcome.views.map (·.id) = (accounts.map (·.id)).filter i.Names := by
  cases ended with
  | unrecognized => cases stated
  | refused | scheduled | executed =>
    cases stated
    exact i.views_ids accounts _

end Process

def Snapshot.Shallow (accounts : Snapshot) : Prop :=
  ∀ id a, accounts.resolve id = some a → -(Nat.pow 10 4300 : Int) < a.balance

theorem Snapshot.Shallow.worded {accounts : Snapshot} (shallow : accounts.Shallow) (text : Json) :
    ¬ Unworded text accounts := by
  rintro ⟨i, debit, credit, -, debited, -, -, -, -, -, low⟩
  exact Int.not_lt.mpr low (shallow i.debit debit debited)

theorem Step.run_ok {accounts : Snapshot} (shallow : accounts.Shallow) (step : Step) :
    ∃ turn, step.run accounts = .ok turn := by
  obtain ⟨p, processed⟩ : ∃ p, process step.text accounts step.today = .ok p :=
    exists_outcome_iff.mpr (shallow.worded step.text)
  exact ⟨_, Step.run_eq_ok.mpr ⟨p, process_eq_ok.mp processed, rfl⟩⟩

theorem Step.run_shallow {step : Step} {accounts : Snapshot} {turn : Turn}
    (ran : step.run accounts = .ok turn) (shallow : accounts.Shallow) : turn.snapshot.Shallow := by
  intro id after resolved
  -- a balance falls below its start only as far as funds cover it
  have start : Covers accounts accounts id := fun a found => ⟨a, found, by omega⟩
  obtain ⟨first, found, bound⟩ := Step.run_covers ran start after resolved
  have above := shallow id first found
  have positive : ∀ k, 0 < Nat.pow 10 k := fun k => Nat.pow_pos (by decide)
  have bounded := positive 4300
  omega

theorem Snapshot.Shallow.session_ok {accounts : Snapshot} (shallow : accounts.Shallow)
    (steps : List Step) : ∃ turns, session accounts steps = .ok turns := by
  induction steps generalizing accounts with
  | nil => exact ⟨[], rfl⟩
  | cons step steps ih =>
    obtain ⟨turn, ran⟩ := Step.run_ok shallow step
    obtain ⟨turns, rest⟩ := ih (Step.run_shallow ran shallow)
    exact ⟨turn :: turns, by simp only [session, ran, rest]⟩

/-- Every text, on every snapshot and day, has an outcome, unless only the funds are lacking and
the balance is of more than 4300 digits below zero. Then there is none, but no session gets there
from accounts that do not start that low. An outcome leaves out no entry that it should show. -/
theorem outcome_unless_unworded (text : Json) (accounts : Snapshot) (today : Date) :
    ((∃ p, process text accounts today = .ok p) ↔ ¬ Unworded text accounts) ∧
    (process text accounts today = .error .tooLong ↔ Unworded text accounts) ∧
    (∀ p, process text accounts today = .ok p → ∀ i, p.outcome.instruction = some i →
      p.outcome.views.map (·.id) = (accounts.map (·.id)).filter i.Names) ∧
    (accounts.Shallow → ∀ steps, ∃ turns, session accounts steps = .ok turns) := by
  refine ⟨exists_outcome_iff, process_eq_error, fun p processed i stated => ?_,
    Snapshot.Shallow.session_ok⟩
  exact (process_eq_ok.mp processed).views_ids stated

/-- Without any funds, once and three times in a row. -/
theorem outcome_unless_unworded_sample :
    (∃ p, process (.str "DEBIT 1 USD FROM ACCOUNT A1 FOR CREDIT TO ACCOUNT B1")
      [⟨"A1", 0, "USD"⟩, ⟨"B1", 0, "USD"⟩] ⟨2025, 6, 15, by decide⟩ = .ok p) ∧
    ∃ turns, session [⟨"A1", 0, "USD"⟩, ⟨"B1", 0, "USD"⟩] (List.replicate 3
      ⟨.str "DEBIT 1 USD FROM ACCOUNT A1 FOR CREDIT TO ACCOUNT B1",
        ⟨2025, 6, 15, by decide⟩, true⟩) = .ok turns := by
  have shallow : Snapshot.Shallow [⟨"A1", 0, "USD"⟩, ⟨"B1", 0, "USD"⟩] := by
    intro id a resolved
    have positive : ∀ k, 0 < Nat.pow 10 k := fun k => Nat.pow_pos (by decide)
    have bounded := positive 4300
    have zero : a.balance = 0 := by
      have member := (Snapshot.resolve_some resolved).1
      simp only [List.mem_cons, List.not_mem_nil, or_false] at member
      rcases member with rfl | rfl <;> rfl
    omega
  obtain ⟨total, -, -, sessions⟩ := outcome_unless_unworded
    (.str "DEBIT 1 USD FROM ACCOUNT A1 FOR CREDIT TO ACCOUNT B1")
    [⟨"A1", 0, "USD"⟩, ⟨"B1", 0, "USD"⟩] ⟨2025, 6, 15, by decide⟩
  exact ⟨total.mpr (shallow.worded _), sessions shallow _⟩

/-- The debtor of a transfer of 1 lies 10 ^ 4300 below zero. -/
theorem outcome_not_for_all :
    ¬ ∀ (text : Json) (accounts : Snapshot) (today : Date),
      ∃ p, process text accounts today = .ok p := by
  intro total
  obtain ⟨p, processed⟩ := total (.str "DEBIT 1 USD FROM ACCOUNT A1 FOR CREDIT TO ACCOUNT B1")
    [⟨"A1", -(Nat.pow 10 4300 : Int), "USD"⟩, ⟨"B1", 0, "USD"⟩] ⟨2025, 6, 15, by decide⟩
  refine exists_outcome_iff.mp ⟨p, processed⟩ ?_
  exact ⟨⟨.debit, 1, "USD", "A1", "B1", none⟩, _, _, rfl, rfl, rfl, by decide, by decide, rfl, rfl,
    Int.le_refl _⟩

end Remit
