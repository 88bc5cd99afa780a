import Mathlib.Algebra.Ring.Int.Defs
import Remit.Proofs.Ending

namespace Remit

namespace Snapshot

def total (accounts : Snapshot) : Int := (accounts.map (·.balance)).sum

/-- What the entries of an identifier lack of a balance, all together. -/
def gap (accounts : Snapshot) (id : String) (balance : Int) : Int :=
  ((accounts.filter (·.id = id)).map (balance - ·.balance)).sum

theorem total_cons (a : Account) (accounts : Snapshot) :
    total (a :: accounts) = a.balance + accounts.total := by
  simp [total]

theorem gap_cons (a : Account) (accounts : Snapshot) (id : String) (balance : Int) :
    gap (a :: accounts) id balance =
      (if a.id = id then balance - a.balance else 0) + accounts.gap id balance := by
  by_cases bears : a.id = id <;> simp [gap, bears]

theorem gap_of_count_one {accounts : Snapshot} {id : String} {first : Account} {balance : Int}
    (resolved : accounts.resolve id = some first)
    (once : (accounts.map (·.id)).count id = 1) :
    accounts.gap id balance = balance - first.balance := by
  obtain ⟨member, bears⟩ := resolve_some resolved
  have inside : first ∈ accounts.filter (·.id = id) :=
    List.mem_filter.mpr ⟨member, decide_eq_true bears⟩
  have single : (accounts.filter (·.id = id)).length = 1 := by
    rw [← once, List.count, List.countP_map, ← List.countP_eq_length_filter]
    rfl
  obtain ⟨only, alone⟩ := List.length_eq_one_iff.mp single
  have same : first = only := by simpa [alone] using inside
  rw [gap, alone, same]
  simp

/-- Two identifiers that differ are raised independently of one another. -/
theorem total_raise {first second : String} (differ : first ≠ second) (m n : Int)
    (accounts : Snapshot) :
    total (accounts.map fun a =>
      if a.id = first then { a with balance := m }
      else if a.id = second then { a with balance := n }
      else a) = accounts.total + accounts.gap first m + accounts.gap second n := by
  induction accounts with
  | nil => rfl
  | cons a accounts ih =>
    rw [List.map_cons, total_cons, ih, total_cons, gap_cons, gap_cons]
    by_cases opening : a.id = first
    · have other : ¬ a.id = second := fun closing => differ (opening.symm.trans closing)
      simp only [if_pos opening, if_neg other]
      omega
    · by_cases closing : a.id = second
      · simp only [if_neg opening, if_pos closing]
        omega
      · simp only [if_neg opening, if_neg closing]
        omega

end Snapshot

theorem Instruction.Authorized.settle_transfer {i : Instruction Int} {accounts : Snapshot}
    {debit credit : Account} (authorized : i.Authorized accounts debit credit) :
    accounts.settle (i.views accounts true) = accounts.map fun a =>
      if a.id = i.debit then { a with balance := debit.balance - i.amount }
      else if a.id = i.credit then { a with balance := credit.balance + i.amount }
      else a := by
  apply List.map_congr_left
  intro a member
  rw [Instruction.settle_views i true member]
  by_cases debited : a.id = i.debit
  · have uncredited : ¬ a.id = i.credit := fun credited =>
      authorized.sides_differ (debited.symm.trans credited)
    simp [Instruction.Names, Instruction.change?, debited, debited ▸ uncredited,
      Snapshot.balanceOf_eq authorized.debited, Int.sub_eq_add_neg]
  · by_cases credited : a.id = i.credit
    · simp [Instruction.Names, Instruction.change?, credited, credited ▸ debited,
        Snapshot.balanceOf_eq authorized.credited]
    · simp [Instruction.Names, debited, credited]

/-- The sum of all entries after a transfer. It is kept just where the gaps of the two sides cancel,
and so wherever neither side is repeated. -/
theorem transfer_total {text : Json} {accounts : Snapshot} {today : Date} {p : Processed}
    (processed : process text accounts today = .ok p)
    (successful : p.outcome.status = .successful) :
    ∃ i debit credit, p.outcome.instruction = some i ∧
      accounts.resolve i.debit = some debit ∧ accounts.resolve i.credit = some credit ∧
      Snapshot.total (accounts.settle p.outcome.views) = accounts.total +
        accounts.gap i.debit (debit.balance - i.amount) +
        accounts.gap i.credit (credit.balance + i.amount) ∧
      (Snapshot.total (accounts.settle p.outcome.views) = accounts.total ↔
        accounts.gap i.debit (debit.balance - i.amount) +
          accounts.gap i.credit (credit.balance + i.amount) = 0) ∧
      ((accounts.map (·.id)).count i.debit = 1 → (accounts.map (·.id)).count i.credit = 1 →
        Snapshot.total (accounts.settle p.outcome.views) = accounts.total) := by
  obtain ⟨i, debit, credit, stated, views, authorized⟩ :=
    (process_eq_ok.mp processed).authorized_of_successful successful
  have sum : Snapshot.total (accounts.settle p.outcome.views) = accounts.total +
      accounts.gap i.debit (debit.balance - i.amount) +
      accounts.gap i.credit (credit.balance + i.amount) := by
    rw [views, authorized.settle_transfer]
    exact Snapshot.total_raise authorized.sides_differ _ _ accounts
  refine ⟨i, debit, credit, stated, authorized.debited, authorized.credited, sum,
    by omega, ?_⟩
  intro debitOnce creditOnce
  rw [sum, Snapshot.gap_of_count_one authorized.debited debitOnce,
    Snapshot.gap_of_count_one authorized.credited creditOnce]
  omega

def sampleLedger : Snapshot :=
  [⟨"A1", 1000, "USD"⟩, ⟨"C9", 5, "USD"⟩, ⟨"B1", 0, "USD"⟩, ⟨"C9", 8, "NGN"⟩]

def sampleTransfer : Outcome :=
  ⟨.successful, .executed, some ⟨.debit, 500, "USD", "A1", "B1", none⟩,
    [⟨"A1", 500, 1000, "USD"⟩, ⟨"B1", 500, 0, "USD"⟩]⟩

theorem transfer_total_sample :
    process (.str "DEBIT 500 USD FROM ACCOUNT A1 FOR CREDIT TO ACCOUNT B1") sampleLedger
      ⟨2025, 6, 15, by decide⟩ = .ok ⟨sampleTransfer, executedRecord .debit sampleTransfer⟩ ∧
    sampleTransfer.status = .successful ∧
    Snapshot.total (sampleLedger.settle sampleTransfer.views) = sampleLedger.total := by
  have processed : process (.str "DEBIT 500 USD FROM ACCOUNT A1 FOR CREDIT TO ACCOUNT B1")
      sampleLedger ⟨2025, 6, 15, by decide⟩ =
        .ok ⟨sampleTransfer, executedRecord .debit sampleTransfer⟩ := by rfl
  refine ⟨processed, rfl, ?_⟩
  obtain ⟨i, debit, credit, stated, -, -, -, -, kept⟩ := transfer_total processed rfl
  have same : i = ⟨.debit, 500, "USD", "A1", "B1", none⟩ := (Option.some.inj stated).symm
  subst same
  exact kept (by decide) (by decide)

/-- A transfer from an account that is listed again, with another balance. -/
theorem transfer_total_not_kept :
    ¬ ∀ (text : Json) (accounts : Snapshot) (today : Date) (p : Processed),
      process text accounts today = .ok p → p.outcome.status = .successful →
        Snapshot.total (accounts.settle p.outcome.views) = accounts.total := by
  intro kept
  have sum := kept (.str "DEBIT 500 USD FROM ACCOUNT A1 FOR CREDIT TO ACCOUNT B1")
    [⟨"A1", 1000, "USD"⟩, ⟨"B1", 0, "USD"⟩, ⟨"A1", 0, "USD"⟩] ⟨2025, 6, 15, by decide⟩ _ rfl rfl
  revert sum
  decide +kernel

end Remit
