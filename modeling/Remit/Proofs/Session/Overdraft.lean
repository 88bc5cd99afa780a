import Remit.Proofs.Session.Ledger

/-! No overdraft. The account that a transfer debits is the one whose balance the checks compared
with the amount, and the one to which the result is written, however often its identifier occurs.
So a step leaves a resolved balance at zero or above, or does not lower it. -/

namespace Remit

theorem Ended.movement_covered {text : Json} {accounts : Snapshot} {today : Date} {p : Processed}
    (ended : Ended text accounts today p) {id : String} {first : Account}
    (resolved : accounts.resolve id = some first) :
    0 ≤ p.outcome.movement id ∨ 0 ≤ first.balance + p.outcome.movement id := by
  cases ended with
  | unrecognized | refused | scheduled => exact Or.inl (Int.le_refl 0)
  | @executed i debit credit read authorized due =>
    have positive := authorized.positive
    by_cases debited : id = i.debit
    · have same : debit = first := by
        rw [debited, authorized.debited] at resolved
        exact Option.some.inj resolved
      have uncredited : ¬ id = i.credit := fun credited =>
        authorized.sides_differ (debited.symm.trans credited)
      have funded := same ▸ authorized.funded
      right
      simp only [Outcome.movement, if_pos debited, if_neg uncredited]
      omega
    · left
      simp only [Outcome.movement, if_neg debited]
      split <;> omega

theorem Step.posted_covered {step : Step} {accounts : Snapshot} {turn : Turn}
    (ran : step.run accounts = .ok turn) {id : String} {first : Account}
    (resolved : accounts.resolve id = some first) :
    0 ≤ step.posted turn id ∨ 0 ≤ first.balance + step.posted turn id := by
  obtain ⟨p, ended, rfl⟩ := Step.run_eq_ok.mp ran
  unfold Step.posted
  split
  · exact ended.movement_covered resolved
  · exact Or.inl (Int.le_refl 0)

def Covers (accounts s : Snapshot) (id : String) : Prop :=
  ∀ a, s.resolve id = some a →
    ∃ first, accounts.resolve id = some first ∧ min 0 first.balance ≤ a.balance

theorem Step.run_covers {step : Step} {accounts s : Snapshot} {turn : Turn} {id : String}
    (ran : step.run s = .ok turn) (covers : Covers accounts s id) :
    Covers accounts turn.snapshot id := by
  intro after resolved
  rw [Step.run_resolve ran] at resolved
  obtain ⟨a, before, rfl⟩ := Option.map_eq_some_iff.mp resolved
  obtain ⟨first, start, bound⟩ := covers a before
  refine ⟨first, start, ?_⟩
  dsimp only
  rcases Step.posted_covered ran before with raised | held <;> omega

theorem Step.debited_holds {step : Step} {s : Snapshot} {turn : Turn}
    (ran : step.run s = .ok turn) (successful : turn.outcome.status = .successful)
    {i : Instruction Int} (stated : turn.outcome.instruction = some i) {a : Account}
    (resolved : s.resolve i.debit = some a) : 0 ≤ a.balance := by
  obtain ⟨p, ended, rfl⟩ := Step.run_eq_ok.mp ran
  obtain ⟨j, debit, credit, same, -, authorized⟩ := ended.authorized_of_successful successful
  have equal : i = j := Option.some.inj (stated.symm.trans same)
  subst equal
  have holder : debit = a := Option.some.inj (authorized.debited.symm.trans resolved)
  have funded := holder ▸ authorized.funded
  have positive := authorized.positive
  omega

/-- In every snapshot of every session a resolved balance is at least zero or at least what it was
at the start. One that is negative is never debited, and never falls. -/
theorem session_no_overdraft {accounts : Snapshot} {steps : List Step} {turns : List Turn}
    (run : session accounts steps = .ok turns) (id : String) :
    (∀ s ∈ reached accounts turns, ∀ a, s.resolve id = some a →
      ∃ first, accounts.resolve id = some first ∧ min 0 first.balance ≤ a.balance ∧
        (0 ≤ first.balance → 0 ≤ a.balance)) ∧
    ∀ s turn, (s, turn) ∈ (reached accounts turns).zip turns →
      ∀ a, s.resolve id = some a → a.balance < 0 →
        (turn.outcome.status = .successful →
          ∀ i, turn.outcome.instruction = some i → i.debit ≠ id) ∧
        ∃ after, turn.snapshot.resolve id = some after ∧ a.balance ≤ after.balance := by
  have ran := session_eq_ok.mp run
  constructor
  · have start : Covers accounts accounts id := fun a resolved => ⟨a, resolved, by omega⟩
    intro s member a resolved
    obtain ⟨first, found, bound⟩ := ran.reached_of_step Step.run_covers start s member a resolved
    exact ⟨first, found, bound, by omega⟩
  · intro s turn member a resolved negative
    obtain ⟨step, turned⟩ := ran.step_of_mem member
    constructor
    · intro successful i stated same
      subst same
      have holds := Step.debited_holds turned successful stated resolved
      omega
    · refine ⟨_, by rw [Step.run_resolve turned, resolved]; rfl, ?_⟩
      dsimp only
      rcases Step.posted_covered turned resolved with raised | held <;> omega

theorem session_no_overdraft_sample :
    session sampleAccounts sampleSteps = .ok sampleTurns ∧
    sampleAccounts.resolve "b" = some ⟨"b", -5, "USD"⟩ ∧
    ∀ s ∈ reached sampleAccounts sampleTurns, ∀ a, s.resolve "b" = some a → -5 ≤ a.balance := by
  refine ⟨sample_session, by decide, ?_⟩
  intro s member a resolved
  obtain ⟨first, found, bound, -⟩ :=
    (session_no_overdraft sample_session "b").1 s member a resolved
  have owed : first.balance = -5 := by cases found; rfl
  omega

end Remit
