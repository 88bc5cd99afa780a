import Remit.Pipeline
import Remit.Proofs.Ending

namespace Remit

/-- An entry that is written to takes the balance that its identifier resolves to, and an amount
on top of it. -/
def Account.leveled (a : Account) (accounts : Snapshot) (written : Prop) [Decidable written]
    (amount : Int) : Account :=
  if written then { a with balance := accounts.balanceOf a.id + amount } else a

@[simp] theorem Account.leveled_id (a : Account) (accounts : Snapshot) (written : Prop)
    [Decidable written] (amount : Int) : (a.leveled accounts written amount).id = a.id := by
  unfold leveled
  split <;> rfl

theorem Account.leveled_leveled {a : Account} {accounts after : Snapshot} {first second : Prop}
    [Decidable first] [Decidable second] {m n : Int}
    (moved : after.balanceOf a.id = accounts.balanceOf a.id + m) (idle : ¬ second → n = 0) :
    (a.leveled accounts first m).leveled after second n =
      a.leveled accounts (first ∨ second) (m + n) := by
  by_cases later : second
  -- the second write puts its own amount on what the first left, wherever the entry stood
  · have total : accounts.balanceOf a.id + m + n = accounts.balanceOf a.id + (m + n) := by omega
    simp only [leveled, later, if_true, or_true]
    split <;> simp [moved, total]
  · simp [leveled, later, idle later]

section Leveled

variable {written : String → Prop} [DecidablePred written] {amount : String → Int}

theorem Snapshot.resolve_leveled (accounts : Snapshot)
    (idle : ∀ id, ¬ written id → amount id = 0) (id : String) :
    Snapshot.resolve (accounts.map fun a => a.leveled accounts (written a.id) (amount a.id)) id =
      (accounts.resolve id).map fun a => { a with balance := a.balance + amount id } := by
  rw [resolve_map fun a => a.leveled_id _ _ _]
  cases resolved : accounts.resolve id with
  | none => rfl
  | some first =>
    obtain ⟨-, rfl⟩ := resolve_some resolved
    simp only [Option.map_some, Account.leveled, balanceOf_eq resolved]
    split
    · rfl
    -- a first entry that is not written to has nothing posted to it either
    · rename_i unwritten
      rw [idle _ unwritten, Int.add_zero]

theorem Snapshot.balanceOf_leveled {accounts : Snapshot}
    (idle : ∀ id, ¬ written id → amount id = 0) {a : Account} (member : a ∈ accounts) :
    Snapshot.balanceOf (accounts.map fun a => a.leveled accounts (written a.id) (amount a.id))
      a.id = accounts.balanceOf a.id + amount a.id := by
  obtain ⟨first, resolved⟩ := resolve_of_mem member
  have after := accounts.resolve_leveled idle a.id
  rw [resolved, Option.map_some] at after
  rw [balanceOf_eq resolved, balanceOf_eq after]

end Leveled

def Step.Writes (step : Step) (id : String) : Prop := step.apply = true ∧ NamedBy step.text id

instance (step : Step) (id : String) : Decidable (step.Writes id) :=
  inferInstanceAs (Decidable (_ ∧ _))

def Step.posted (step : Step) (turn : Turn) (id : String) : Int :=
  if step.apply then turn.outcome.movement id else 0

section Step

variable {step : Step} {accounts : Snapshot} {turn : Turn}

theorem Step.run_eq_ok : step.run accounts = .ok turn ↔
    ∃ p, Ended step.text accounts step.today p ∧
      turn = ⟨p.outcome, if step.apply then accounts.settle p.outcome.views else accounts⟩ := by
  unfold Step.run
  constructor
  · intro ran
    split at ran
    · cases ran
    · rename_i p processed
      exact ⟨p, process_eq_ok.mp processed, (Except.ok.inj ran).symm⟩
  · rintro ⟨p, ended, rfl⟩
    rw [process_eq_ok.mpr ended]

theorem Step.posted_eq_zero (ran : step.run accounts = .ok turn) {id : String}
    (unwritten : ¬ step.Writes id) : step.posted turn id = 0 := by
  obtain ⟨p, ended, rfl⟩ := Step.run_eq_ok.mp ran
  unfold Step.posted
  split
  · rename_i applied
    exact ended.movement_eq_zero fun named => unwritten ⟨applied, named⟩
  · rfl

theorem Step.run_snapshot (ran : step.run accounts = .ok turn) :
    turn.snapshot = accounts.map fun a =>
      a.leveled accounts (step.Writes a.id) (step.posted turn a.id) := by
  obtain ⟨p, ended, rfl⟩ := Step.run_eq_ok.mp ran
  by_cases applied : step.apply = true
  · simp only [Account.leveled, Step.Writes, Step.posted, applied, if_true, true_and]
    exact List.map_congr_left fun a member => ended.settle_entry member
  · simp [Account.leveled, Step.Writes, applied]

theorem Step.run_resolve (ran : step.run accounts = .ok turn) (id : String) :
    turn.snapshot.resolve id =
      (accounts.resolve id).map fun a => { a with balance := a.balance + step.posted turn id } := by
  rw [Step.run_snapshot ran]
  apply accounts.resolve_leveled
  intro id unwritten
  exact Step.posted_eq_zero ran unwritten

theorem Step.run_balanceOf (ran : step.run accounts = .ok turn) {a : Account}
    (member : a ∈ accounts) :
    turn.snapshot.balanceOf a.id = accounts.balanceOf a.id + step.posted turn a.id := by
  rw [Step.run_snapshot ran]
  apply Snapshot.balanceOf_leveled _ member
  intro id unwritten
  exact Step.posted_eq_zero ran unwritten

end Step

end Remit
