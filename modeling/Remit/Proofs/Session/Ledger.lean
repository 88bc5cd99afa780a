import Mathlib.Algebra.Ring.Int.Defs
import Remit.Proofs.Session.Posting

namespace Remit

def posted (steps : List Step) (turns : List Turn) (id : String) : Int :=
  (List.zipWith (·.posted · id) steps turns).sum

theorem posted_cons (step : Step) (steps : List Step) (turn : Turn) (turns : List Turn)
    (id : String) :
    posted (step :: steps) (turn :: turns) id = step.posted turn id + posted steps turns id := by
  simp [posted]

def final : Snapshot → List Turn → Snapshot
  | accounts, [] => accounts
  | _, turn :: turns => final turn.snapshot turns

/-- The snapshots that a session passes through, the first and the last included. -/
def reached (accounts : Snapshot) (turns : List Turn) : List Snapshot :=
  accounts :: turns.map (·.snapshot)

inductive Ran : Snapshot → List Step → List Turn → Prop where
  | nil {accounts : Snapshot} : Ran accounts [] []
  | cons {accounts : Snapshot} {step : Step} {turn : Turn} {steps : List Step}
      {turns : List Turn} (ran : step.run accounts = .ok turn)
      (rest : Ran turn.snapshot steps turns) : Ran accounts (step :: steps) (turn :: turns)

theorem session_eq_ok {accounts : Snapshot} {steps : List Step} {turns : List Turn} :
    session accounts steps = .ok turns ↔ Ran accounts steps turns := by
  constructor
  · intro run
    induction steps generalizing accounts turns with
    | nil => cases run; exact .nil
    | cons step steps ih =>
      unfold session at run
      split at run
      · cases run
      · rename_i turn ran
        split at run
        · cases run
        · rename_i later rest
          cases run
          exact .cons ran (ih rest)
  · intro run
    induction run with
    | nil => rfl
    | cons ran rest ih => simp only [session, ran, ih]

theorem Ran.posted_eq_zero {accounts : Snapshot} {steps : List Step} {turns : List Turn}
    (run : Ran accounts steps turns) {id : String}
    (unwritten : ¬ ∃ step ∈ steps, step.Writes id) : posted steps turns id = 0 := by
  induction run with
  | nil => rfl
  | cons ran rest ih =>
    simp only [List.mem_cons, exists_eq_or_imp, not_or] at unwritten
    rw [posted_cons, Step.posted_eq_zero ran unwritten.1, ih unwritten.2, Int.zero_add]

theorem Ran.reached_of_step {P : Snapshot → Prop} {accounts : Snapshot} {steps : List Step}
    {turns : List Turn} (run : Ran accounts steps turns)
    (keeps : ∀ {s : Snapshot} {step : Step} {turn : Turn},
      Step.run step s = .ok turn → P s → P turn.snapshot)
    (start : P accounts) : ∀ s ∈ reached accounts turns, P s := by
  induction run with
  | nil => simpa [reached] using start
  | cons ran rest ih =>
    intro s member
    rcases List.mem_cons.mp member with rfl | later
    · exact start
    · exact ih (keeps ran start) s later

theorem Ran.step_of_mem {accounts : Snapshot} {steps : List Step} {turns : List Turn}
    (run : Ran accounts steps turns) : ∀ {s : Snapshot} {turn : Turn},
      (s, turn) ∈ (reached accounts turns).zip turns → ∃ step, Step.run step s = .ok turn := by
  induction run with
  | nil => simp
  | cons ran rest ih =>
    intro s turn member
    rcases List.mem_cons.mp member with first | later
    · cases first
      exact ⟨_, ran⟩
    · exact ih later

theorem Ran.final_eq {accounts : Snapshot} {steps : List Step} {turns : List Turn}
    (run : Ran accounts steps turns) :
    final accounts turns = accounts.map fun a =>
      a.leveled accounts (∃ step ∈ steps, step.Writes a.id) (posted steps turns a.id) := by
  induction run with
  | nil => simp [final, Account.leveled]
  | cons ran rest ih =>
    -- the later steps write to the entries as the first step left them
    rw [final, ih]
    conv =>
      lhs
      rhs
      rw [Step.run_snapshot ran]
    rw [List.map_map]
    apply List.map_congr_left
    intro a member
    have moved := Step.run_balanceOf ran member
    simp only [Function.comp_apply, Account.leveled_id, List.mem_cons, exists_eq_or_imp,
      posted_cons]
    exact Account.leveled_leveled moved rest.posted_eq_zero

/-- Order, identifiers and currencies never change. A balance is the entry's own until a step
writes to its identifier, and from then on what the first entry of the identifier held at the
start, with everything that was credited to it and debited from it. -/
theorem session_ledger {accounts : Snapshot} {steps : List Step} {turns : List Turn}
    (run : session accounts steps = .ok turns) :
    (final accounts turns).length = accounts.length ∧
    ∀ (k : Nat) (start : Account), accounts[k]? = some start →
      ∃ entry first, (final accounts turns)[k]? = some entry ∧
        accounts.resolve start.id = some first ∧
        entry.id = start.id ∧ entry.currency = start.currency ∧
        entry.balance =
          if ∃ step ∈ steps, step.apply = true ∧ NamedBy step.text start.id then
            first.balance + posted steps turns start.id
          else start.balance := by
  have entries := (session_eq_ok.mp run).final_eq
  refine ⟨by rw [entries, List.length_map], ?_⟩
  intro k start found
  obtain ⟨first, resolved⟩ := Snapshot.resolve_of_mem (List.mem_of_getElem? found)
  refine ⟨_, first, by rw [entries, List.getElem?_map, found]; rfl, resolved, ?_⟩
  simp only [Account.leveled, Snapshot.balanceOf_eq resolved, Step.Writes]
  split <;> exact ⟨rfl, rfl, rfl⟩

def sampleAccounts : Snapshot :=
  [⟨"a", 100, "USD"⟩, ⟨"b", -5, "USD"⟩, ⟨"a", 7, "USD"⟩, ⟨"c", 1, "NGN"⟩]

def sampleDay : Date := ⟨2024, 6, 1, by decide⟩

def sampleSteps : List Step :=
  [⟨.str "DEBIT 30 USD FROM ACCOUNT a FOR CREDIT TO ACCOUNT b", sampleDay, true⟩,
    ⟨.str "CREDIT 500 USD TO ACCOUNT a FOR DEBIT FROM ACCOUNT b", sampleDay, true⟩,
    ⟨.str "DEBIT 20 USD FROM ACCOUNT b FOR CREDIT TO ACCOUNT a ON 2030-01-01", sampleDay, true⟩,
    ⟨.str "DEBIT 1 USD FROM ACCOUNT b FOR CREDIT TO ACCOUNT a", sampleDay, false⟩]

def sampleTurns : List Turn := (session sampleAccounts sampleSteps).toOption.getD []

theorem sample_session : session sampleAccounts sampleSteps = .ok sampleTurns := by
  have runs : (session sampleAccounts sampleSteps).isOk = true := by decide +kernel
  unfold sampleTurns
  cases result : session sampleAccounts sampleSteps with
  | error e => rw [result] at runs; cases runs
  | ok turns => rfl

theorem session_ledger_sample :
    session sampleAccounts sampleSteps = .ok sampleTurns ∧
    (final sampleAccounts sampleTurns).map (·.balance) = [70, 25, 70, 1] ∧
    ∃ entry, (final sampleAccounts sampleTurns)[2]? = some entry ∧
      entry.balance = 100 + posted sampleSteps sampleTurns "a" := by
  refine ⟨sample_session, by decide +kernel, ?_⟩
  obtain ⟨entry, first, found, resolved, -, -, balance⟩ :=
    (session_ledger sample_session).2 2 ⟨"a", 7, "USD"⟩ rfl
  refine ⟨entry, found, ?_⟩
  have held : first.balance = 100 := by cases resolved; rfl
  rw [balance, if_pos (by decide +kernel), held]

end Remit
