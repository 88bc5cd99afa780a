import Remit.Proofs.Dependence
import Remit.Proofs.Session.Ledger
import Remit.Proofs.Standstill

/-! Steps without effect. A step that was refused, that waits for its date or that was not written
back can be left out of a session, and every later step ends as it did. The snapshots of the two
sessions need not be the same, because a refusal levels the entries of an identifier; they list the
same identifiers and resolve them alike, and no step tells more of them apart. -/

namespace Remit

abbrev Alike (s t : Snapshot) : Prop := AgreeOn (fun _ => True) s t

theorem alike_iff {s t : Snapshot} : Alike s t ↔
    s.map (·.id) = t.map (·.id) ∧ ∀ id, s.resolve id = t.resolve id := by
  constructor
  · rintro ⟨order, resolved⟩
    exact ⟨by simpa using order, fun id => resolved id trivial⟩
  · rintro ⟨order, resolved⟩
    exact ⟨by simpa using order, fun id _ => resolved id⟩

section Step

variable {step : Step} {s t : Snapshot} {turn : Turn}

theorem Step.run_ids (ran : step.run s = .ok turn) :
    turn.snapshot.map (·.id) = s.map (·.id) := by
  rw [Step.run_snapshot ran, List.map_map]
  exact List.map_congr_left fun a _ => a.leveled_id _ _ _

/-- A step cannot tell snapshots apart that are alike, and leaves them alike. -/
theorem Step.run_alike (alike : Alike s t) (ran : step.run s = .ok turn) :
    ∃ other, step.run t = .ok other ∧ other.outcome = turn.outcome ∧
      Alike turn.snapshot other.snapshot := by
  obtain ⟨p, ended, rfl⟩ := Step.run_eq_ok.mp ran
  have processed : process step.text t step.today = .ok p := by
    rw [← process_congr (alike.mono fun _ _ => trivial)]
    exact process_eq_ok.mpr ended
  have again := Step.run_eq_ok.mpr ⟨p, process_eq_ok.mp processed, rfl⟩
  obtain ⟨order, resolved⟩ := alike_iff.mp alike
  refine ⟨_, again, rfl, alike_iff.mpr ⟨?_, fun id => ?_⟩⟩
  · rw [Step.run_ids ran, Step.run_ids again, order]
  · rw [Step.run_resolve ran, Step.run_resolve again, resolved]
    rfl

def Step.Idle (step : Step) (turn : Turn) : Prop :=
  turn.outcome.status ≠ .successful ∨ step.apply = false

theorem Step.posted_of_idle (idle : step.Idle turn) (id : String) : step.posted turn id = 0 := by
  unfold Step.posted
  split
  · rename_i applied
    have failed : turn.outcome.status ≠ .successful := by
      rcases idle with failed | unapplied
      · exact failed
      · rw [applied] at unapplied
        cases unapplied
    refine Outcome.movement_of_idle ?_ id
    cases status : turn.outcome.status with
    | successful => exact absurd status failed
    | pending => exact Or.inl rfl
    | failed => exact Or.inr rfl
  · rfl

theorem Step.alike_of_idle (ran : step.run s = .ok turn) (idle : step.Idle turn) :
    Alike turn.snapshot s := by
  refine alike_iff.mpr ⟨Step.run_ids ran, fun id => ?_⟩
  rw [Step.run_resolve ran, Step.posted_of_idle idle]
  simp

end Step

def select {α : Type} (keep : Nat → Bool) : List α → List α
  | [] => []
  | a :: rest =>
    if keep 0 then a :: select (fun k => keep (k + 1)) rest
    else select (fun k => keep (k + 1)) rest

def DropsIdle (keep : Nat → Bool) (steps : List Step) (turns : List Turn) : Prop :=
  ∀ (k : Nat) (step : Step) (turn : Turn), keep k = false → steps[k]? = some step →
    turns[k]? = some turn → step.Idle turn

theorem Ran.drop_idle {s t : Snapshot} {steps : List Step} {turns : List Turn} {keep : Nat → Bool}
    (run : Ran s steps turns) (alike : Alike s t) (idle : DropsIdle keep steps turns) :
    ∃ kept, Ran t (select keep steps) kept ∧
      kept.map (·.outcome) = select keep (turns.map (·.outcome)) := by
  induction run generalizing t keep with
  | nil => exact ⟨[], .nil, rfl⟩
  | @cons s step turn steps turns ran rest ih =>
    have later : DropsIdle (fun k => keep (k + 1)) steps turns := fun k => idle (k + 1)
    cases first : keep 0 with
    | true =>
      obtain ⟨other, again, same, alike⟩ := Step.run_alike alike ran
      obtain ⟨kept, others, outcomes⟩ := ih alike later
      refine ⟨other :: kept, ?_, ?_⟩
      · simpa [select, first] using Ran.cons again others
      · simp [select, first, same, outcomes]
    | false =>
      have left : Alike turn.snapshot s := Step.alike_of_idle ran (idle 0 step turn first rfl rfl)
      obtain ⟨kept, others, outcomes⟩ := ih (left.trans alike) later
      refine ⟨kept, ?_, ?_⟩
      · simpa [select, first] using others
      · simpa [select, first] using outcomes

/-- If steps that did not succeed or were not written back are left out of a session, the others
have the same outcomes. -/
theorem idle_steps_leave_no_trace {accounts : Snapshot} {steps : List Step} {turns : List Turn}
    (run : session accounts steps = .ok turns) {keep : Nat → Bool}
    (idle : ∀ (k : Nat) (step : Step) (turn : Turn), keep k = false → steps[k]? = some step →
      turns[k]? = some turn → turn.outcome.status ≠ .successful ∨ step.apply = false) :
    ∃ kept, session accounts (select keep steps) = .ok kept ∧
      kept.map (·.outcome) = select keep (turns.map (·.outcome)) := by
  have same : Alike accounts accounts := AgreeOn.refl accounts
  obtain ⟨kept, ran, outcomes⟩ := (session_eq_ok.mp run).drop_idle same idle
  exact ⟨kept, session_eq_ok.mpr ran, outcomes⟩

/-- A refusal that levels the entries of an account, and a transfer from that account. -/
def sampleIdle : List Step :=
  [⟨.str "DEBIT 1 EUR FROM ACCOUNT a FOR CREDIT TO ACCOUNT b", sampleDay, true⟩,
    ⟨.str "DEBIT 30 USD FROM ACCOUNT a FOR CREDIT TO ACCOUNT b", sampleDay, true⟩]

def sampleIdleTurns : List Turn :=
  [⟨⟨.failed, .unsupportedCurrency, some ⟨.debit, 1, "EUR", "a", "b", none⟩,
      [⟨"a", 100, 100, "USD"⟩, ⟨"b", -5, -5, "USD"⟩, ⟨"a", 100, 100, "USD"⟩]⟩,
      [⟨"a", 100, "USD"⟩, ⟨"b", -5, "USD"⟩, ⟨"a", 100, "USD"⟩]⟩,
    ⟨⟨.successful, .executed, some ⟨.debit, 30, "USD", "a", "b", none⟩,
      [⟨"a", 70, 100, "USD"⟩, ⟨"b", 25, -5, "USD"⟩, ⟨"a", 70, 100, "USD"⟩]⟩,
      [⟨"a", 70, "USD"⟩, ⟨"b", 25, "USD"⟩, ⟨"a", 70, "USD"⟩]⟩]

theorem idle_steps_leave_no_trace_sample :
    session [⟨"a", 100, "USD"⟩, ⟨"b", -5, "USD"⟩, ⟨"a", 7, "USD"⟩] sampleIdle =
      .ok sampleIdleTurns ∧
    ∃ kept, session [⟨"a", 100, "USD"⟩, ⟨"b", -5, "USD"⟩, ⟨"a", 7, "USD"⟩]
        (select (fun k => k == 1) sampleIdle) = .ok kept ∧
      kept.map (·.outcome) = select (fun k => k == 1) (sampleIdleTurns.map (·.outcome)) := by
  have run : session [⟨"a", 100, "USD"⟩, ⟨"b", -5, "USD"⟩, ⟨"a", 7, "USD"⟩] sampleIdle =
      .ok sampleIdleTurns := by rfl
  refine ⟨run, idle_steps_leave_no_trace run fun k step turn dropped _ turned => ?_⟩
  match k with
  | 0 =>
    cases turned
    exact Or.inl (by decide)
  | 1 => cases dropped
  | k + 2 => cases turned

end Remit
