import Mathlib.Algebra.BigOperators.Group.Finset.Basic
import Mathlib.Algebra.BigOperators.Group.Finset.Piecewise
import Mathlib.Algebra.Ring.Int.Defs
import Remit.Proofs.Session.Ledger

/-! Conservation. What a transfer takes from one resolved account it gives to another of the same
currency, so over the distinct identifiers of a snapshot no currency is created or destroyed. The
sum over all entries is another matter: where an identifier is repeated, levelling its entries
creates or destroys the difference between them. -/

namespace Remit

namespace Snapshot

def idsIn (accounts : Snapshot) (currency : String) : Finset String :=
  {id ∈ (accounts.map (·.id)).toFinset | (accounts.resolve id).map (·.currency) = some currency}

def resolvedTotal (accounts : Snapshot) (currency : String) : Int :=
  ∑ id ∈ accounts.idsIn currency, accounts.balanceOf id

def plainTotal (accounts : Snapshot) (currency : String) : Int :=
  ((accounts.filter (·.currency = currency)).map (·.balance)).sum

theorem mem_idsIn {accounts : Snapshot} {currency id : String} :
    id ∈ accounts.idsIn currency ↔
      ∃ first, accounts.resolve id = some first ∧ first.currency = currency := by
  simp only [idsIn, Finset.mem_filter, List.mem_toFinset, List.mem_map, Option.map_eq_some_iff]
  constructor
  · rintro ⟨-, found⟩
    exact found
  · rintro ⟨first, resolved, held⟩
    exact ⟨⟨first, resolve_some resolved⟩, first, resolved, held⟩

theorem resolvedTotal_eq_plainTotal {accounts : Snapshot}
    (distinct : (accounts.map (·.id)).Nodup) (currency : String) :
    accounts.resolvedTotal currency = accounts.plainTotal currency := by
  have ids : accounts.idsIn currency =
      ((accounts.filter (·.currency = currency)).map (·.id)).toFinset := by
    ext id
    simp only [mem_idsIn, List.mem_toFinset, List.mem_map, List.mem_filter, decide_eq_true_eq]
    constructor
    · rintro ⟨first, resolved, held⟩
      obtain ⟨member, bears⟩ := resolve_some resolved
      exact ⟨first, ⟨member, held⟩, bears⟩
    · rintro ⟨a, ⟨member, held⟩, rfl⟩
      exact ⟨a, resolve_eq_self distinct member, held⟩
  have apart : ((accounts.filter (·.currency = currency)).map (·.id)).Nodup :=
    distinct.sublist (List.filter_sublist.map _)
  rw [resolvedTotal, ids, List.sum_toFinset _ apart, List.map_map, plainTotal]
  apply congrArg List.sum
  apply List.map_congr_left
  intro a member
  exact balanceOf_eq (resolve_eq_self distinct (List.mem_filter.mp member).1)

end Snapshot

/-- Both sides of a transfer are in its currency, or neither is in another one. -/
theorem Ended.sum_movement {text : Json} {accounts : Snapshot} {today : Date} {p : Processed}
    (ended : Ended text accounts today p) (currency : String) :
    ∑ id ∈ accounts.idsIn currency, p.outcome.movement id = 0 := by
  cases ended with
  | unrecognized | refused | scheduled => exact Finset.sum_const_zero
  | @executed i debit credit read authorized due =>
    have debited : i.debit ∈ accounts.idsIn currency ↔ i.currency = currency := by
      simp [Snapshot.mem_idsIn, authorized.debited, authorized.debitCurrency]
    have credited : i.credit ∈ accounts.idsIn currency ↔ i.currency = currency := by
      simp [Snapshot.mem_idsIn, authorized.credited, authorized.creditCurrency]
    simp only [Outcome.movement, Finset.sum_add_distrib, Finset.sum_ite_eq', debited, credited]
    split <;> omega

theorem Step.run_resolvedTotal {step : Step} {accounts : Snapshot} {turn : Turn}
    (ran : step.run accounts = .ok turn) (currency : String) :
    turn.snapshot.resolvedTotal currency = accounts.resolvedTotal currency := by
  have ids : turn.snapshot.idsIn currency = accounts.idsIn currency := by
    ext id
    simp [Snapshot.mem_idsIn, Step.run_resolve ran]
  have moved : ∀ id ∈ accounts.idsIn currency,
      turn.snapshot.balanceOf id = accounts.balanceOf id + step.posted turn id := by
    intro id member
    obtain ⟨first, resolved, -⟩ := Snapshot.mem_idsIn.mp member
    obtain ⟨inside, rfl⟩ := Snapshot.resolve_some resolved
    exact Step.run_balanceOf ran inside
  have level : ∑ id ∈ accounts.idsIn currency, step.posted turn id = 0 := by
    obtain ⟨p, ended, rfl⟩ := Step.run_eq_ok.mp ran
    unfold Step.posted
    split
    · exact ended.sum_movement currency
    · exact Finset.sum_const_zero
  rw [Snapshot.resolvedTotal, ids, Finset.sum_congr rfl moved, Finset.sum_add_distrib, level,
    add_zero, Snapshot.resolvedTotal]

/-- Every snapshot of a session holds as much of a currency as the first, counted over distinct
identifiers. Where no identifier is repeated, that is the sum over the entries. -/
theorem session_conserves {accounts : Snapshot} {steps : List Step} {turns : List Turn}
    (run : session accounts steps = .ok turns) (currency : String) :
    ∀ s ∈ reached accounts turns, s.resolvedTotal currency = accounts.resolvedTotal currency ∧
      ((s.map (·.id)).Nodup → s.resolvedTotal currency = s.plainTotal currency) := by
  intro s member
  refine ⟨?_, fun distinct => Snapshot.resolvedTotal_eq_plainTotal distinct currency⟩
  have keeps : ∀ {s : Snapshot} {step : Step} {turn : Turn}, step.run s = .ok turn →
      s.resolvedTotal currency = accounts.resolvedTotal currency →
      turn.snapshot.resolvedTotal currency = accounts.resolvedTotal currency :=
    fun ran same => (Step.run_resolvedTotal ran currency).trans same
  exact (session_eq_ok.mp run).reached_of_step keeps rfl s member

theorem session_conserves_sample :
    session sampleAccounts sampleSteps = .ok sampleTurns ∧
    ∀ s ∈ reached sampleAccounts sampleTurns, s.resolvedTotal "USD" = 95 := by
  refine ⟨sample_session, ?_⟩
  intro s member
  rw [((session_conserves sample_session "USD") s member).1]
  decide +kernel

end Remit
