import Mathlib.Logic.Function.Basic
import Remit.Proofs.Dependence
import Remit.Proofs.Standstill

/-! Two clients of one snapshot. Each computes its outcome on the snapshot as it stands and writes
it back in a later step, so the write-back of one may fall between the two steps of the other. What
is written are balances and not differences, and yet nothing is lost if the clients name different
accounts: neither looks at, nor writes to, what the other writes. -/

namespace Remit

namespace Ended

variable {text : Json} {s : Snapshot} {today : Date} {p : Processed}

theorem agreeOn_settle {P : String → Prop} [DecidablePred P] (ended : Ended text s today p)
    (apart : ∀ id, P id → ¬ NamedBy text id) : AgreeOn P (s.settle p.outcome.views) s := by
  refine ⟨by rw [Snapshot.settle_ids], fun id holds => ?_⟩
  rw [ended.resolve_settle, ended.movement_eq_zero (apart id holds)]
  simp

end Ended

structure Request where
  text : Json
  today : Date

inductive Client where
  | first | second
  deriving DecidableEq

def Client.other : Client → Client
  | .first => .second
  | .second => .first

inductive Phase where
  | idle
  | holding (o : Outcome)
  | done (o : Outcome)

def Phase.after (o : Outcome) : Nat → Phase
  | 0 => .idle
  | 1 => .holding o
  | _ => .done o

def Phase.write (s : Snapshot) : Phase → Snapshot
  | .done o => s.settle o.views
  | _ => s

structure Desk where
  snapshot : Snapshot
  phase : Client → Phase

namespace Desk

def start (s : Snapshot) : Desk := ⟨s, fun _ => .idle⟩

/-- The next step of a client; after two steps none is left. -/
def move (request : Client → Request) (d : Desk) (c : Client) : Except Text.TooLong Desk :=
  match d.phase c with
  | .idle =>
    match process (request c).text d.snapshot (request c).today with
    | .error e => .error e
    | .ok p => .ok ⟨d.snapshot, Function.update d.phase c (.holding p.outcome)⟩
  | .holding o => .ok ⟨d.snapshot.settle o.views, Function.update d.phase c (.done o)⟩
  | .done _ => .ok d

def run (request : Client → Request) (d : Desk) (schedule : List Client) :
    Except Text.TooLong Desk :=
  schedule.foldlM (move request) d

end Desk

theorem Client.eq_or_other (c e : Client) : e = c ∨ e = c.other := by
  cases c <;> cases e <;> decide

theorem Client.other_ne (c : Client) : c.other ≠ c := by
  cases c <;> decide

@[simp] theorem Client.other_other (c : Client) : c.other.other = c := by
  cases c <;> rfl

structure Independent (request : Client → Request) (s : Snapshot)
    (result : Client → Processed) : Prop where
  ended : ∀ c, Ended (request c).text s (request c).today (result c)
  apart : ∀ c id, NamedBy (request c).text id → ¬ NamedBy (request c.other).text id

/-- The desk after some number of steps of each client. It does not matter which client comes first
in the snapshot. -/
structure Desk.Tracks (s : Snapshot) (result : Client → Processed) (steps : Client → Nat)
    (d : Desk) : Prop where
  phase : ∀ c, d.phase c = .after (result c).outcome (steps c)
  snapshot : ∀ c, d.snapshot = (d.phase c).write ((d.phase c.other).write s)

section Independent

variable {request : Client → Request} {s : Snapshot} {result : Client → Processed} {d : Desk}
  {steps : Client → Nat}

namespace Independent

theorem process_settle (independent : Independent request s result) (c : Client) :
    process (request c).text (s.settle (result c.other).outcome.views) (request c).today =
      .ok (result c) := by
  have agree := (independent.ended c.other).agreeOn_settle (independent.apart c)
  rw [process_congr agree]
  exact process_eq_ok.mpr (independent.ended c)

theorem settle_comm (independent : Independent request s result) (c : Client) :
    (s.settle (result c).outcome.views).settle (result c.other).outcome.views =
      (s.settle (result c.other).outcome.views).settle (result c).outcome.views := by
  refine Snapshot.settle_comm (fun v inside w member same => ?_) s
  have named := (independent.ended c).named_of_view inside
  exact independent.apart c v.id named (same ▸ (independent.ended c.other).named_of_view member)

/-- However far the other client is, the outcome is the one on the snapshot at the start. -/
theorem process_write (independent : Independent request s result) (c : Client) (n : Nat) :
    process (request c).text ((Phase.after (result c.other).outcome n).write s)
      (request c).today = .ok (result c) := by
  match n with
  | 0 | 1 => exact process_eq_ok.mpr (independent.ended c)
  | _ + 2 => exact independent.process_settle c

theorem write_settle (independent : Independent request s result) (c : Client) (n : Nat) :
    ((Phase.after (result c.other).outcome n).write s).settle (result c).outcome.views =
      (Phase.after (result c.other).outcome n).write (s.settle (result c).outcome.views) := by
  match n with
  | 0 | 1 => rfl
  | _ + 2 => exact (independent.settle_comm c).symm

end Independent

namespace Desk

theorem tracks_start (s : Snapshot) (result : Client → Processed) :
    Tracks s result (fun _ => 0) (start s) :=
  ⟨fun _ => rfl, fun _ => rfl⟩

theorem Tracks.update (tracks : Tracks s result steps d) (c : Client) (t : Snapshot) (phase : Phase)
    (next : phase = .after (result c).outcome (steps c + 1))
    (last : t = phase.write ((d.phase c.other).write s))
    (first : t = (d.phase c.other).write (phase.write s)) :
    Tracks s result (fun e => steps e + if c = e then 1 else 0)
      ⟨t, Function.update d.phase c phase⟩ := by
  have stays : Function.update d.phase c phase c.other = d.phase c.other :=
    Function.update_of_ne c.other_ne _ _
  refine ⟨fun e => ?_, fun e => ?_⟩
  · rcases c.eq_or_other e with rfl | rfl
    · simpa using next
    · simpa [stays, c.other_ne.symm] using tracks.phase c.other
  · rcases c.eq_or_other e with rfl | rfl
    · simpa [stays] using last
    · simpa [stays] using first

theorem Tracks.move (independent : Independent request s result) (tracks : Tracks s result steps d)
    (c : Client) : ∃ next, d.move request c = .ok next ∧
      Tracks s result (fun e => steps e + if c = e then 1 else 0) next := by
  have last := tracks.snapshot c
  have first := tracks.snapshot c.other
  have phase := tracks.phase c
  rw [Client.other_other] at first
  match taken : steps c with
  | 0 =>
    rw [taken] at phase
    have computed : process (request c).text d.snapshot (request c).today = .ok (result c) := by
      rw [last, phase, tracks.phase c.other]
      exact independent.process_write c (steps c.other)
    rw [phase] at last first
    refine ⟨_, ?_, tracks.update c d.snapshot (.holding (result c).outcome)
      (by rw [taken]; rfl) last first⟩
    simp only [Desk.move, phase, Phase.after, computed]
  | 1 =>
    rw [taken] at phase
    rw [phase] at last first
    have written : d.snapshot.settle (result c).outcome.views =
        (d.phase c.other).write (s.settle (result c).outcome.views) := by
      rw [last, tracks.phase c.other]
      exact independent.write_settle c (steps c.other)
    refine ⟨_, ?_, tracks.update c (d.snapshot.settle (result c).outcome.views)
      (.done (result c).outcome) (by rw [taken]; rfl) ?_ written⟩
    · simp only [Desk.move, phase, Phase.after]
    · rw [last]
      rfl
  | n + 2 =>
    rw [taken] at phase
    have done : d.phase c = .done (result c).outcome := phase
    have same := tracks.update c d.snapshot (d.phase c) (by rw [done, taken]; rfl) last first
    rw [Function.update_eq_self] at same
    exact ⟨d, by simp only [Desk.move, done], same⟩

theorem Tracks.run (independent : Independent request s result) (tracks : Tracks s result steps d)
    (schedule : List Client) : ∃ last, d.run request schedule = .ok last ∧
      Tracks s result (fun c => steps c + schedule.count c) last := by
  induction schedule generalizing d steps with
  | nil => exact ⟨d, rfl, tracks⟩
  | cons c schedule ih =>
    obtain ⟨next, moved, tracks⟩ := tracks.move independent c
    obtain ⟨last, ran, tracks⟩ := ih tracks
    refine ⟨last, ?_, ?_⟩
    · rw [Desk.run, List.foldlM_cons, moved]
      exact ran
    · have total : ∀ e, steps e + (if c = e then 1 else 0) + schedule.count e =
          steps e + (c :: schedule).count e := by
        intro e
        simp only [List.count_cons, beq_iff_eq]
        omega
      simpa only [total] using tracks

end Desk

end Independent

/-- Requests that name different accounts do not interfere. Each has the same outcome on the
snapshot that the other has written back to, and every order of their steps ends with these outcomes
and in one snapshot, which has what both of them moved. -/
theorem independent_requests_commute {request : Client → Request} {s : Snapshot}
    {result : Client → Processed}
    (processed : ∀ c, process (request c).text s (request c).today = .ok (result c))
    (disjoint : ∀ id, ¬ (NamedBy (request .first).text id ∧ NamedBy (request .second).text id)) :
    (∀ c, process (request c).text (s.settle (result c.other).outcome.views) (request c).today =
      .ok (result c)) ∧
    (s.settle (result .first).outcome.views).settle (result .second).outcome.views =
      (s.settle (result .second).outcome.views).settle (result .first).outcome.views ∧
    (∀ id, Snapshot.resolve
        ((s.settle (result .first).outcome.views).settle (result .second).outcome.views) id =
      (s.resolve id).map fun a => { a with
        balance := a.balance + (result .first).outcome.movement id +
          (result .second).outcome.movement id }) ∧
    ∀ schedule : List Client, (∀ c, 2 ≤ schedule.count c) →
      ∃ last, (Desk.start s).run request schedule = .ok last ∧
        last.snapshot =
          (s.settle (result .first).outcome.views).settle (result .second).outcome.views ∧
        ∀ c, last.phase c = .done (result c).outcome := by
  have independent : Independent request s result := by
    refine ⟨fun c => process_eq_ok.mp (processed c), fun c id named other => ?_⟩
    cases c with
    | first => exact disjoint id ⟨named, other⟩
    | second => exact disjoint id ⟨other, named⟩
  refine ⟨independent.process_settle, independent.settle_comm .first, fun id => ?_,
    fun schedule complete => ?_⟩
  · have later : Ended (request .second).text (s.settle (result .first).outcome.views)
        (request .second).today (result .second) :=
      process_eq_ok.mp (independent.process_settle .second)
    rw [later.resolve_settle, (independent.ended .first).resolve_settle, Option.map_map]
    rfl
  · obtain ⟨last, ran, tracks⟩ := (Desk.tracks_start s result).run independent schedule
    have done : ∀ c, last.phase c = .done (result c).outcome := by
      intro c
      obtain ⟨n, more⟩ := Nat.exists_eq_add_of_le (complete c)
      rw [tracks.phase c, Nat.zero_add, more, Nat.add_comm]
      rfl
    refine ⟨last, ran, ?_, done⟩
    have ends := tracks.snapshot .second
    rw [done, done] at ends
    exact ends

def sampleRequest : Client → Request
  | .first => ⟨.str "DEBIT 30 USD FROM ACCOUNT a FOR CREDIT TO ACCOUNT b", ⟨2024, 7, 2, by decide⟩⟩
  | .second => ⟨.str "CREDIT 1 NGN TO ACCOUNT d FOR DEBIT FROM ACCOUNT c", ⟨2024, 7, 2, by decide⟩⟩

def sampleShared : Snapshot :=
  [⟨"a", 100, "USD"⟩, ⟨"c", 1, "NGN"⟩, ⟨"b", -5, "USD"⟩, ⟨"a", 7, "USD"⟩, ⟨"d", 0, "NGN"⟩,
    ⟨"c", 4, "NGN"⟩]

def sampleResult : Client → Processed
  | .first =>
    let o : Outcome := ⟨.successful, .executed, some ⟨.debit, 30, "USD", "a", "b", none⟩,
      [⟨"a", 70, 100, "USD"⟩, ⟨"b", 25, -5, "USD"⟩, ⟨"a", 70, 100, "USD"⟩]⟩
    ⟨o, executedRecord .debit o⟩
  | .second =>
    let o : Outcome := ⟨.successful, .executed, some ⟨.credit, 1, "NGN", "c", "d", none⟩,
      [⟨"c", 0, 1, "NGN"⟩, ⟨"d", 1, 0, "NGN"⟩, ⟨"c", 0, 1, "NGN"⟩]⟩
    ⟨o, executedRecord .credit o⟩

/-- The second client computes and writes between the two steps of the first. -/
theorem independent_requests_commute_sample :
    (∀ c, process (sampleRequest c).text sampleShared (sampleRequest c).today =
      .ok (sampleResult c)) ∧
    (∀ id, ¬ (NamedBy (sampleRequest .first).text id ∧ NamedBy (sampleRequest .second).text id)) ∧
    ∃ last, (Desk.start sampleShared).run sampleRequest [.first, .second, .second, .first] =
      .ok last ∧ last.snapshot.map (·.balance) = [70, 0, 25, 70, 1, 0] := by
  have processed : ∀ c, process (sampleRequest c).text sampleShared (sampleRequest c).today =
      .ok (sampleResult c) := by
    intro c
    cases c <;> rfl
  have disjoint : ∀ id,
      ¬ (NamedBy (sampleRequest .first).text id ∧ NamedBy (sampleRequest .second).text id) := by
    rintro id ⟨one, other⟩
    have one : id = "a" ∨ id = "b" := one
    have other : id = "c" ∨ id = "d" := other
    rcases one with rfl | rfl <;> revert other <;> decide
  obtain ⟨-, -, -, orders⟩ := independent_requests_commute processed disjoint
  obtain ⟨last, ran, snapshot, -⟩ :=
    orders [.first, .second, .second, .first] (by intro c; cases c <;> decide)
  exact ⟨processed, disjoint, last, ran, by rw [snapshot]; decide +kernel⟩

end Remit
