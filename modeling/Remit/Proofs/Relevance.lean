import Remit.Proofs.Dependence

namespace Remit

theorem agreeOn_filter {P : String → Prop} [DecidablePred P] (s : Snapshot) :
    AgreeOn P (s.filter fun a => P a.id) s := by
  constructor
  case order =>
    rw [List.filter_map, List.filter_map, List.filter_filter]
    simp [Function.comp_def]
  case resolved =>
    intro id holds
    rw [Snapshot.resolve, Snapshot.resolve, List.find?_filter]
    refine congrArg (fun p => List.find? p s) (funext fun a => ?_)
    by_cases bears : a.id = id
    · simp [bears, holds]
    · simp [bears]

theorem Snapshot.resolve_perm {s t : Snapshot} (perm : t.Perm s)
    (distinct : (s.map (·.id)).Nodup) (id : String) : t.resolve id = s.resolve id := by
  have unique : (t.map (·.id)).Nodup := (perm.map (·.id)).nodup_iff.mpr distinct
  cases resolved : s.resolve id with
  | none =>
    rw [resolve, List.find?_eq_none] at resolved ⊢
    exact fun a member => resolved a (perm.mem_iff.mp member)
  | some a =>
    obtain ⟨member, rfl⟩ := resolve_some resolved
    exact resolve_eq_self unique (perm.mem_iff.mpr member)

section Reorder

variable {i : Instruction Int} {s t : Snapshot} {transfer : Bool}

theorem Instruction.views_perm (perm : t.Perm s) (distinct : (s.map (·.id)).Nodup) :
    (i.views t transfer).Perm (i.views s transfer) := by
  have same : i.view? t transfer = i.view? s transfer := by
    funext a
    rw [view?_eq, view?_eq, Snapshot.resolve_perm perm distinct]
  rw [views, views, same]
  exact perm.filterMap _

/-- Each entry has the view that bears its identifier. -/
theorem Instruction.views_eq_lastView? (perm : t.Perm s) (distinct : (s.map (·.id)).Nodup) :
    i.views t transfer = t.filterMap fun a => lastView? (i.views s transfer) a.id := by
  refine List.filterMap_congr fun a member => ?_
  have resolved := Snapshot.resolve_eq_self distinct (perm.mem_iff.mp member)
  rw [view?_eq, Snapshot.resolve_perm perm distinct, resolved]
  split
  · rename_i named
    rw [lastView?_views transfer resolved named]
    rfl
  · rename_i unnamed
    exact (lastView?_views_of_unnamed transfer unnamed).symm

end Reorder

/-- What was processed on a snapshot and on its entries in the order of `t`: only the order of the
views differs, and it is that of the entries. -/
structure Reordered (t : Snapshot) (p q : Processed) : Prop where
  status : q.outcome.status = p.outcome.status
  code : q.outcome.code = p.outcome.code
  reason : q.outcome.reason = p.outcome.reason
  instruction : q.outcome.instruction = p.outcome.instruction
  record : q.record = p.record
  rearranged : q.outcome.views.Perm p.outcome.views
  views : q.outcome.views = t.filterMap fun a => lastView? p.outcome.views a.id

section Process

variable {text : Json} {s t : Snapshot} {today : Date} {p : Processed}

theorem Instruction.Authorized.reorder {i : Instruction Int} {debit credit : Account}
    (authorized : i.Authorized s debit credit) (perm : t.Perm s)
    (distinct : (s.map (·.id)).Nodup) : i.Authorized t debit credit :=
  { authorized with
    debited := (Snapshot.resolve_perm perm distinct i.debit).trans authorized.debited
    credited := (Snapshot.resolve_perm perm distinct i.credit).trans authorized.credited }

theorem Ended.reorder (ended : Ended text s today p) (perm : t.Perm s)
    (distinct : (s.map (·.id)).Nodup) : ∃ q, Ended text t today q ∧ Reordered t p q := by
  have views : ∀ (i : Instruction Int) (transfer : Bool), (i.views t transfer).Perm
      (i.views s transfer) := fun i transfer => Instruction.views_perm perm distinct
  have follow : ∀ (i : Instruction Int) (transfer : Bool), i.views t transfer =
      t.filterMap fun a => lastView? (i.views s transfer) a.id := fun i transfer =>
    Instruction.views_eq_lastView? perm distinct
  -- an ending asks for the accounts that two identifiers resolve to, so it is reached again
  cases ended with
  | unrecognized read =>
    have none : [] = t.filterMap fun a => lastView? [] a.id := by simp [lastView?]
    exact ⟨_, .unrecognized read, rfl, rfl, rfl, rfl, rfl, .rfl, none⟩
  | @refused i refusal reason read invalid written =>
    have checked := validate_congr (i := i.withAmount (.int i.amount))
      (Snapshot.resolve_perm perm distinct i.debit) (Snapshot.resolve_perm perm distinct i.credit)
    exact ⟨_, .refused read (checked.trans invalid) written, rfl, rfl, rfl, rfl, rfl,
      views i false, follow i false⟩
  | @scheduled i _ _ read authorized early =>
    exact ⟨_, .scheduled read (authorized.reorder perm distinct) early, rfl, rfl, rfl, rfl, rfl,
      views i false, follow i false⟩
  | @executed i _ _ read authorized due =>
    exact ⟨_, .executed read (authorized.reorder perm distinct) due, rfl, rfl, rfl, rfl, rfl,
      views i true, follow i true⟩

theorem process_eq_error_of_perm {e : Text.TooLong} (perm : t.Perm s)
    (distinct : (s.map (·.id)).Nodup) (failed : process text s today = .error e) :
    process text t today = .error e := by
  have unique : (t.map (·.id)).Nodup := (perm.map (·.id)).nodup_iff.mpr distinct
  cases processed : process text t today with
  | ok q =>
    obtain ⟨p, ended, -⟩ := (process_eq_ok.mp processed).reorder perm.symm unique
    cases (process_eq_ok.mpr ended).symm.trans failed
  | error f => cases f; cases e; rfl

/-- The entries that the instruction does not name make no difference, neither to the outcome and
the record nor to whether there are any. If no identifier is repeated, the order of the entries
makes none either but to that of the views. -/
theorem outcome_from_named_entries {i : Instruction Int}
    (read : Instruction.ofValue text = .ok i) (s : Snapshot) (today : Date) :
    process text (s.filter fun a => i.Names a.id) today = process text s today ∧
    ((s.map (·.id)).Nodup → ∀ t : Snapshot, t.Perm s →
      (∀ e, process text t today = .error e ↔ process text s today = .error e) ∧
      ∀ p, process text s today = .ok p →
        ∃ q, process text t today = .ok q ∧ Reordered t p q) := by
  constructor
  · simp only [process, read]
    exact Instruction.process_congr (agreeOn_filter s) today
  · intro distinct t perm
    have unique : (t.map (·.id)).Nodup := (perm.map (·.id)).nodup_iff.mpr distinct
    refine ⟨fun e => ⟨?_, ?_⟩, fun p processed => ?_⟩
    · exact process_eq_error_of_perm perm.symm unique
    · exact process_eq_error_of_perm perm distinct
    · obtain ⟨q, ended, reordered⟩ := (process_eq_ok.mp processed).reorder perm distinct
      exact ⟨q, process_eq_ok.mpr ended, reordered⟩

end Process

def sampleMoved : Outcome :=
  ⟨.successful, .executed, some ⟨.debit, 5, "USD", "A1", "B1", none⟩,
    [⟨"B1", 5, 0, "USD"⟩, ⟨"A1", 4, 9, "USD"⟩]⟩

/-- An account that the instruction does not name stands between the two that it names. -/
theorem outcome_from_named_entries_sample :
    process (.str "DEBIT 5 USD FROM ACCOUNT A1 FOR CREDIT TO ACCOUNT B1")
      [⟨"B1", 0, "USD"⟩, ⟨"C9", 1, "NGN"⟩, ⟨"A1", 9, "USD"⟩] ⟨2025, 6, 15, by decide⟩ =
        .ok ⟨sampleMoved, executedRecord .debit sampleMoved⟩ ∧
    ∃ q, process (.str "DEBIT 5 USD FROM ACCOUNT A1 FOR CREDIT TO ACCOUNT B1")
        [⟨"A1", 9, "USD"⟩, ⟨"C9", 1, "NGN"⟩, ⟨"B1", 0, "USD"⟩] ⟨2025, 6, 15, by decide⟩ = .ok q ∧
      q.outcome.views = [⟨"A1", 4, 9, "USD"⟩, ⟨"B1", 5, 0, "USD"⟩] := by
  have read : Instruction.ofValue (.str "DEBIT 5 USD FROM ACCOUNT A1 FOR CREDIT TO ACCOUNT B1") =
      .ok ⟨.debit, 5, "USD", "A1", "B1", none⟩ := by rfl
  have few : process (.str "DEBIT 5 USD FROM ACCOUNT A1 FOR CREDIT TO ACCOUNT B1")
      [⟨"B1", 0, "USD"⟩, ⟨"A1", 9, "USD"⟩] ⟨2025, 6, 15, by decide⟩ =
        .ok ⟨sampleMoved, executedRecord .debit sampleMoved⟩ := by rfl
  obtain ⟨left, orders⟩ := outcome_from_named_entries read
    [⟨"B1", 0, "USD"⟩, ⟨"C9", 1, "NGN"⟩, ⟨"A1", 9, "USD"⟩] ⟨2025, 6, 15, by decide⟩
  have processed := left.symm.trans few
  obtain ⟨-, found⟩ := orders (by decide)
    [⟨"A1", 9, "USD"⟩, ⟨"C9", 1, "NGN"⟩, ⟨"B1", 0, "USD"⟩] (by decide)
  obtain ⟨q, again, reordered⟩ := found _ processed
  exact ⟨processed, q, again, reordered.views.trans (by decide)⟩

end Remit
