import Remit.Proofs.Session.Posting

/-! Outcomes that carry nothing out. Writing back a pending or failed one posts zero to every
account, so no identifier resolves to another balance afterwards. It still levels the further
entries of an identifier that the instruction names: the snapshot as a list is kept only if these
entries had the balance of the first one already. -/

namespace Remit

theorem Outcome.movement_of_idle {o : Outcome} (idle : o.status = .pending ∨ o.status = .failed)
    (id : String) : o.movement id = 0 := by
  unfold movement
  split
  · rename_i successful stated
    simp [successful] at idle
  · rfl

namespace Snapshot

def leveled (accounts : Snapshot) (text : Json) : Snapshot :=
  accounts.map fun a =>
    if NamedBy text a.id then { a with balance := accounts.balanceOf a.id } else a

def Level (accounts : Snapshot) (text : Json) : Prop :=
  ∀ a ∈ accounts, NamedBy text a.id → a.balance = accounts.balanceOf a.id

theorem leveled_eq_self {accounts : Snapshot} {text : Json} :
    accounts.leveled text = accounts ↔ accounts.Level text := by
  have entry : ∀ a : Account,
      (if NamedBy text a.id then { a with balance := accounts.balanceOf a.id } else a) = a ↔
        (NamedBy text a.id → a.balance = accounts.balanceOf a.id) := by
    intro a
    split
    · rename_i named
      constructor
      · intro same _
        exact (congrArg Account.balance same).symm
      · intro level
        rw [← level named]
    · rename_i unnamed
      simp [unnamed]
  have pointwise := List.map_inj_left (l := accounts) (g := id) (f := fun a : Account =>
    if NamedBy text a.id then { a with balance := accounts.balanceOf a.id } else a)
  rw [List.map_id] at pointwise
  rw [leveled, pointwise]
  exact forall₂_congr fun a _ => entry a

theorem level_of_nodup {accounts : Snapshot} (distinct : (accounts.map (·.id)).Nodup)
    (text : Json) : accounts.Level text := by
  intro a member _
  rw [balanceOf_eq (resolve_eq_self distinct member)]

end Snapshot

section Idle

variable {text : Json} {accounts : Snapshot} {today : Date} {p : Processed}

theorem Ended.resolve_settle (ended : Ended text accounts today p) (id : String) :
    Snapshot.resolve (accounts.settle p.outcome.views) id =
      (accounts.resolve id).map fun a =>
        { a with balance := a.balance + p.outcome.movement id } := by
  have ran : (Step.mk text today true).run accounts =
      .ok ⟨p.outcome, accounts.settle p.outcome.views⟩ := Step.run_eq_ok.mpr ⟨p, ended, rfl⟩
  exact Step.run_resolve ran id

theorem Ended.settle_idle (ended : Ended text accounts today p)
    (idle : p.outcome.status = .pending ∨ p.outcome.status = .failed) :
    accounts.settle p.outcome.views = accounts.leveled text := by
  refine List.map_congr_left fun a member => ?_
  rw [ended.settle_entry member, Outcome.movement_of_idle idle, Int.add_zero]

/-- What writing back a pending or failed outcome does to a snapshot. No resolved balance
changes, but as a list the snapshot is kept only if it is level, such as one in which no identifier
is repeated. -/
theorem idle_outcome_levels (processed : process text accounts today = .ok p)
    (idle : p.outcome.status = .pending ∨ p.outcome.status = .failed) :
    (∀ id, Snapshot.resolve (accounts.settle p.outcome.views) id = accounts.resolve id) ∧
    accounts.settle p.outcome.views = accounts.leveled text ∧
    (accounts.settle p.outcome.views = accounts ↔ accounts.Level text) ∧
    ((accounts.map (·.id)).Nodup → accounts.settle p.outcome.views = accounts) := by
  have ended := process_eq_ok.mp processed
  have leveled := ended.settle_idle idle
  have kept : accounts.settle p.outcome.views = accounts ↔ accounts.Level text := by
    rw [leveled, Snapshot.leveled_eq_self]
  refine ⟨fun id => ?_, leveled, kept, fun distinct => kept.mpr ?_⟩
  · rw [ended.resolve_settle, Outcome.movement_of_idle idle]
    simp
  · exact Snapshot.level_of_nodup distinct text

end Idle

def sampleRefusal : Outcome :=
  ⟨.failed, .unsupportedCurrency, some ⟨.debit, 500, "EUR", "A1", "B1", none⟩,
    [⟨"A1", 1000, 1000, "EUR"⟩, ⟨"B1", 0, 0, "EUR"⟩, ⟨"A1", 1000, 1000, "EUR"⟩]⟩

def sampleRefusalRecord : Record :=
  refusedRecord .debit .unsupportedCurrency
    "Unsupported currency EUR. Only NGN, USD, GBP, GHS are supported"

theorem idle_outcome_levels_sample :
    process (.str "DEBIT 500 EUR FROM ACCOUNT A1 FOR CREDIT TO ACCOUNT B1")
      [⟨"A1", 1000, "EUR"⟩, ⟨"B1", 0, "EUR"⟩, ⟨"A1", 1000, "EUR"⟩] ⟨2025, 6, 15, by decide⟩ =
        .ok ⟨sampleRefusal, sampleRefusalRecord⟩ ∧
    Snapshot.settle [⟨"A1", 1000, "EUR"⟩, ⟨"B1", 0, "EUR"⟩, ⟨"A1", 1000, "EUR"⟩]
      sampleRefusal.views = [⟨"A1", 1000, "EUR"⟩, ⟨"B1", 0, "EUR"⟩, ⟨"A1", 1000, "EUR"⟩] := by
  have processed : process (.str "DEBIT 500 EUR FROM ACCOUNT A1 FOR CREDIT TO ACCOUNT B1")
      [⟨"A1", 1000, "EUR"⟩, ⟨"B1", 0, "EUR"⟩, ⟨"A1", 1000, "EUR"⟩] ⟨2025, 6, 15, by decide⟩ =
        .ok ⟨sampleRefusal, sampleRefusalRecord⟩ := by rfl
  obtain ⟨-, -, kept, -⟩ := idle_outcome_levels processed (Or.inr rfl)
  refine ⟨processed, kept.mpr fun a member _ => ?_⟩
  revert a
  decide

/-- A transfer that waits for its date, from an account that is listed again with another
balance. -/
theorem idle_outcome_not_kept :
    ¬ ∀ (text : Json) (accounts : Snapshot) (today : Date) (p : Processed),
      process text accounts today = .ok p →
      p.outcome.status = .pending ∨ p.outcome.status = .failed →
        accounts.settle p.outcome.views = accounts := by
  intro kept
  have same := kept
    (.str "DEBIT 500 USD FROM ACCOUNT A1 FOR CREDIT TO ACCOUNT B1 ON 2030-01-01")
    [⟨"A1", 1000, "USD"⟩, ⟨"B1", 0, "USD"⟩, ⟨"A1", 0, "USD"⟩] ⟨2025, 6, 15, by decide⟩ _ rfl
    (Or.inl rfl)
  revert same
  decide +kernel

end Remit
