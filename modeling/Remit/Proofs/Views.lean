import Mathlib.Data.List.Forall2
import Remit.Proofs.Checks
import Remit.Proofs.Dependence

namespace Remit

def Instruction.delta (i : Instruction Int) (transfer : Bool) (id : String) : Int :=
  if transfer then if id = i.debit then -i.amount else i.amount else 0

structure View.Reports (i : Instruction Int) (accounts : Snapshot) (transfer : Bool)
    (entry : Account) (v : View) : Prop where
  id : v.id = entry.id
  first : ∃ a, IsFirstEntry accounts entry.id a ∧ v.balanceBefore = a.balance ∧
    v.currency = a.currency
  balance : v.balance = v.balanceBefore + i.delta transfer entry.id

namespace Instruction

variable {i : Instruction Int} {accounts entries : Snapshot} {transfer : Bool}

/-- The views of some entries by a scan that ends without any if an account is missing. -/
def scan (i : Instruction Int) (accounts : Snapshot) (transfer : Bool) :
    List Account → Option (List View)
  | [] => some []
  | entry :: rest =>
    if i.Names entry.id then do
      let first ← accounts.resolve entry.id
      let views ← i.scan accounts transfer rest
      return i.viewOf transfer first :: views
    else i.scan accounts transfer rest

theorem scan_eq (listed : ∀ a ∈ entries, a ∈ accounts) :
    i.scan accounts transfer entries = some (entries.filterMap (i.view? accounts transfer)) := by
  induction entries with
  | nil => rfl
  | cons entry rest ih =>
    obtain ⟨member, others⟩ := List.forall_mem_cons.mp listed
    obtain ⟨first, resolved⟩ := Snapshot.resolve_of_mem member
    by_cases named : i.Names entry.id
    · simp [scan, ih others, view?_eq, named, resolved]
    · simp [scan, ih others, view?_eq, named]

theorem reports_viewOf {entry first : Account} (differ : i.debit ≠ i.credit)
    (named : i.Names entry.id) (resolved : accounts.resolve entry.id = some first) :
    View.Reports i accounts transfer entry (i.viewOf transfer first) := by
  have bears := (Snapshot.resolve_some resolved).2
  refine ⟨bears, ⟨first, isFirstEntry_iff.mpr resolved, rfl, rfl⟩, ?_⟩
  have change : (i.change? first.id).getD 0 =
      if entry.id = i.debit then -i.amount else i.amount := by
    rw [bears, change?]
    rcases named with debited | credited
    · rw [if_neg (debited ▸ differ), if_pos debited, if_pos debited]
      rfl
    · rw [if_pos credited, if_neg (credited ▸ differ.symm)]
      rfl
  rw [viewOf, delta, change]

theorem forall₂_reports (differ : i.debit ≠ i.credit) (listed : ∀ a ∈ entries, a ∈ accounts) :
    List.Forall₂ (View.Reports i accounts transfer) (entries.filter fun a => i.Names a.id)
      (entries.filterMap (i.view? accounts transfer)) := by
  induction entries with
  | nil => exact .nil
  | cons entry rest ih =>
    obtain ⟨member, others⟩ := List.forall_mem_cons.mp listed
    obtain ⟨first, resolved⟩ := Snapshot.resolve_of_mem member
    by_cases named : i.Names entry.id
    · rw [List.filter_cons_of_pos (by simpa using named), List.filterMap_cons, view?_eq,
        if_pos named, resolved]
      exact .cons (reports_viewOf differ named resolved) (ih others)
    · rw [List.filter_cons_of_neg (by simpa using named), List.filterMap_cons, view?_eq,
        if_neg named]
      exact ih others

theorem execute_views (i : Instruction Int) (accounts : Snapshot) (today : Date) :
    (i.execute accounts today).views = i.views accounts (!isPending i.executeBy today) := by
  unfold execute
  split
  · rename_i early
    rw [early]
    rfl
  · rename_i due
    rw [Bool.eq_false_iff.mpr due]
    rfl

theorem exists_view {a : Account} {id : String} (named : i.Names id)
    (resolved : accounts.resolve id = some a) : ∃ v ∈ i.views accounts transfer, v.id = id := by
  have bears := (Snapshot.resolve_some resolved).2
  refine ⟨i.viewOf transfer a, mem_views.mpr ⟨?_, a, ?_, rfl⟩, bears⟩
  · rwa [viewOf_id, bears]
  · rwa [viewOf_id, bears]

end Instruction

/-- Every entry that an instruction names is looked up with success and reported in its place, a
refusal reports what a pending outcome reports, and what passes the checks has a view of each
side. -/
theorem views_faithful {i : Instruction Int} (differ : i.debit ≠ i.credit) (accounts : Snapshot) :
    (∀ transfer, i.scan accounts transfer accounts = some (i.views accounts transfer) ∧
      List.Forall₂ (View.Reports i accounts transfer) (accounts.filter fun a => i.Names a.id)
        (i.views accounts transfer)) ∧
    (∀ code today, isPending i.executeBy today = true →
      (Outcome.refused i accounts code).views = (i.execute accounts today).views) ∧
    ∀ today, validate (i.withAmount (.int i.amount)) accounts = .ok () →
      (∃ v ∈ (i.execute accounts today).views, v.id = i.debit) ∧
        ∃ v ∈ (i.execute accounts today).views, v.id = i.credit := by
  refine ⟨fun transfer => ⟨?_, ?_⟩, fun code today early => ?_, fun today valid => ?_⟩
  · exact Instruction.scan_eq fun _ member => member
  · exact Instruction.forall₂_reports differ fun _ member => member
  · rw [Instruction.execute_views, early]
    rfl
  · obtain ⟨debit, credit, authorized⟩ := validate_int_eq_ok.mp valid
    rw [Instruction.execute_views]
    exact ⟨Instruction.exists_view (.inl rfl) authorized.debited,
      Instruction.exists_view (.inr rfl) authorized.credited⟩

def sampleEntries : Snapshot :=
  [⟨"A1", 9, "USD"⟩, ⟨"C1", 1, "USD"⟩, ⟨"B1", 0, "USD"⟩, ⟨"A1", 7, "EUR"⟩]

def sampleOrder : Instruction Int :=
  ⟨.debit, 5, "USD", "A1", "B1", some ⟨2025, 9, 30, by decide⟩⟩

theorem views_faithful_sample :
    List.Forall₂ (View.Reports sampleOrder sampleEntries true)
      [⟨"A1", 9, "USD"⟩, ⟨"B1", 0, "USD"⟩, ⟨"A1", 7, "EUR"⟩]
      [⟨"A1", 4, 9, "USD"⟩, ⟨"B1", 5, 0, "USD"⟩, ⟨"A1", 4, 9, "USD"⟩] ∧
    (Outcome.refused sampleOrder sampleEntries .unsupportedCurrency).views =
      (sampleOrder.execute sampleEntries ⟨2025, 6, 15, by decide⟩).views ∧
    ∃ v ∈ (sampleOrder.execute sampleEntries ⟨2025, 6, 15, by decide⟩).views, v.id = "B1" := by
  have differ : sampleOrder.debit ≠ sampleOrder.credit := by decide
  have valid : validate (sampleOrder.withAmount (.int sampleOrder.amount)) sampleEntries =
      .ok () := by rfl
  obtain ⟨reported, refused, accepted⟩ := views_faithful differ sampleEntries
  exact ⟨(reported true).2, refused .unsupportedCurrency ⟨2025, 6, 15, by decide⟩ (by decide),
    (accepted ⟨2025, 6, 15, by decide⟩ valid).2⟩

end Remit
