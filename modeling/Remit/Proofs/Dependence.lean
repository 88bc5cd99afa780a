import Mathlib.Data.List.Basic
import Remit.Proofs.Ending

namespace Remit

/-- Two snapshots have the same entries of some identifiers, as far as an outcome can tell: these
identifiers stand in the same order and resolve to the same accounts. -/
structure AgreeOn (P : String → Prop) [DecidablePred P] (s t : Snapshot) : Prop where
  order : (s.map (·.id)).filter P = (t.map (·.id)).filter P
  resolved : ∀ id, P id → s.resolve id = t.resolve id

namespace AgreeOn

variable {P Q : String → Prop} [DecidablePred P] [DecidablePred Q] {s t u : Snapshot}

theorem refl (s : Snapshot) : AgreeOn P s s := ⟨rfl, fun _ _ => rfl⟩

theorem symm (agree : AgreeOn P s t) : AgreeOn P t s :=
  ⟨agree.order.symm, fun id holds => (agree.resolved id holds).symm⟩

theorem trans (one : AgreeOn P s t) (other : AgreeOn P t u) : AgreeOn P s u :=
  ⟨one.order.trans other.order,
    fun id holds => (one.resolved id holds).trans (other.resolved id holds)⟩

theorem mono (agree : AgreeOn P s t) (fewer : ∀ id, Q id → P id) : AgreeOn Q s t := by
  have both : ∀ ids : List String, ids.filter Q = (ids.filter P).filter Q := by
    intro ids
    rw [List.filter_filter]
    refine List.filter_congr fun id _ => ?_
    by_cases holds : Q id
    · simp [holds, fewer id holds]
    · simp [holds]
  refine ⟨?_, fun id holds => agree.resolved id (fewer id holds)⟩
  rw [both, agree.order, ← both]

end AgreeOn

theorem validate_congr {i : Instruction Json} {s t : Snapshot}
    (debit : s.resolve i.debit = t.resolve i.debit)
    (credit : s.resolve i.credit = t.resolve i.credit) : validate i s = validate i t := by
  simp only [validate, debit, credit]

namespace Instruction

variable {i : Instruction Int} {s t : Snapshot}

theorem view?_eq (i : Instruction Int) (accounts : Snapshot) (transfer : Bool) (a : Account) :
    i.view? accounts transfer a =
      if i.Names a.id then (accounts.resolve a.id).map (i.viewOf transfer) else none := by
  ext v
  rw [view?_eq_some]
  split
  · rename_i named
    simp [named, Option.map_eq_some_iff, eq_comm (a := v)]
  · rename_i unnamed
    simp [unnamed]

theorem views_eq (i : Instruction Int) (accounts : Snapshot) (transfer : Bool) :
    i.views accounts transfer = ((accounts.map (·.id)).filter i.Names).filterMap fun id =>
      (accounts.resolve id).map (i.viewOf transfer) := by
  rw [List.filterMap_filter, List.filterMap_map]
  refine List.filterMap_congr fun a _ => ?_
  simp [view?_eq]

theorem views_ids (i : Instruction Int) (accounts : Snapshot) (transfer : Bool) :
    (i.views accounts transfer).map (·.id) = (accounts.map (·.id)).filter i.Names := by
  rw [views_eq, List.map_filterMap]
  have kept : ∀ id ∈ (accounts.map (·.id)).filter i.Names,
      ((accounts.resolve id).map (i.viewOf transfer)).map (·.id) = some id := by
    intro id member
    obtain ⟨a, inside, rfl⟩ := List.mem_map.mp (List.mem_filter.mp member).1
    obtain ⟨first, resolved⟩ := Snapshot.resolve_of_mem inside
    simp [resolved, (Snapshot.resolve_some resolved).2]
  rw [List.filterMap_congr kept, List.filterMap_some]

theorem views_congr (agree : AgreeOn i.Names s t) (transfer : Bool) :
    i.views s transfer = i.views t transfer := by
  rw [views_eq, views_eq, agree.order]
  refine List.filterMap_congr fun id member => ?_
  have named : i.Names id := by simpa using (List.mem_filter.mp member).2
  rw [agree.resolved id named]

theorem process_congr (agree : AgreeOn i.Names s t) (today : Date) :
    i.process s today = i.process t today := by
  have debit : s.resolve i.debit = t.resolve i.debit := agree.resolved _ (Or.inl rfl)
  have credit : s.resolve i.credit = t.resolve i.credit := agree.resolved _ (Or.inr rfl)
  have checked : validate (i.withAmount (.int i.amount)) s =
      validate (i.withAmount (.int i.amount)) t := validate_congr debit credit
  simp only [process, execute, Outcome.refused, checked, views_congr agree]

end Instruction

theorem process_congr {text : Json} {s t : Snapshot} (agree : AgreeOn (NamedBy text) s t)
    (today : Date) : process text s today = process text t today := by
  unfold process
  split
  · rfl
  · rename_i i read
    have named : ∀ id, i.Names id → NamedBy text id := by
      intro id names
      simpa only [NamedBy, read] using names
    exact Instruction.process_congr (agree.mono named) today

end Remit
