import Mathlib.Data.List.Nodup
import Remit.Outcome

namespace Remit

theorem Snapshot.resolve_some {accounts : Snapshot} {id : String} {first : Account}
    (resolved : accounts.resolve id = some first) : first ∈ accounts ∧ first.id = id :=
  ⟨List.mem_of_find?_eq_some resolved, by simpa using List.find?_some resolved⟩

theorem Snapshot.ids_differ_iff {accounts : Snapshot} {id other : String} {one two : Account}
    (resolved : accounts.resolve id = some one) (found : accounts.resolve other = some two) :
    one.id ≠ two.id ↔ id ≠ other := by
  rw [(resolve_some resolved).2, (resolve_some found).2]

theorem Snapshot.resolve_of_mem {accounts : Snapshot} {a : Account} (member : a ∈ accounts) :
    ∃ first, accounts.resolve a.id = some first := by
  have found : (accounts.resolve a.id).isSome := by
    rw [resolve, List.find?_isSome]
    exact ⟨a, member, beq_self_eq_true _⟩
  exact Option.isSome_iff_exists.mp found

theorem Snapshot.resolve_eq_self {accounts : Snapshot} (distinct : (accounts.map (·.id)).Nodup)
    {a : Account} (member : a ∈ accounts) : accounts.resolve a.id = some a := by
  obtain ⟨first, resolved⟩ := resolve_of_mem member
  obtain ⟨inside, bears⟩ := resolve_some resolved
  rw [resolved, List.inj_on_of_nodup_map distinct inside member bears]

theorem Snapshot.resolve_map {f : Account → Account} (keeps : ∀ a, (f a).id = a.id)
    (accounts : Snapshot) (id : String) :
    Snapshot.resolve (accounts.map f) id = (accounts.resolve id).map f := by
  have same : (fun a : Account => a.id == id) ∘ f = (·.id == id) := by
    funext a
    exact congrArg (· == id) (keeps a)
  simp only [resolve, List.find?_map, same]

/-- The balance that an identifier resolves to, or zero if no entry bears it. -/
def Snapshot.balanceOf (accounts : Snapshot) (id : String) : Int :=
  ((accounts.resolve id).map (·.balance)).getD 0

theorem Snapshot.balanceOf_eq {accounts : Snapshot} {id : String} {first : Account}
    (resolved : accounts.resolve id = some first) : accounts.balanceOf id = first.balance := by
  rw [balanceOf, resolved]
  rfl

theorem lastView?_eq_none {views : List View} {id : String} :
    lastView? views id = none ↔ ∀ v ∈ views, v.id ≠ id := by
  simp [lastView?]

theorem lastView?_eq_some {views : List View} {v : View} (member : v ∈ views)
    (same : ∀ w ∈ views, w.id = v.id → w = v) : lastView? views v.id = some v := by
  -- where the views of an identifier agree it does not matter which of them is the last
  cases found : lastView? views v.id with
  | none => exact absurd rfl (lastView?_eq_none.mp found v member)
  | some w =>
    have inside : w ∈ views := List.mem_reverse.mp (List.mem_of_find?_eq_some found)
    have named : w.id = v.id := by simpa using List.find?_some found
    rw [same w inside named]

section Settle

variable {views others : List View}

@[simp] theorem Account.settle_id (a : Account) (views : List View) :
    (a.settle views).id = a.id := by
  unfold settle
  split <;> rfl

theorem Account.settle_eq_self {a : Account} (unseen : ∀ v ∈ views, v.id ≠ a.id) :
    a.settle views = a := by
  rw [settle, lastView?_eq_none.mpr unseen]

theorem Account.settle_comm (apart : ∀ v ∈ views, ∀ w ∈ others, v.id ≠ w.id) (a : Account) :
    (a.settle views).settle others = (a.settle others).settle views := by
  -- an entry is written to from one side at most
  by_cases seen : ∃ v ∈ views, v.id = a.id
  · obtain ⟨v, inside, same⟩ := seen
    have unseen : ∀ w ∈ others, w.id ≠ a.id := fun w member bears =>
      apart v inside w member (same.trans bears.symm)
    have later : ∀ w ∈ others, w.id ≠ (a.settle views).id := by simpa using unseen
    rw [settle_eq_self unseen, settle_eq_self later]
  · have unseen : ∀ v ∈ views, v.id ≠ a.id := fun v inside same => seen ⟨v, inside, same⟩
    have later : ∀ v ∈ views, v.id ≠ (a.settle others).id := by simpa using unseen
    rw [settle_eq_self unseen, settle_eq_self later]

theorem Snapshot.settle_comm (apart : ∀ v ∈ views, ∀ w ∈ others, v.id ≠ w.id) (s : Snapshot) :
    (s.settle views).settle others = (s.settle others).settle views := by
  simp only [settle, List.map_map]
  exact List.map_congr_left fun a _ => Account.settle_comm apart a

theorem Snapshot.settle_ids (s : Snapshot) (views : List View) :
    (s.settle views).map (·.id) = s.map (·.id) := by
  simp [settle, Function.comp_def]

end Settle

namespace Instruction

def Names (i : Instruction Int) (id : String) : Prop := id = i.debit ∨ id = i.credit

instance (i : Instruction Int) (id : String) : Decidable (i.Names id) :=
  inferInstanceAs (Decidable (_ ∨ _))

theorem names_iff {i : Instruction Int} {id : String} :
    i.Names id ↔ ∃ change, i.change? id = some change := by
  unfold change? Names
  split
  · simp_all
  · split <;> simp_all

def viewOf (i : Instruction Int) (transfer : Bool) (first : Account) : View :=
  ⟨first.id, first.balance + (if transfer then (i.change? first.id).getD 0 else 0), first.balance,
    first.currency⟩

@[simp] theorem viewOf_id (i : Instruction Int) (transfer : Bool) (first : Account) :
    (i.viewOf transfer first).id = first.id := rfl

theorem view?_eq_some {i : Instruction Int} {accounts : Snapshot} {transfer : Bool} {a : Account}
    {v : View} : i.view? accounts transfer a = some v ↔
      i.Names a.id ∧ ∃ first, accounts.resolve a.id = some first ∧ v = i.viewOf transfer first := by
  unfold view?
  cases changed : i.change? a.id with
  | none =>
    have unnamed : ¬ i.Names a.id := by simp [names_iff, changed]
    simp [unnamed]
  | some change =>
    have named : i.Names a.id := names_iff.mpr ⟨change, changed⟩
    cases resolved : accounts.resolve a.id with
    | none => simp
    | some first =>
      have bears : first.id = a.id := (Snapshot.resolve_some resolved).2
      have view : i.viewOf transfer first = ⟨first.id,
          if transfer then first.balance + change else first.balance, first.balance,
          first.currency⟩ := by
        rw [viewOf, bears, changed]
        cases transfer <;> simp
      simp [named, view, eq_comm]

theorem mem_views {i : Instruction Int} {accounts : Snapshot} {transfer : Bool} {v : View} :
    v ∈ i.views accounts transfer ↔
      i.Names v.id ∧ ∃ first, accounts.resolve v.id = some first ∧ v = i.viewOf transfer first := by
  simp only [views, List.mem_filterMap, view?_eq_some]
  constructor
  · rintro ⟨a, -, named, first, resolved, rfl⟩
    have bears : first.id = a.id := (Snapshot.resolve_some resolved).2
    rw [viewOf_id, bears]
    exact ⟨named, first, resolved, rfl⟩
  · rintro ⟨named, first, resolved, viewed⟩
    obtain ⟨member, bears⟩ := Snapshot.resolve_some resolved
    rw [← bears] at named resolved
    exact ⟨first, member, named, first, resolved, viewed⟩

theorem lastView?_views {i : Instruction Int} (transfer : Bool) {accounts : Snapshot}
    {first : Account} (resolved : accounts.resolve first.id = some first)
    (named : i.Names first.id) :
    lastView? (i.views accounts transfer) first.id = some (i.viewOf transfer first) := by
  refine lastView?_eq_some (mem_views.mpr ⟨named, first, resolved, rfl⟩) ?_
  intro w inside same
  obtain ⟨-, other, found, viewed⟩ := mem_views.mp inside
  rw [same, viewOf_id, resolved] at found
  cases found
  exact viewed

theorem lastView?_views_of_unnamed {i : Instruction Int} (transfer : Bool) {accounts : Snapshot}
    {id : String} (unnamed : ¬ i.Names id) : lastView? (i.views accounts transfer) id = none := by
  rw [lastView?_eq_none]
  intro v inside same
  exact unnamed (same ▸ (mem_views.mp inside).1)

/-- The views of an instruction write the resolved balance to every entry that it names. -/
theorem settle_views (i : Instruction Int) (transfer : Bool) {accounts : Snapshot} {a : Account}
    (member : a ∈ accounts) : a.settle (i.views accounts transfer) =
      if i.Names a.id then
        { a with balance := accounts.balanceOf a.id +
            if transfer then (i.change? a.id).getD 0 else 0 }
      else a := by
  obtain ⟨first, resolved⟩ := Snapshot.resolve_of_mem member
  have bears : first.id = a.id := (Snapshot.resolve_some resolved).2
  by_cases named : i.Names a.id
  · rw [if_pos named, Snapshot.balanceOf_eq resolved, Account.settle]
    rw [← bears] at resolved named ⊢
    rw [lastView?_views transfer resolved named]
    rfl
  · rw [if_neg named, Account.settle, lastView?_views_of_unnamed transfer named]

end Instruction

end Remit
