import Mathlib.Data.List.Forall2
import Remit.Proofs.Settlement

namespace Remit

inductive WrittenBack (views : List View) (a : Account) : Account → Prop where
  | kept (unnamed : ∀ v ∈ views, v.id ≠ a.id) : WrittenBack views a a
  | posted {earlier later : List View} {v : View} (divided : views = earlier ++ v :: later)
      (names : v.id = a.id) (last : ∀ w ∈ later, w.id ≠ a.id) :
      WrittenBack views a { a with balance := v.balance }

namespace Account

variable {a b : Account} {v : View} {views : List View}

def post (a : Account) (v : View) : Account :=
  if v.id = a.id then { a with balance := v.balance } else a

theorem post_of_names (names : v.id = a.id) : a.post v = { a with balance := v.balance } :=
  if_pos names

theorem post_of_ne (differ : v.id ≠ a.id) : a.post v = a := if_neg differ

@[simp] theorem post_id (a : Account) (v : View) : (a.post v).id = a.id := by
  unfold post
  split <;> rfl

@[simp] theorem post_currency (a : Account) (v : View) : (a.post v).currency = a.currency := by
  unfold post
  split <;> rfl

@[simp] theorem settle_currency (a : Account) (views : List View) :
    (a.settle views).currency = a.currency := by
  unfold settle
  split <;> rfl

/-- Looking for the last view of an entry is writing all views to it, one after another. -/
theorem settle_cons (a : Account) (v : View) (views : List View) :
    a.settle (v :: views) = (a.post v).settle views := by
  simp only [settle, lastView?, post_id, post_currency, List.reverse_cons, List.find?_append]
  cases views.reverse.find? (·.id == a.id) with
  | none =>
    by_cases names : v.id = a.id
    · simp [names, post_of_names]
    · simp [names, post_of_ne]
  | some w => rfl

theorem settle_append (a : Account) (views later : List View) :
    a.settle (views ++ later) = (a.settle views).settle later := by
  induction views generalizing a with
  | nil => simp [settle_eq_self]
  | cons v views ih => simp only [List.cons_append, settle_cons, ih]

theorem writtenBack_cons (rest : WrittenBack views (a.post v) b) :
    WrittenBack (v :: views) a b := by
  cases rest with
  | kept unnamed =>
    by_cases names : v.id = a.id
    · have divided : v :: views = [] ++ v :: views := rfl
      rw [post_of_names names]
      exact .posted divided names (by simpa using unnamed)
    · rw [post_of_ne names] at unnamed ⊢
      exact .kept (List.forall_mem_cons.mpr ⟨names, unnamed⟩)
  | @posted earlier later w divided bears last =>
    have longer : v :: views = (v :: earlier) ++ w :: later := by rw [divided, List.cons_append]
    rw [post_id, post_currency]
    exact .posted longer (by simpa using bears) (by simpa using last)

theorem writtenBack_settle (a : Account) (views : List View) :
    WrittenBack views a (a.settle views) := by
  induction views generalizing a with
  | nil =>
    have unnamed : ∀ v ∈ ([] : List View), v.id ≠ a.id := List.forall_mem_nil _
    rw [settle_eq_self unnamed]
    exact .kept unnamed
  | cons v views ih =>
    rw [settle_cons]
    exact writtenBack_cons (ih (a.post v))

/-- The relation leaves no choice of the entry after the write-back. -/
theorem writtenBack_iff : WrittenBack views a b ↔ a.settle views = b := by
  constructor
  · intro written
    cases written with
    | kept unnamed => exact settle_eq_self unnamed
    | posted divided names last =>
      rw [divided, settle_append, settle_cons, settle_eq_self (by simpa using last),
        post_of_names (by simpa using names), settle_id, settle_currency]
  · rintro rfl
    exact writtenBack_settle a views

theorem settle_settle (a : Account) (views : List View) :
    (a.settle views).settle views = a.settle views := by
  have written := writtenBack_settle a views
  generalize a.settle views = b at written
  cases written with
  | kept unnamed => exact settle_eq_self unnamed
  | posted divided names last => exact writtenBack_iff.mp (.posted divided names last)

end Account

namespace Snapshot

variable {views : List View}

theorem forall₂_writtenBack {s t : Snapshot} :
    List.Forall₂ (WrittenBack views) s t ↔ t = s.settle views := by
  induction s generalizing t with
  | nil => simp [settle]
  | cons a s ih =>
    cases t with
    | nil => simp [settle]
    | cons b t =>
      rw [List.forall₂_cons, ih, Account.writtenBack_iff]
      simp [settle, eq_comm]

theorem settle_settle (s : Snapshot) (views : List View) :
    (s.settle views).settle views = s.settle views := by
  simp only [settle, List.map_map]
  exact List.map_congr_left fun a _ => a.settle_settle views

theorem settle_labels (s : Snapshot) (views : List View) :
    ((s.settle views).map fun a => (a.id, a.currency)) = s.map fun a => (a.id, a.currency) := by
  simp [settle, Function.comp_def]

end Snapshot

/-- Writing any views back keeps the entries in their places with their identifiers and currencies,
keeps every entry that no view names as it is and gives every other one the balance of the last
view that does. A second time changes nothing, and outcomes without a common identifier can be
written back in either order. -/
theorem write_back_absorbs_itself (accounts : Snapshot) (o : Outcome) :
    ((accounts.settle o.views).map fun a => (a.id, a.currency)) =
      (accounts.map fun a => (a.id, a.currency)) ∧
    (∀ t, List.Forall₂ (WrittenBack o.views) accounts t ↔ t = accounts.settle o.views) ∧
    (accounts.settle o.views).settle o.views = accounts.settle o.views ∧
    ∀ other : Outcome, (∀ v ∈ o.views, ∀ w ∈ other.views, v.id ≠ w.id) →
      (accounts.settle o.views).settle other.views =
        (accounts.settle other.views).settle o.views :=
  ⟨accounts.settle_labels o.views, fun _ => Snapshot.forall₂_writtenBack,
    accounts.settle_settle o.views, fun _ apart => Snapshot.settle_comm apart accounts⟩

def sampleWritten : Outcome :=
  ⟨.failed, .invalidDate, none, [⟨"A1", 10, 0, "EUR"⟩, ⟨"C9", 5, 5, "USD"⟩, ⟨"A1", 20, -3, "USD"⟩]⟩

theorem write_back_absorbs_itself_sample :
    Snapshot.settle [⟨"A1", 1, "USD"⟩, ⟨"B1", 2, "USD"⟩, ⟨"A1", 3, "NGN"⟩] sampleWritten.views =
      [⟨"A1", 20, "USD"⟩, ⟨"B1", 2, "USD"⟩, ⟨"A1", 20, "NGN"⟩] ∧
    Snapshot.settle [⟨"A1", 20, "USD"⟩, ⟨"B1", 2, "USD"⟩, ⟨"A1", 20, "NGN"⟩]
      sampleWritten.views = [⟨"A1", 20, "USD"⟩, ⟨"B1", 2, "USD"⟩, ⟨"A1", 20, "NGN"⟩] ∧
    Snapshot.settle [⟨"A1", 20, "USD"⟩, ⟨"B1", 2, "USD"⟩, ⟨"A1", 20, "NGN"⟩]
        [⟨"B1", 7, 2, "USD"⟩] =
      Snapshot.settle [⟨"A1", 1, "USD"⟩, ⟨"B1", 7, "USD"⟩, ⟨"A1", 3, "NGN"⟩]
        sampleWritten.views := by
  have after : Snapshot.settle [⟨"A1", 1, "USD"⟩, ⟨"B1", 2, "USD"⟩, ⟨"A1", 3, "NGN"⟩]
      sampleWritten.views = [⟨"A1", 20, "USD"⟩, ⟨"B1", 2, "USD"⟩, ⟨"A1", 20, "NGN"⟩] := by decide
  obtain ⟨-, -, again, either⟩ := write_back_absorbs_itself
    [⟨"A1", 1, "USD"⟩, ⟨"B1", 2, "USD"⟩, ⟨"A1", 3, "NGN"⟩] sampleWritten
  have swapped := either ⟨.failed, .invalidDate, none, [⟨"B1", 7, 2, "USD"⟩]⟩ (by decide)
  rw [after] at again swapped
  exact ⟨after, again, swapped⟩

end Remit
