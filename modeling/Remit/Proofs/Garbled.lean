import Remit.Proofs.Json.Sending
import Remit.Proofs.Service.Request
import Remit.Proofs.Stopping
import Remit.Proofs.Totality

/-! Which outcomes can be sent. The amount of an instruction and the balances of a request have a
written form, and names, codes, reasons, dates and identifiers are ASCII. So a failure is held back
only by its currency, which is taken over from the text and may hold half of a surrogate pair; a
transfer is held back only by the sum on its credit side, which may have one digit too many. -/

namespace Remit

open Text (hasHalf Writable)

/-- The currency that the text states holds half of a surrogate pair. -/
def Outcome.Garbled (o : Outcome) : Prop :=
  ∃ i, o.instruction = some i ∧ hasHalf i.currency = true

theorem IsAccountId.whole {token : String} (valid : IsAccountId token) :
    hasHalf token = false := by
  apply Text.hasHalf_of_unheralded
  intro c member
  rcases valid.2 c member with letter | rfl | rfl | rfl
  · obtain ⟨-, upper⟩ := Text.toNat_of_isAlphanum letter
    exact Text.ne_herald (by omega)
  all_goals decide

theorem Date.whole_iso (d : Date) : hasHalf d.iso = false := by
  have digits : ∀ n, digit n ≠ Text.herald := fun n => Text.ne_herald_of_isDigit (isDigit_digit n)
  have hyphen : '-' ≠ Text.herald := by decide
  apply Text.hasHalf_of_unheralded
  simp [Text.Unheralded, iso, isoChars, digits, hyphen]

theorem accountIds_of_ofValue {text : Json} {i : Instruction Int}
    (read : Instruction.ofValue text = .ok i) : IsAccountId i.debit ∧ IsAccountId i.credit := by
  cases text with
  | str s =>
    have stated : States (Text.words s) i := ofText_eq_ok.mp read
    obtain ⟨a, first, second, -, -, -, -, one, two, sides⟩ := stated.sides
    unfold Instruction.SidesAre at sides
    split at sides
    · obtain ⟨rfl, rfl⟩ := sides
      exact ⟨one, two⟩
    · obtain ⟨rfl, rfl⟩ := sides
      exact ⟨two, one⟩
  | _ => cases read

theorem instructionKeys_whole : ∀ k ∈ instructionKeys, hasHalf k = false := by decide

theorem sendable_noFields : (Json.obj noFields).Sendable := by
  have fields : noFields = instructionKeys.map fun k => (k, .null) := rfl
  rw [fields, Json.sendable_obj]
  intro f member
  obtain ⟨k, inside, rfl⟩ := List.mem_map.mp member
  exact ⟨instructionKeys_whole k inside, Json.sendable_null⟩

theorem Instruction.sendable_fields {text : Json} {i : Instruction Int}
    (read : Instruction.ofValue text = .ok i) :
    (Json.obj i.fields).Sendable ↔ hasHalf i.currency = false := by
  have keys := instructionKeys_whole
  have kind : hasHalf i.kind.name = false := by cases i.kind <;> decide
  have amount := writable_of_ofValue read
  obtain ⟨debit, credit⟩ := accountIds_of_ofValue read
  have day : (Json.ofString? (i.executeBy.map Date.iso)).Sendable := by
    cases i.executeBy with
    | none => exact Json.sendable_null
    | some d => exact Json.sendable_str.mpr d.whole_iso
  simp only [instructionKeys, List.forall_mem_cons] at keys
  simp [fields, keys, kind, amount, debit.whole, credit.whole, day]

theorem Instruction.sendable_view {i : Instruction Int} {accounts : Snapshot} {transfer : Bool}
    (carried : ∀ a ∈ accounts, Service.Carried a) {v : View}
    (member : v ∈ i.views accounts transfer) :
    v.toJson.Sendable ↔ Writable v.balance ∧ Writable v.balanceBefore := by
  have keys : ∀ k ∈ ["id", "balance", "balance_before", "currency"], hasHalf k = false := by decide
  simp only [List.forall_mem_cons] at keys
  obtain ⟨-, first, resolved, rfl⟩ := mem_views.mp member
  obtain ⟨-, id, currency⟩ := carried first (Snapshot.resolve_some resolved).1
  simp [View.toJson, viewOf, keys, id, currency]

theorem StatusCode.whole (code : StatusCode) :
    hasHalf code.name = false ∧ hasHalf code.message = false := by
  cases code <;> decide +kernel

theorem Outcome.sendable_iff {o : Outcome} : o.toJson.Sendable ↔
    (∀ i, o.instruction = some i → (Json.obj i.fields).Sendable) ∧
      ∀ v ∈ o.views, v.toJson.Sendable := by
  have keys : ∀ k ∈ ["status", "status_code", "status_reason", "accounts"], hasHalf k = false := by
    decide
  have status : hasHalf o.status.name = false := by cases o.status <;> decide
  obtain ⟨name, message⟩ := o.code.whole
  simp only [List.forall_mem_cons] at keys
  rw [toJson, Json.sendable_append]
  apply and_congr
  · cases stated : o.instruction with
    | none => simpa using sendable_noFields
    | some i => simp
  · simp [keys, status, name, message, reason]

/-- Every integer of an outcome has at most 4300 digits. -/
def Outcome.Written (o : Outcome) : Prop :=
  (∀ i, o.instruction = some i → Writable i.amount) ∧
    ∀ v ∈ o.views, Writable v.balance ∧ Writable v.balanceBefore

theorem Outcome.written_of_sendable (o : Outcome) (sendable : o.toJson.Sendable) :
    o.Written := by
  obtain ⟨fields, views⟩ := Outcome.sendable_iff.mp sendable
  constructor
  · intro i stated
    have shown := fields i stated
    simp only [Instruction.fields, Json.sendable_obj, List.forall_mem_cons, Json.sendable_int]
      at shown
    exact shown.2.1.2
  · intro v member
    have shown := views v member
    simp only [View.toJson, Json.sendable_obj, List.forall_mem_cons, Json.sendable_int] at shown
    exact ⟨shown.2.1.2, shown.2.2.1.2⟩

/-- The transfer is due, and the balance that it leaves on the credit side has more than 4300
digits. -/
def Overlong (text : Json) (accounts : Snapshot) (today : Date) : Prop :=
  ∃ i credit, Instruction.ofValue text = .ok i ∧ i.Allowed accounts ∧ ¬ i.Early today ∧
    accounts.resolve i.credit = some credit ∧ (Nat.pow 10 4300 : Int) ≤ credit.balance + i.amount

theorem writable_reduced {held amount : Int} (writable : Writable held) (positive : 0 < amount)
    (funded : amount ≤ held) : Writable (held - amount) := by
  unfold Writable at *
  omega

theorem writable_raised_iff {held amount : Int} (writable : Writable held)
    (positive : 0 < amount) :
    Writable (held + amount) ↔ ¬ (Nat.pow 10 4300 : Int) ≤ held + amount := by
  have limit : Text.maxDigits = 4300 := rfl
  rw [← limit]
  unfold Writable at *
  generalize Nat.pow 10 Text.maxDigits = bound at *
  omega

section Ending

variable {text : Json} {accounts : Snapshot} {today : Date} {p : Processed}

theorem Outcome.sendable_stated {o : Outcome} {i : Instruction Int} {transfer : Bool}
    (read : Instruction.ofValue text = .ok i) (carried : ∀ a ∈ accounts, Service.Carried a)
    (stated : o.instruction = some i) (viewed : o.views = i.views accounts transfer) :
    o.toJson.Sendable ↔ ¬ o.Garbled ∧ o.Written := by
  have fields : (∀ j, o.instruction = some j → (Json.obj j.fields).Sendable) ↔ ¬ o.Garbled := by
    simp only [Outcome.Garbled, stated, Option.some.injEq, forall_eq', exists_eq_left',
      Instruction.sendable_fields read, Bool.not_eq_true]
  have views : (∀ v ∈ o.views, v.toJson.Sendable) ↔ o.Written := by
    have amount : ∀ j, o.instruction = some j → Writable j.amount := by
      intro j same
      cases stated.symm.trans same
      exact writable_of_ofValue read
    rw [Outcome.Written, and_iff_right amount, viewed]
    exact forall₂_congr fun v member => Instruction.sendable_view carried member
  rw [Outcome.sendable_iff, fields, views]

theorem Ended.sendable_iff (ended : Ended text accounts today p)
    (carried : ∀ a ∈ accounts, Service.Carried a) :
    p.outcome.toJson.Sendable ↔ ¬ p.outcome.Garbled ∧ p.outcome.Written := by
  cases ended with
  | unrecognized =>
    simp [Outcome.sendable_iff, Outcome.Garbled, Outcome.Written, Outcome.unrecognized]
  | refused read | scheduled read | executed read =>
    exact Outcome.sendable_stated read carried rfl rfl

theorem Ended.garbled_iff (ended : Ended text accounts today p) :
    p.outcome.Garbled ↔ ∃ i, Instruction.ofValue text = .ok i ∧ hasHalf i.currency = true := by
  unfold Outcome.Garbled
  cases ended with
  | unrecognized read => simp [Outcome.unrecognized, read]
  | refused read | scheduled read | executed read => simp [Outcome.refused, read]

theorem Ended.failed_of_garbled (ended : Ended text accounts today p)
    (garbled : p.outcome.Garbled) : p.outcome.status = .failed := by
  -- what is carried out or left for its date has a supported currency
  have whole : ∀ currency ∈ supportedCurrencies, hasHalf currency = false := by decide
  cases ended with
  | unrecognized | refused => rfl
  | scheduled _ authorized | executed _ authorized =>
    obtain ⟨i, stated, half⟩ := garbled
    cases stated
    rw [whole _ authorized.supported] at half
    cases half

theorem Instruction.written_level {i : Instruction Int}
    (carried : ∀ a ∈ accounts, Service.Carried a) :
    ∀ v ∈ i.views accounts false, Writable v.balance ∧ Writable v.balanceBefore := by
  intro v member
  rw [Instruction.views_level member]
  obtain ⟨-, first, resolved, rfl⟩ := mem_views.mp member
  have held := (carried first (Snapshot.resolve_some resolved).1).balance
  exact ⟨held, held⟩

theorem Instruction.written_transfer_iff {i : Instruction Int} {debit credit : Account}
    (carried : ∀ a ∈ accounts, Service.Carried a)
    (authorized : i.Authorized accounts debit credit) :
    (∀ v ∈ i.views accounts true, Writable v.balance ∧ Writable v.balanceBefore) ↔
      ¬ (Nat.pow 10 4300 : Int) ≤ credit.balance + i.amount := by
  have debited := Snapshot.resolve_some authorized.debited
  have credited := Snapshot.resolve_some authorized.credited
  have lent := (carried debit debited.1).balance
  have held := (carried credit credited.1).balance
  rw [← writable_raised_iff held authorized.positive]
  have raised : (i.viewOf true credit).balance = credit.balance + i.amount := by
    simp [viewOf, change?, credited.2]
  have reduced : (i.viewOf true debit).balance = debit.balance - i.amount := by
    simp [viewOf, change?, debited.2, authorized.sides_differ, Int.sub_eq_add_neg]
  constructor
  · intro written
    have member : i.viewOf true credit ∈ i.views accounts true := by
      refine mem_views.mpr ⟨Or.inr credited.2, credit, ?_, rfl⟩
      rw [viewOf_id, credited.2]
      exact authorized.credited
    exact raised ▸ (written _ member).1
  · intro writable v member
    obtain ⟨named, first, resolved, rfl⟩ := mem_views.mp member
    rw [viewOf_id] at named resolved
    rcases named with one | other
    · rw [one, authorized.debited] at resolved
      cases resolved
      exact ⟨reduced ▸ writable_reduced lent authorized.positive authorized.funded, lent⟩
    · rw [other, authorized.credited] at resolved
      cases resolved
      exact ⟨raised ▸ writable, held⟩

/-- Only a transfer that is carried out can leave a balance that is too long. -/
theorem Ended.written_iff (ended : Ended text accounts today p)
    (carried : ∀ a ∈ accounts, Service.Carried a) :
    p.outcome.Written ↔ ¬ Overlong text accounts today := by
  have amount : ∀ {i j : Instruction Int}, Instruction.ofValue text = .ok i → some i = some j →
      Writable j.amount := by
    intro i j read same
    cases same
    exact writable_of_ofValue read
  cases ended with
  | unrecognized unread =>
    refine iff_of_true ⟨nofun, nofun⟩ ?_
    rintro ⟨i, -, read, -⟩
    cases unread.symm.trans read
  | @refused i _ _ read invalid =>
    refine iff_of_true ⟨fun _ => amount read, i.written_level carried⟩ ?_
    rintro ⟨j, -, same, allowed, -⟩
    cases read.symm.trans same
    have authorized := (Instruction.allowed_iff (positive_of_ofValue read)).mp allowed
    cases (validate_int_eq_ok.mpr authorized).symm.trans invalid
  | @scheduled i _ _ read _ early =>
    refine iff_of_true ⟨fun _ => amount read, i.written_level carried⟩ ?_
    rintro ⟨j, -, same, -, come, -⟩
    cases read.symm.trans same
    exact come (isPending_iff.mp early)
  | @executed i debit credit read authorized due =>
    rw [Outcome.Written, and_iff_right fun _ => amount read,
      Instruction.written_transfer_iff carried authorized]
    refine not_congr ⟨fun long => ?_, ?_⟩
    · have allowed := (Instruction.allowed_iff authorized.positive).mpr ⟨_, _, authorized⟩
      have come : ¬ i.Early today := by
        rw [← isPending_iff, due]
        decide
      exact ⟨i, credit, read, allowed, come, authorized.credited, long⟩
    · rintro ⟨j, holder, same, -, -, credited, long⟩
      cases read.symm.trans same
      cases authorized.credited.symm.trans credited
      exact long

theorem Ended.passed_of_overlong (ended : Ended text accounts today p)
    (long : Overlong text accounts today) : p.outcome.status ≠ .failed := by
  obtain ⟨i, -, read, allowed, -⟩ := long
  obtain ⟨-, ⟨-, pending, -⟩ | ⟨-, successful, -⟩⟩ := ended.of_allowed read allowed
  · simp [pending]
  · simp [successful]

/-- A failure is held back by nothing but its currency. -/
theorem Ended.held_iff (ended : Ended text accounts today p)
    (carried : ∀ a ∈ accounts, Service.Carried a) :
    p.outcome.status = .failed ∧ ¬ p.outcome.toJson.Sendable ↔ p.outcome.Garbled := by
  rw [ended.sendable_iff carried, ended.written_iff carried]
  constructor
  · rintro ⟨failed, held⟩
    by_contra whole
    exact held ⟨whole, fun long => ended.passed_of_overlong long failed⟩
  · intro garbled
    exact ⟨ended.failed_of_garbled garbled, fun sendable => sendable.1 garbled⟩

/-- What did not fail is held back by nothing but its length. -/
theorem Ended.passed_sendable_iff (ended : Ended text accounts today p)
    (carried : ∀ a ∈ accounts, Service.Carried a) (passed : p.outcome.status ≠ .failed) :
    p.outcome.toJson.Sendable ↔ ¬ Overlong text accounts today := by
  have whole : ¬ p.outcome.Garbled := fun garbled => passed (ended.failed_of_garbled garbled)
  rw [ended.sendable_iff carried, ended.written_iff carried, and_iff_right whole]

end Ending

end Remit
