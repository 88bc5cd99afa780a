import Remit.Pipeline
import Remit.Proofs.Authorization
import Remit.Proofs.Settlement

/-! The four ways in which the processing of a text ends, and what the views of each do to a
snapshot. An ending that fails or waits has views too: they move nothing, but writing them back
levels the entries of one identifier. -/

namespace Remit

inductive Ended (text : Json) (accounts : Snapshot) (today : Date) : Processed → Prop where
  | unrecognized {fault : SyntaxFault} (read : Instruction.ofValue text = .error fault) :
      Ended text accounts today ⟨.unrecognized fault.code, unrecognizedRecord fault⟩
  | refused {i : Instruction Int} {refusal : Refusal} {reason : String}
      (read : Instruction.ofValue text = .ok i)
      (invalid : validate (i.withAmount (.int i.amount)) accounts = .error refusal)
      (written : refusal.reason = .ok reason) :
      Ended text accounts today
        ⟨.refused i accounts refusal.code, refusedRecord i.kind refusal.code reason⟩
  | scheduled {i : Instruction Int} {debit credit : Account}
      (read : Instruction.ofValue text = .ok i)
      (authorized : i.Authorized accounts debit credit)
      (early : isPending i.executeBy today = true) :
      Ended text accounts today ⟨⟨.pending, .scheduled, some i, i.views accounts false⟩,
        executedRecord i.kind ⟨.pending, .scheduled, some i, i.views accounts false⟩⟩
  | executed {i : Instruction Int} {debit credit : Account}
      (read : Instruction.ofValue text = .ok i)
      (authorized : i.Authorized accounts debit credit)
      (due : isPending i.executeBy today = false) :
      Ended text accounts today ⟨⟨.successful, .executed, some i, i.views accounts true⟩,
        executedRecord i.kind ⟨.successful, .executed, some i, i.views accounts true⟩⟩

variable {text : Json} {accounts : Snapshot} {today : Date} {p : Processed}

theorem Instruction.process_ended {i : Instruction Int} (read : Instruction.ofValue text = .ok i)
    (processed : i.process accounts today = .ok p) : Ended text accounts today p := by
  unfold Instruction.process at processed
  split at processed
  · rename_i refusal invalid
    split at processed
    · cases processed
    · rename_i reason written
      cases processed
      exact .refused read invalid written
  · rename_i valid
    obtain ⟨debit, credit, authorized⟩ := validate_int_eq_ok.mp valid
    cases processed
    unfold Instruction.execute
    split
    · rename_i early
      exact .scheduled read authorized early
    · rename_i due
      exact .executed read authorized (Bool.eq_false_iff.mpr due)

theorem process_eq_ok : process text accounts today = .ok p ↔ Ended text accounts today p := by
  constructor
  · intro processed
    unfold process at processed
    split at processed
    · rename_i fault read
      cases processed
      exact .unrecognized read
    · rename_i i read
      exact Instruction.process_ended read processed
  · intro ended
    cases ended with
    | unrecognized read => simp only [process, read]
    | refused read invalid written =>
      simp only [process, read, Instruction.process, invalid, written]
    | scheduled read authorized early =>
      simp [process, read, Instruction.process, validate_int_eq_ok.mpr ⟨_, _, authorized⟩,
        Instruction.execute, early]
    | executed read authorized due =>
      simp [process, read, Instruction.process, validate_int_eq_ok.mpr ⟨_, _, authorized⟩,
        Instruction.execute, due]

def Outcome.movement (o : Outcome) (id : String) : Int :=
  match o.status, o.instruction with
  | .successful, some i =>
    (if id = i.credit then i.amount else 0) + (if id = i.debit then -i.amount else 0)
  | _, _ => 0

def NamedBy (text : Json) (id : String) : Prop :=
  match Instruction.ofValue text with
  | .error _ => False
  | .ok i => i.Names id

instance (text : Json) (id : String) : Decidable (NamedBy text id) :=
  match read : Instruction.ofValue text with
  | .error _ => isFalse (by simp [NamedBy, read])
  | .ok i => decidable_of_iff (i.Names id) (by simp [NamedBy, read])

theorem change?_eq_movement {i : Instruction Int} (differ : i.debit ≠ i.credit) (code : StatusCode)
    (views : List View) (id : String) :
    (i.change? id).getD 0 = (⟨.successful, code, some i, views⟩ : Outcome).movement id := by
  simp only [Instruction.change?, Outcome.movement]
  by_cases credited : id = i.credit
  · have undebited : ¬ id = i.debit := fun debited => differ (debited.symm.trans credited)
    simp [credited, credited ▸ undebited]
  · by_cases debited : id = i.debit
    · simp [debited, debited ▸ credited]
    · simp [credited, debited]

namespace Ended

/-- The step of every run: an entry that the instruction names takes the balance that its
identifier resolves to, with what the outcome moves there, and other entries stay. -/
theorem settle_entry (ended : Ended text accounts today p) {a : Account} (member : a ∈ accounts) :
    a.settle p.outcome.views =
      if NamedBy text a.id then
        { a with balance := accounts.balanceOf a.id + p.outcome.movement a.id }
      else a := by
  cases ended with
  | unrecognized read => simp [NamedBy, read, Outcome.unrecognized, Account.settle, lastView?]
  | refused read invalid written =>
    simp [NamedBy, read, Outcome.refused, Instruction.settle_views _ _ member, Outcome.movement]
  | scheduled read authorized early =>
    simp [NamedBy, read, Instruction.settle_views _ _ member, Outcome.movement]
  | executed read authorized due =>
    simp only [NamedBy, read, Instruction.settle_views _ _ member, if_true]
    rw [change?_eq_movement authorized.sides_differ]

theorem movement_eq_zero (ended : Ended text accounts today p) {id : String}
    (unnamed : ¬ NamedBy text id) : p.outcome.movement id = 0 := by
  cases ended with
  | unrecognized | refused | scheduled => rfl
  | executed read authorized due =>
    simp only [NamedBy, read, Instruction.Names, not_or] at unnamed
    simp [Outcome.movement, unnamed.1, unnamed.2]

theorem named_of_view (ended : Ended text accounts today p) {v : View}
    (member : v ∈ p.outcome.views) : NamedBy text v.id := by
  cases ended with
  | unrecognized => cases member
  | refused read | scheduled read | executed read =>
    simpa only [NamedBy, read] using (Instruction.mem_views.mp member).1

theorem authorized_of_successful (ended : Ended text accounts today p)
    (successful : p.outcome.status = .successful) : ∃ i debit credit,
      p.outcome.instruction = some i ∧ p.outcome.views = i.views accounts true ∧
        i.Authorized accounts debit credit := by
  cases ended with
  | unrecognized | refused | scheduled => cases successful
  | executed read authorized due => exact ⟨_, _, _, rfl, rfl, authorized⟩

end Ended

end Remit
