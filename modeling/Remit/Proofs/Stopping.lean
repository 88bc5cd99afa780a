import Remit.Outcome
import Remit.Service.Fault
import Remit.Proofs.Decision

/-! Where an instruction stopped. The record, the document of the outcome and the error that reports
it tell it in three ways: by a stage, by the fields that are set, and by a category that is read off
the code. They agree because no check gives a code of the reading: the one code that both have is
that of the amount, and a reading lets only positive amounts through. -/

namespace Remit

open Service (Category Fault categoryOf)

theorem StatusCode.ofName?_name (code : StatusCode) : StatusCode.ofName? code.name = some code := by
  cases code <;> rfl

theorem StatusCode.name_injective {c d : StatusCode} (same : c.name = d.name) : c = d := by
  have read := congrArg StatusCode.ofName? same
  rw [StatusCode.ofName?_name, StatusCode.ofName?_name] at read
  exact Option.some.inj read

theorem SyntaxFault.isSyntactic_code (fault : SyntaxFault) : fault.code.isSyntactic = true := by
  cases fault <;> rfl

/-- The stage that an outcome comes from, by what it holds. -/
def Outcome.stage (o : Outcome) : Stage :=
  if o.status = .failed then if o.instruction = none then .parse else .validate else .execute

theorem Outcome.stage_parse {o : Outcome} :
    .parse = o.stage ↔ o.status = .failed ∧ o.instruction = none := by
  unfold stage
  by_cases failed : o.status = .failed
  · by_cases unread : o.instruction = none <;> simp [failed, unread]
  · simp [failed]

theorem Outcome.stage_validate {o : Outcome} :
    .validate = o.stage ↔ o.status = .failed ∧ o.instruction ≠ none := by
  unfold stage
  by_cases failed : o.status = .failed
  · by_cases unread : o.instruction = none <;> simp [failed, unread]
  · simp [failed]

theorem Outcome.stage_execute {o : Outcome} :
    .execute = o.stage ↔ o.status = .pending ∨ o.status = .successful := by
  unfold stage
  cases o.status with
  | failed => by_cases unread : o.instruction = none <;> simp [unread]
  | pending | successful => simp

def Record.Tells (r : Record) (stage : Stage) : Prop :=
  r.details.value? "stage" = some (.str stage.name)

theorem Stage.name_injective {s t : Stage} (same : s.name = t.name) : s = t := by
  cases s <;> cases t <;> first | rfl | exact absurd same (by decide)

def instructionKeys : List String :=
  ["type", "amount", "currency", "debit_account", "credit_account", "execute_by"]

def Outcome.Blank (o : Outcome) : Prop :=
  o.status = .failed ∧ ∀ key ∈ instructionKeys, o.toJson.field? key = some .null

def Outcome.Shows (o : Outcome) (i : Instruction Int) : Prop :=
  o.status = .failed ∧ ∀ f ∈ i.fields, o.toJson.field? f.1 = some f.2

def Outcome.ReportedAs (o : Outcome) (category : Category) : Prop :=
  o.status = .failed ∧ ∃ fault, Fault.ofOutcome o.toJson = .ok fault ∧ fault.category = category

section Document

variable {o : Outcome} {i : Instruction Int} {category : Category}

theorem Outcome.kind_shown (stated : o.instruction = some i) :
    o.toJson.field? "type" = some (.str i.kind.name) := by
  simp only [toJson, stated]
  rfl

theorem Outcome.blank_iff : o.Blank ↔ o.status = .failed ∧ o.instruction = none := by
  unfold Blank
  refine and_congr_right fun _ => ?_
  constructor
  · intro unset
    cases stated : o.instruction with
    | none => rfl
    | some i =>
      have null := unset "type" (by simp [instructionKeys])
      rw [kind_shown stated] at null
      cases null
  · intro none key member
    simp only [toJson, none]
    revert key
    simp [instructionKeys, Json.field?, noFields]

theorem Outcome.shows_of_stated (failed : o.status = .failed) (stated : o.instruction = some i) :
    o.Shows i := by
  refine ⟨failed, fun f member => ?_⟩
  simp only [toJson, stated]
  revert f
  simp [Instruction.fields, Json.field?]

theorem Outcome.Shows.stated (shows : o.Shows i) : o.instruction ≠ none := by
  intro none
  have unset := (blank_iff.mpr ⟨shows.1, none⟩).2 "type" (by simp [instructionKeys])
  have set := shows.2 ("type", .str i.kind.name) (by simp [Instruction.fields])
  rw [unset] at set
  cases set

theorem Outcome.code_shown (o : Outcome) :
    o.toJson.field? "status_code" = some (.str o.code.name) ∧
      o.toJson.field? "status_reason" = some (.str o.reason) := by
  cases stated : o.instruction with
  | none => simp [toJson, stated, Json.field?, noFields]
  | some i => simp [toJson, stated, Json.field?, Instruction.fields]

def Outcome.fault (o : Outcome) : Fault :=
  ⟨.str o.reason, .str o.code.name, if o.code.isSyntactic then .validation else .businessRule,
    .error, 400, (o.toJson.field? "type").getD .null, o.toJson⟩

theorem Outcome.fault_eq (o : Outcome) : Fault.ofOutcome o.toJson = .ok o.fault := by
  obtain ⟨code, reason⟩ := o.code_shown
  simp [Fault.ofOutcome, Outcome.fault, code, reason, categoryOf, StatusCode.ofName?_name]

theorem Outcome.reportedAs_iff : o.ReportedAs category ↔ o.status = .failed ∧
    category = if o.code.isSyntactic then .validation else .businessRule := by
  unfold ReportedAs
  refine and_congr_right fun _ => ?_
  constructor
  · rintro ⟨fault, same, rfl⟩
    cases o.fault_eq.symm.trans same
    rfl
  · rintro rfl
    exact ⟨_, o.fault_eq, rfl⟩

end Document

theorem checkAccounts_code {i : Instruction Int} {debit credit : Account} {refusal : Refusal}
    (refused : checkAccounts i debit credit = .error refusal) :
    refusal.code.isSyntactic = false := by
  unfold checkAccounts at refused
  repeat' split at refused
  all_goals cases refused
  all_goals rfl

theorem validate_code {i : Instruction Int} {accounts : Snapshot} {refusal : Refusal}
    (positive : 0 < i.amount)
    (refused : validate (i.withAmount (.int i.amount)) accounts = .error refusal) :
    refusal.code.isSyntactic = false := by
  have checked : checkAmount (.int i.amount) = .ok i.amount := checkAmount_eq_ok.mpr ⟨rfl, positive⟩
  simp only [validate, Instruction.withAmount, checked] at refused
  split at refused
  · cases refused
    rfl
  · split at refused
    · cases refused
      rfl
    · exact checkAccounts_code refused

namespace Ended

variable {text : Json} {accounts : Snapshot} {today : Date} {p : Processed}

theorem syntactic_iff (ended : Ended text accounts today p) (failed : p.outcome.status = .failed) :
    p.outcome.code.isSyntactic = true ↔ p.outcome.instruction = none := by
  cases ended with
  | @unrecognized fault => simp [Outcome.unrecognized, fault.isSyntactic_code]
  | refused read invalid =>
    simp [Outcome.refused, validate_code (positive_of_ofValue read) invalid]
  | scheduled | executed => cases failed

theorem tells_iff (ended : Ended text accounts today p) {stage : Stage} :
    p.record.Tells stage ↔ stage = p.outcome.stage := by
  have told : p.record.details.value? "stage" = some (.str p.outcome.stage.name) := by
    cases ended <;> rfl
  unfold Record.Tells
  rw [told, Option.some.injEq, Json.str.injEq]
  exact ⟨fun same => (Stage.name_injective same).symm, fun same => same ▸ rfl⟩

theorem instruction_read (ended : Ended text accounts today p) {i : Instruction Int}
    (stated : p.outcome.instruction = some i) : Instruction.ofValue text = .ok i := by
  cases ended with
  | unrecognized => cases stated
  | refused read | scheduled read | executed read =>
    cases stated
    exact read

theorem code_told (ended : Ended text accounts today p) :
    (p.outcome.status = .failed →
      p.record.details.value? "error_code" = some (.str p.outcome.code.name)) ∧
    (p.outcome.status ≠ .failed →
      p.record.details.value? "status_code" = some (.str p.outcome.code.name)) := by
  cases ended with
  | unrecognized | refused => exact ⟨fun _ => rfl, fun passed => absurd rfl passed⟩
  | scheduled | executed => exact ⟨nofun, fun _ => rfl⟩

end Ended

/-- The record of an outcome has its code. Its stage is that of the reading just if no field is set
in the document, and just if the error is one of validation; that of the checks just if the fields
are those that were read, and just if the error is one of a business rule; and that of the
execution just if the outcome is no failure. -/
theorem stop_agrees {text : Json} {accounts : Snapshot} {today : Date} {p : Processed}
    (processed : process text accounts today = .ok p) :
    (p.outcome.status = .failed →
      p.record.details.value? "error_code" = some (.str p.outcome.code.name)) ∧
    (p.outcome.status ≠ .failed →
      p.record.details.value? "status_code" = some (.str p.outcome.code.name)) ∧
    (p.record.Tells .parse ↔ p.outcome.Blank) ∧
    (p.record.Tells .parse ↔ p.outcome.ReportedAs .validation) ∧
    (p.record.Tells .validate ↔ ∃ i, Instruction.ofValue text = .ok i ∧ p.outcome.Shows i) ∧
    (p.record.Tells .validate ↔ p.outcome.ReportedAs .businessRule) ∧
    (p.record.Tells .execute ↔ p.outcome.status = .pending ∨ p.outcome.status = .successful) := by
  have ended := process_eq_ok.mp processed
  refine ⟨ended.code_told.1, ended.code_told.2, ?_, ?_, ?_, ?_, ?_⟩
  · rw [ended.tells_iff, Outcome.stage_parse, Outcome.blank_iff]
  · rw [ended.tells_iff, Outcome.stage_parse, Outcome.reportedAs_iff]
    refine and_congr_right fun failed => ?_
    rw [← ended.syntactic_iff failed]
    cases p.outcome.code.isSyntactic <;> simp
  · rw [ended.tells_iff, Outcome.stage_validate]
    constructor
    · rintro ⟨failed, read⟩
      obtain ⟨i, stated⟩ := Option.ne_none_iff_exists'.mp read
      exact ⟨i, ended.instruction_read stated, Outcome.shows_of_stated failed stated⟩
    · rintro ⟨i, -, shows⟩
      exact ⟨shows.1, shows.stated⟩
  · rw [ended.tells_iff, Outcome.stage_validate, Outcome.reportedAs_iff]
    refine and_congr_right fun failed => ?_
    rw [ne_eq, ← ended.syntactic_iff failed]
    cases p.outcome.code.isSyntactic <;> simp
  · rw [ended.tells_iff, Outcome.stage_execute]

theorem stop_agrees_sample :
    process (.str "DEBIT 0 USD FROM ACCOUNT A1 FOR CREDIT TO ACCOUNT B1")
      [⟨"A1", 9, "USD"⟩, ⟨"B1", 0, "USD"⟩] ⟨2025, 6, 15, by decide⟩ =
        .ok ⟨.unrecognized .invalidAmount, unrecognizedRecord .invalidAmount⟩ ∧
    (Outcome.unrecognized .invalidAmount).Blank ∧
    (Outcome.unrecognized .invalidAmount).ReportedAs .validation := by
  have processed : process (.str "DEBIT 0 USD FROM ACCOUNT A1 FOR CREDIT TO ACCOUNT B1")
      [⟨"A1", 9, "USD"⟩, ⟨"B1", 0, "USD"⟩] ⟨2025, 6, 15, by decide⟩ =
        .ok ⟨.unrecognized .invalidAmount, unrecognizedRecord .invalidAmount⟩ := by rfl
  obtain ⟨-, -, blank, category, -⟩ := stop_agrees processed
  have told : (unrecognizedRecord .invalidAmount).Tells .parse := rfl
  exact ⟨processed, blank.mp told, category.mp told⟩

end Remit
