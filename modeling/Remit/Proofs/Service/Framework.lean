import Remit.Proofs.Garbled
import Remit.Service.Framework

namespace Remit.Service

open Text (hasHalf)

structure BodyError.Whole (e : BodyError) : Prop where
  field : hasHalf e.field = false
  message : hasHalf e.message = false
  type : hasHalf e.type = false

/-- The laws of a framework. Nothing is said of the documents that `emit` refuses, as frameworks
differ in the integers that they send. -/
structure Framework.Lawful (fw : Framework) : Prop where
  routed : ∀ r : HttpRequest, r.method = "POST" → r.path = paymentPath → fw.target r = .payment
  /-- an account is read only with an integer within the bound on digits, and with whole texts -/
  carried : ∀ r request, fw.read r = .request request → ∀ a ∈ request.accounts, Carried a
  /-- the faults of a body are told in words of the checks and not of the body -/
  reported : ∀ r errors shown, fw.read r = .invalid errors shown → ∀ e ∈ errors, e.Whole
  /-- long integers, numbers that are not finite and halves of pairs are what the encoder refuses -/
  encodes : ∀ j, fw.refusal? j = none ↔ j.Sendable
  /-- what can be encoded is shown as it was returned -/
  emits : ∀ o : Outcome, o.status ≠ .failed → o.toJson.Sendable → fw.emit o.toJson = .ok o.toJson
  /-- what is raised goes to the handler of its class -/
  handled : ∀ (h : Handlers) raised response, (h.attempt raised).result = .ok response →
    fw.handle h raised = ⟨response, (h.attempt raised).records⟩
  /-- what a handler raises goes to the last one -/
  caught : ∀ (h : Handlers) raised cause, (∀ other, raised ≠ .other other) →
    (h.attempt raised).result = .error cause →
      fw.handle h raised = (fw.handle h (.other cause)).after (h.attempt raised).records

/-- A framework that sends outcomes as it sends every other document. -/
def Framework.RefusesLong (fw : Framework) : Prop :=
  ∀ o : Outcome, o.status ≠ .failed → ¬ o.Written → ∃ cause, fw.emit o.toJson = .error cause

section Encoded

variable {fw : Framework} {form : Json} (status : Int) (body : Json)

theorem encoded_of_sendable (lawful : fw.Lawful) (sendable : form.Sendable) :
    encoded fw.refusal? status form body = .ok ⟨status, body⟩ := by
  rw [encoded, (lawful.encodes form).mpr sendable]

theorem encoded_of_not_sendable (lawful : fw.Lawful) (held : ¬ form.Sendable) :
    ∃ cause, encoded fw.refusal? status form body = .error cause := by
  cases refused : fw.refusal? form with
  | none => exact absurd ((lawful.encodes form).mp refused) held
  | some cause => exact ⟨cause, by rw [encoded, refused]⟩

end Encoded

theorem sendable_internalBody : internalBody.Sendable := by
  constructor <;> decide +kernel

theorem sendable_invalidBody {errors : List BodyError} (whole : ∀ e ∈ errors, e.Whole) :
    (invalidBody errors).Sendable := by
  have keys : ∀ k ∈ ["error", "code", "message", "category", "severity", "details", "field",
      "type", "VALIDATION_ERROR", "Invalid request data", Category.validation.name,
      Severity.error.name], hasHalf k = false := by decide +kernel
  simp only [List.forall_mem_cons] at keys
  have details : ∀ e ∈ errors, e.toJson.Sendable := by
    intro e member
    obtain ⟨field, message, type⟩ := whole e member
    simp [BodyError.toJson, keys, field, message, type]
  simp [invalidBody, keys]
  exact details

theorem sendable_sentForm (o : Outcome) : o.fault.sentForm.Sendable ↔ o.toJson.Sendable := by
  have keys : ∀ k ∈ ["error", "data", "code", "message", "category", "severity", "timestamp",
      "2000-01-01T00:00:00.000000+00:00", Category.validation.name, Category.businessRule.name,
      Severity.error.name], hasHalf k = false := by decide +kernel
  simp only [List.forall_mem_cons] at keys
  obtain ⟨name, message⟩ := o.code.whole
  cases syntactic : o.code.isSyntactic <;>
    simp [Outcome.fault, Fault.sentForm, Fault.envelopeWith, Outcome.reason, syntactic, keys, name,
      message]

theorem raisedByFailure_toJson (o : Outcome) : raisedByFailure o.toJson = .payments o.fault := by
  rw [raisedByFailure, o.fault_eq]

section Handled

variable {fw : Framework} (lawful : fw.Lawful) (path : String)
include lawful

theorem Framework.Lawful.internal (cause : String) :
    fw.handle (handlers fw.refusal? path) (.other cause) =
      ⟨⟨500, internalBody⟩, [internalRecord path cause]⟩ :=
  lawful.handled _ _ _ (encoded_of_sendable _ _ lawful sendable_internalBody)

theorem Framework.Lawful.declined {errors : List BodyError} (shown : String)
    (whole : ∀ e ∈ errors, e.Whole) :
    fw.handle (handlers fw.refusal? path) (.invalid errors shown) =
      ⟨⟨400, invalidBody errors⟩, [invalidRecord path shown]⟩ :=
  lawful.handled _ _ _ (encoded_of_sendable _ _ lawful (sendable_invalidBody whole))

theorem Framework.Lawful.failed {o : Outcome} (sendable : o.toJson.Sendable) :
    fw.handle (handlers fw.refusal? path) (.payments o.fault) =
      ⟨⟨400, o.fault.envelope⟩, [faultRecord path o.fault o.reason]⟩ :=
  lawful.handled _ _ _ (encoded_of_sendable _ _ lawful ((sendable_sentForm o).mpr sendable))

theorem Framework.Lawful.lost {o : Outcome} (held : ¬ o.toJson.Sendable) : ∃ cause,
    fw.handle (handlers fw.refusal? path) (.payments o.fault) = ⟨⟨500, internalBody⟩,
      [faultRecord path o.fault o.reason, internalRecord path cause]⟩ := by
  obtain ⟨cause, refused⟩ := encoded_of_not_sendable 400 o.fault.envelope lawful
    (mt (sendable_sentForm o).mp held)
  have caught := lawful.caught (handlers fw.refusal? path) (.payments o.fault) cause nofun refused
  rw [lawful.internal] at caught
  exact ⟨cause, caught⟩

end Handled

def Framework.encoding (fw : Framework) : Framework :=
  { fw with emit := fun j => match fw.refusal? j with
    | none => .ok j
    | some cause => .error cause }

theorem Framework.Lawful.encoding {fw : Framework} (lawful : fw.Lawful) : fw.encoding.Lawful where
  routed := lawful.routed
  carried := lawful.carried
  reported := lawful.reported
  encodes := lawful.encodes
  emits o _ sendable := by simp only [Framework.encoding, (lawful.encodes o.toJson).mpr sendable]
  handled := lawful.handled
  caught := lawful.caught

theorem Framework.Lawful.encoding_refusesLong {fw : Framework} (lawful : fw.Lawful) :
    fw.encoding.RefusesLong := by
  intro o _ unwritten
  have held : ¬ o.toJson.Sendable := mt o.written_of_sendable unwritten
  cases refused : fw.refusal? o.toJson with
  | none => exact absurd ((lawful.encodes _).mp refused) held
  | some cause => exact ⟨cause, by simp only [Framework.encoding, refused]⟩

end Remit.Service
