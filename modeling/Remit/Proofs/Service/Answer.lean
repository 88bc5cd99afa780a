import Remit.Proofs.Service.Standard

/-! The answer to a request that was read. There always is an outcome, as the balances of a request
are not long enough to be missing from a text. The answer shows it, or is that to an internal error:
if the outcome is a failure that cannot be encoded, or if the framework refuses a balance that a
transfer has made too long. -/

namespace Remit

open Text (hasHalf)

theorem not_unworded {text : Json} {accounts : Snapshot}
    (carried : ∀ a ∈ accounts, Service.Carried a) : ¬ Unworded text accounts := by
  rintro ⟨i, debit, -, read, debited, -, -, -, -, -, low⟩
  have held := (carried debit (Snapshot.resolve_some debited).1).balance
  exact ((low_iff (positive_of_ofValue read) (writable_of_ofValue read)).mp low).2 held

namespace Service

section Answered

variable {fw : Framework} {path : String} {o : Outcome}

inductive Answered (fw : Framework) (path : String) (o : Outcome) : Reply → Prop where
  | shown {body : Json} (passed : o.status ≠ .failed) (emitted : fw.emit o.toJson = .ok body) :
      Answered fw path o ⟨⟨200, body⟩, []⟩
  | withheld {cause : String} (passed : o.status ≠ .failed)
      (refused : fw.emit o.toJson = .error cause) :
      Answered fw path o ⟨⟨500, internalBody⟩, [internalRecord path cause]⟩
  | reported (failed : o.status = .failed) (sendable : o.toJson.Sendable) :
      Answered fw path o ⟨⟨400, o.fault.envelope⟩, [faultRecord path o.fault o.reason]⟩
  | lost {cause : String} (failed : o.status = .failed) (held : ¬ o.toJson.Sendable) :
      Answered fw path o ⟨⟨500, internalBody⟩,
        [faultRecord path o.fault o.reason, internalRecord path cause]⟩

/-- The reply to an outcome, without the records that come before. -/
def closing (fw : Framework) (path : String) (o : Outcome) : Reply :=
  conclude fw path ⟨[], respond fw o⟩

theorem respond_failed (fw : Framework) (failed : o.status = .failed) :
    respond fw o = .error (.payments o.fault) := by
  have isFailed : o.isFailed = true := by simpa [Outcome.isFailed] using failed
  rw [respond, if_pos isFailed, raisedByFailure_toJson]

theorem respond_passed {body : Json} (passed : o.status ≠ .failed)
    (emitted : fw.emit o.toJson = .ok body) : respond fw o = .ok ⟨200, body⟩ := by
  have isFailed : ¬ o.isFailed = true := by simpa [Outcome.isFailed] using passed
  simp only [respond, if_neg isFailed, emitted]

theorem respond_withheld {cause : String} (passed : o.status ≠ .failed)
    (refused : fw.emit o.toJson = .error cause) : respond fw o = .error (.other cause) := by
  have isFailed : ¬ o.isFailed = true := by simpa [Outcome.isFailed] using passed
  simp only [respond, if_neg isFailed, refused]

theorem answered_closing (lawful : fw.Lawful) (path : String) (o : Outcome) :
    Answered fw path o (closing fw path o) := by
  unfold closing
  by_cases failed : o.status = .failed
  · rw [respond_failed fw failed]
    by_cases sendable : o.toJson.Sendable
    · simp only [conclude, lawful.failed path sendable]
      exact .reported failed sendable
    · obtain ⟨cause, replied⟩ := lawful.lost path sendable
      simp only [conclude, replied]
      exact .lost failed sendable
  · cases emitted : fw.emit o.toJson with
    | ok body =>
      rw [respond_passed failed emitted]
      exact .shown failed emitted
    | error cause =>
      rw [respond_withheld failed emitted]
      simp only [conclude, lawful.internal path cause]
      exact .withheld failed emitted

theorem Answered.status_mem {reply : Reply} (answered : Answered fw path o reply) :
    reply.status = 200 ∨ reply.status = 400 ∨ reply.status = 500 := by
  cases answered <;> simp

theorem Answered.internal_iff {reply : Reply} (answered : Answered fw path o reply) :
    reply.status = 500 ↔ (o.status = .failed ∧ ¬ o.toJson.Sendable) ∨
      o.status ≠ .failed ∧ ∃ cause, fw.emit o.toJson = .error cause := by
  cases answered with
  | shown passed emitted => simp [passed, emitted]
  | withheld passed refused => simp [passed, refused]
  | reported failed sendable => simp [failed, sendable]
  | lost failed held => simp [failed, held]

end Answered

structure Reaches (fw : Framework) (r : HttpRequest) (request : Request) : Prop where
  target : fw.target r = .payment
  read : fw.read r = .request request

structure Posted (fw : Framework) (r : HttpRequest) (request : Request) : Prop where
  method : r.method = "POST"
  path : r.path = paymentPath
  read : fw.read r = .request request

section Reaches

variable {fw : Framework} {r : HttpRequest} {request : Request} {today : Date} {p : Processed}

theorem Posted.reaches (posted : Posted fw r request) (lawful : fw.Lawful) :
    Reaches fw r request :=
  ⟨lawful.routed r posted.method posted.path, posted.read⟩

theorem Reaches.processed (reaches : Reaches fw r request) (lawful : fw.Lawful) (today : Date) :
    ∃ p, process (.str request.instruction) request.accounts today = .ok p :=
  exists_outcome_iff.mpr (not_unworded (lawful.carried r request reaches.read))

theorem Reaches.serve_eq (reaches : Reaches fw r request) (settings : Settings)
    (processed : process (.str request.instruction) request.accounts today = .ok p) :
    serve fw settings today r = (closing fw (fw.path r) p.outcome).after
      (p.record :: if settings.logRequests then [completionRecord p.outcome] else []) := by
  simp only [serve, attempt, reaches.target, reaches.read, pay, processed, closing, conclude]
  cases respond fw p.outcome with
  | ok response => simp [Reply.after]
  | error raised => simp [Reply.after]

theorem Reaches.internal_iff (reaches : Reaches fw r request) (lawful : fw.Lawful)
    (settings : Settings)
    (processed : process (.str request.instruction) request.accounts today = .ok p) :
    (serve fw settings today r).status = 500 ↔ p.outcome.Garbled ∨
      p.outcome.status ≠ .failed ∧ ∃ cause, fw.emit p.outcome.toJson = .error cause := by
  have carried := lawful.carried r request reaches.read
  rw [reaches.serve_eq settings processed, ← (process_eq_ok.mp processed).held_iff carried]
  exact (answered_closing lawful (fw.path r) p.outcome).internal_iff

end Reaches

def Withheld (fw : Framework) (request : Request) (today : Date) : Prop :=
  ∃ p cause, process (.str request.instruction) request.accounts today = .ok p ∧
    p.outcome.status ≠ .failed ∧ fw.emit p.outcome.toJson = .error cause

section Withheld

variable {fw : Framework} {r : HttpRequest} {request : Request} {today : Date}

theorem overlong_of_withheld (lawful : fw.Lawful)
    (carried : ∀ a ∈ request.accounts, Carried a) (withheld : Withheld fw request today) :
    Overlong (.str request.instruction) request.accounts today := by
  obtain ⟨p, cause, processed, passed, refused⟩ := withheld
  by_contra short
  have sendable := ((process_eq_ok.mp processed).passed_sendable_iff carried passed).mpr short
  cases (lawful.emits p.outcome passed sendable).symm.trans refused

theorem withheld_of_overlong (refuses : fw.RefusesLong)
    (carried : ∀ a ∈ request.accounts, Carried a)
    (long : Overlong (.str request.instruction) request.accounts today) :
    Withheld fw request today := by
  obtain ⟨p, processed⟩ := exists_outcome_iff.mpr (not_unworded carried)
  have ended := process_eq_ok.mp processed
  have unwritten : ¬ p.outcome.Written := fun written =>
    (ended.written_iff carried).mp written long
  obtain ⟨cause, refused⟩ := refuses p.outcome (ended.passed_of_overlong long) unwritten
  exact ⟨p, cause, processed, ended.passed_of_overlong long, refused⟩

theorem withheld_iff {p : Processed}
    (processed : process (.str request.instruction) request.accounts today = .ok p) :
    Withheld fw request today ↔
      p.outcome.status ≠ .failed ∧ ∃ cause, fw.emit p.outcome.toJson = .error cause := by
  constructor
  · rintro ⟨q, cause, same, passed, refused⟩
    cases processed.symm.trans same
    exact ⟨passed, cause, refused⟩
  · rintro ⟨passed, cause, refused⟩
    exact ⟨p, cause, processed, passed, refused⟩

end Withheld

def sampleShown : String :=
  "[\x7b'type': 'missing', 'loc': ('body',), 'msg': 'Field required', 'input': None\x7d]"

def sampleFramework : Framework := .standard fun _ => sampleShown

theorem posted_of_body {r : HttpRequest} {request : Request} (method : r.method = "POST")
    (path : r.path = paymentPath) (body : Request.ofBody r.contentType r.body = .ok request) :
    Posted sampleFramework r request := by
  refine ⟨method, path, ?_⟩
  simp only [sampleFramework, Framework.standard, standardReading, body]

def sampleRequest : HttpRequest :=
  ⟨"POST", paymentPath, some "application/json",
    "\x7b\"instruction\":\"DEBIT 1 USD FROM ACCOUNT A FOR CREDIT TO ACCOUNT B\",\"accounts\":[" ++
      "\x7b\"id\":\"A\",\"balance\":1,\"currency\":\"USD\"\x7d," ++
      "\x7b\"id\":\"B\",\"balance\":0,\"currency\":\"USD\"\x7d]\x7d"⟩

theorem sampleRequest_posted : Posted sampleFramework sampleRequest
    ⟨"DEBIT 1 USD FROM ACCOUNT A FOR CREDIT TO ACCOUNT B",
      [⟨"A", 1, "USD"⟩, ⟨"B", 0, "USD"⟩]⟩ := by
  have body : Request.ofBody sampleRequest.contentType sampleRequest.body =
      .ok ⟨"DEBIT 1 USD FROM ACCOUNT A FOR CREDIT TO ACCOUNT B",
        [⟨"A", 1, "USD"⟩, ⟨"B", 0, "USD"⟩]⟩ := by decide +kernel
  exact posted_of_body rfl rfl body

@[irreducible]
def nines (digits : Nat) : Int := (Nat.pow 10 digits : Int) - 1

theorem nines_succ (digits : Nat) : nines digits + 1 = Nat.pow 10 digits := by
  rw [nines, Int.sub_add_cancel]

theorem writable_nines : Text.Writable (nines Text.maxDigits) := by
  have succ := nines_succ Text.maxDigits
  have positive : ∀ m, 0 < Nat.pow 10 m := fun m => Nat.pow_pos (by decide)
  have bound := positive Text.maxDigits
  unfold Text.Writable
  generalize Nat.pow 10 Text.maxDigits = limit at *
  omega

/-- Two balances that can be read, and a transfer that makes one of them too long. -/
def longRequest : Request :=
  ⟨"DEBIT 1 USD FROM ACCOUNT A FOR CREDIT TO ACCOUNT B",
    [⟨"A", 1, "USD"⟩, ⟨"B", nines 4300, "USD"⟩]⟩

def longHttpRequest : HttpRequest :=
  ⟨"POST", paymentPath, some "application/json",
    "\x7b\"instruction\":\"DEBIT 1 USD FROM ACCOUNT A FOR CREDIT TO ACCOUNT B\",\"accounts\":[" ++
      "\x7b\"id\":\"A\",\"balance\":1,\"currency\":\"USD\"\x7d," ++
      "\x7b\"id\":\"B\",\"balance\":" ++ String.ofList (List.replicate 4300 '9') ++
      ",\"currency\":\"USD\"\x7d]\x7d"⟩

/-- A framework that refuses long integers, and that reads the one request. -/
def longFramework : Framework :=
  { sampleFramework.encoding with read := fun _ => .request longRequest }

theorem longFramework_lawful : longFramework.Lawful := by
  have lawful : sampleFramework.encoding.Lawful := (standard_lawful _).encoding
  have one : Text.Writable 1 := Field.writable_of_le (by decide)
  have carried : ∀ a ∈ longRequest.accounts, Carried a := by
    intro a member
    rcases List.mem_cons.mp member with rfl | other
    · exact ⟨one, by decide, by decide⟩
    · obtain rfl := List.mem_singleton.mp other
      exact ⟨writable_nines, by decide, by decide⟩
  exact {
    routed := lawful.routed
    carried := by
      intro r request read
      cases read
      exact carried
    reported := nofun
    encodes := lawful.encodes
    emits := lawful.emits
    handled := lawful.handled
    caught := lawful.caught }

theorem longRequest_overlong (today : Date) :
    Overlong (.str longRequest.instruction) longRequest.accounts today := by
  have read : Instruction.ofText longRequest.instruction =
      .ok ⟨.debit, 1, "USD", "A", "B", none⟩ := by decide +kernel
  refine ⟨⟨.debit, 1, "USD", "A", "B", none⟩, ⟨"B", nines 4300, "USD"⟩, read,
    ⟨⟨"A", 1, "USD"⟩, ⟨"B", nines 4300, "USD"⟩, rfl, rfl, by decide, by decide, rfl, rfl,
      by decide⟩, ?_, rfl, ?_⟩
  · rintro ⟨d, stated, -⟩
    cases stated
  · have reached : ∀ k, (Nat.pow 10 k : Int) ≤ nines k + 1 := fun k => (nines_succ k).ge
    exact reached 4300

end Service

end Remit
