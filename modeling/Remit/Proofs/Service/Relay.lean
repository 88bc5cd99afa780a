import Remit.Proofs.Service.Answer

namespace Remit

theorem Ended.logger {text : Json} {accounts : Snapshot} {today : Date} {p : Processed}
    (ended : Ended text accounts today p) : p.record.logger = pipelineLogger := by
  cases ended <;> rfl

namespace Service

structure Conveys (reply : Reply) (o : Outcome) : Prop where
  passed : o.status ≠ .failed → reply.status = 200 ∧ reply.body = o.toJson
  failed : o.status = .failed → reply.status = 400 ∧ ∃ error,
    reply.body.field? "error" = some error ∧ error.field? "code" = some (.str o.code.name) ∧
      error.field? "message" = some (.str o.reason) ∧ reply.body.field? "data" = some o.toJson

theorem Conveys.after {reply : Reply} {o : Outcome} (conveyed : Conveys reply o)
    (records : List Record) : Conveys (reply.after records) o :=
  ⟨conveyed.passed, conveyed.failed⟩

theorem Answered.conveys {fw : Framework} {path : String} {o : Outcome} {reply : Reply}
    (answered : Answered fw path o reply) (lawful : fw.Lawful) (sendable : o.toJson.Sendable) :
    Conveys reply o := by
  cases answered with
  | shown passed emitted =>
    cases (lawful.emits o passed sendable).symm.trans emitted
    exact ⟨fun _ => ⟨rfl, rfl⟩, fun failed => absurd failed passed⟩
  | withheld passed refused => cases (lawful.emits o passed sendable).symm.trans refused
  | reported failed =>
    exact ⟨fun passed => absurd failed passed, fun _ => ⟨rfl, _, rfl, rfl, rfl, rfl⟩⟩
  | lost failed held => exact absurd sendable held

/-- A reply shows the errors of a body, one record tells of them, and nothing was processed. -/
structure Declines (reply : Reply) (errors : List BodyError) (path shown : String) : Prop where
  status : reply.status = 400
  details : ∃ error, reply.body.field? "error" = some error ∧
    error.field? "code" = some (.str "VALIDATION_ERROR") ∧
    error.field? "details" = some (.arr (errors.map BodyError.toJson))
  records : reply.records = [⟨.warning, handlerLogger,
    "Validation error on " ++ path ++ ": " ++ shown, []⟩]
  unprocessed : ∀ record ∈ reply.records, record.logger ≠ pipelineLogger

def isCompletion (record : Record) : Bool :=
  record.logger == requestLogger && record.message == "payment-instruction-request-completed"

theorem isCompletion_of_logger {record : Record} (other : record.logger ≠ requestLogger) :
    isCompletion record = false := by
  simp [isCompletion, other]

/-- Two replies that differ in some records of completion at most, which the first one has. -/
structure Switched (on off : Reply) (completed : List Record) : Prop where
  response : on.toResponse = off.toResponse
  others : off.records = on.records.filter fun record => !isCompletion record
  completions : on.records.filter isCompletion = completed

section Records

variable {fw : Framework}

theorem handle_logger (lawful : fw.Lawful) (path : String) (raised : Raised) :
    ∀ record ∈ (fw.handle (handlers fw.refusal? path) raised).records,
      record.logger = handlerLogger := by
  have own : ∀ record ∈ ((handlers fw.refusal? path).attempt raised).records,
      record.logger = handlerLogger := by
    intro record member
    cases raised with
    | payments fault =>
      simp only [Handlers.attempt, handlers] at member
      split at member
      · cases member
      · obtain rfl := List.mem_singleton.mp member
        rfl
    | invalid | other =>
      obtain rfl := List.mem_singleton.mp member
      rfl
  by_cases known : ∃ other, raised = .other other
  · obtain ⟨cause, rfl⟩ := known
    rw [lawful.internal]
    exact own
  · cases ended : ((handlers fw.refusal? path).attempt raised).result with
    | ok response =>
      rw [lawful.handled _ _ _ ended]
      exact own
    | error cause =>
      have apart : ∀ other, raised ≠ .other other := fun other same => known ⟨other, same⟩
      rw [lawful.caught _ _ _ apart ended, lawful.internal]
      exact List.forall_mem_append.mpr ⟨own, by simp [internalRecord]⟩

theorem conclude_logger (lawful : fw.Lawful) (path : String) (result : Except Raised Response) :
    ∀ record ∈ (conclude fw path ⟨[], result⟩).records, record.logger = handlerLogger := by
  cases result with
  | ok response => exact nofun
  | error raised => exact handle_logger lawful path raised

theorem filter_of_logger {reply : Reply} (keep : Record → Bool)
    (own : ∀ record ∈ reply.records, record.logger = handlerLogger)
    (dropped : ∀ record : Record, record.logger = handlerLogger → keep record = false) :
    reply.records.filter keep = [] := by
  rw [List.filter_eq_nil_iff]
  intro record member
  exact Bool.eq_false_iff.mp (dropped record (own record member))

theorem isCompletion_of_handler (record : Record) (own : record.logger = handlerLogger) :
    isCompletion record = false := by
  apply isCompletion_of_logger
  rw [own]
  decide

theorem filter_not_completion {reply : Reply}
    (own : ∀ record ∈ reply.records, record.logger = handlerLogger) :
    (reply.records.filter fun record => !isCompletion record) = reply.records := by
  apply List.filter_eq_self.mpr
  intro record member
  rw [isCompletion_of_handler record (own record member)]
  rfl

end Records

section Switch

variable {fw : Framework} {settings : Settings} {today : Date} {r : HttpRequest}

def logging (settings : Settings) (on : Bool) : Settings := { settings with logRequests := on }

theorem attempt_unreached (settings : Settings) (today : Date)
    (unreached : ¬ ∃ request, Reaches fw r request) :
    ∃ result, ∀ on, attempt fw (logging settings on) today r = ⟨[], result⟩ := by
  unfold attempt
  cases routed : fw.target r with
  | own response => exact ⟨_, fun _ => rfl⟩
  | health => exact ⟨(probe fw settings).result, fun _ => rfl⟩
  | payment =>
    cases read : fw.read r with
    | own response => exact ⟨_, fun _ => rfl⟩
    | invalid errors shown => exact ⟨_, fun _ => rfl⟩
    | request request => exact absurd ⟨request, routed, read⟩ unreached

theorem switched_unreached (lawful : fw.Lawful) (settings : Settings) (today : Date)
    (unreached : ¬ ∃ request, Reaches fw r request) :
    Switched (serve fw (logging settings true) today r)
      (serve fw (logging settings false) today r) [] := by
  obtain ⟨result, same⟩ := attempt_unreached settings today unreached
  have logger := conclude_logger lawful (fw.path r) result
  simp only [serve, same]
  exact ⟨rfl, (filter_not_completion logger).symm,
    filter_of_logger isCompletion logger isCompletion_of_handler⟩

section Reached

variable {request : Request} {p : Processed}

theorem closing_logger (lawful : fw.Lawful) (path : String) (o : Outcome) :
    ∀ record ∈ (closing fw path o).records, record.logger = handlerLogger :=
  conclude_logger lawful path (respond fw o)

theorem Reaches.switched (reaches : Reaches fw r request) (lawful : fw.Lawful)
    (settings : Settings)
    (processed : process (.str request.instruction) request.accounts today = .ok p) :
    Switched (serve fw (logging settings true) today r)
      (serve fw (logging settings false) today r) [completionRecord p.outcome] := by
  have logger := closing_logger lawful (fw.path r) p.outcome
  have first : isCompletion p.record = false := by
    apply isCompletion_of_logger
    rw [(process_eq_ok.mp processed).logger]
    decide
  have own : isCompletion (completionRecord p.outcome) = true := by
    simp [isCompletion, completionRecord]
  have none := filter_of_logger isCompletion logger isCompletion_of_handler
  have all := filter_not_completion logger
  rw [reaches.serve_eq _ processed, reaches.serve_eq _ processed]
  constructor
  · rfl
  · simp [Reply.after, logging, first, own, all]
  · simp [Reply.after, logging, first, own, none]

theorem Reaches.pipeline_record (reaches : Reaches fw r request) (lawful : fw.Lawful)
    (settings : Settings)
    (processed : process (.str request.instruction) request.accounts today = .ok p) :
    (serve fw settings today r).records.filter (fun record => record.logger == pipelineLogger) =
      [p.record] := by
  have first : p.record.logger = pipelineLogger := (process_eq_ok.mp processed).logger
  have second : requestLogger ≠ pipelineLogger := by decide
  have last := filter_of_logger (fun record => record.logger == pipelineLogger)
    (closing_logger lawful (fw.path r) p.outcome) fun record own => by rw [own]; decide
  rw [reaches.serve_eq _ processed]
  cases settings.logRequests <;> simp [Reply.after, first, second, last, completionRecord]

theorem Reaches.conveys (reaches : Reaches fw r request) (lawful : fw.Lawful)
    (settings : Settings)
    (processed : process (.str request.instruction) request.accounts today = .ok p)
    (written : p.outcome.Written) (whole : ¬ p.outcome.Garbled) :
    Conveys (serve fw settings today r) p.outcome := by
  have carried := lawful.carried r request reaches.read
  have sendable := ((process_eq_ok.mp processed).sendable_iff carried).mpr ⟨whole, written⟩
  rw [reaches.serve_eq _ processed]
  exact ((answered_closing lawful (fw.path r) p.outcome).conveys lawful sendable).after _

end Reached

theorem declines_invalid (lawful : fw.Lawful) {errors : List BodyError} {shown : String}
    (routed : fw.target r = .payment) (read : fw.read r = .invalid errors shown) :
    Declines (serve fw settings today r) errors (fw.path r) shown := by
  have replied : serve fw settings today r =
      ⟨⟨400, invalidBody errors⟩, [invalidRecord (fw.path r) shown]⟩ := by
    simp only [serve, attempt, routed, read, conclude,
      lawful.declined (fw.path r) shown (lawful.reported r errors shown read)]
    rfl
  have own : handlerLogger ≠ pipelineLogger := by decide
  rw [replied]
  exact ⟨rfl, ⟨_, rfl, rfl, rfl⟩, rfl, by simpa [invalidRecord] using own⟩

end Switch

end Service

end Remit
