import Remit.Grammar
import Remit.Outcome
import Remit.Record
import Remit.Validation

namespace Remit

/-- Only a text can state an instruction. -/
def Instruction.ofValue : Json → Except SyntaxFault (Instruction Int)
  | .str text => Instruction.ofText text
  | _ => .error .malformed

inductive Stage where
  | parse | validate | execute
  deriving DecidableEq, Repr

def Stage.name : Stage → String
  | .parse => "parse"
  | .validate => "validate"
  | .execute => "execute"

structure Processed where
  outcome : Outcome
  record : Record

def pipelineLogger : String := "payments.services.process_instruction"

def unrecognizedRecord (fault : SyntaxFault) : Record :=
  ⟨.warning, pipelineLogger, "Instruction rejected by parser",
    [("stage", .str Stage.parse.name), ("error_code", .str fault.code.name)]⟩

def refusedRecord (kind : Kind) (code : StatusCode) (reason : String) : Record :=
  ⟨.warning, pipelineLogger, "Instruction rejected by validator: " ++ reason,
    [("stage", .str Stage.validate.name), ("error_code", .str code.name),
      ("instruction_type", .str kind.name)]⟩

def executedRecord (kind : Kind) (o : Outcome) : Record :=
  ⟨.info, pipelineLogger, "Instruction " ++ o.status.name,
    [("stage", .str Stage.execute.name), ("status_code", .str o.code.name),
      ("instruction_type", .str kind.name)]⟩

/-- The outcome and record of a recognized instruction. It has none if the text of a refusal needs
an integer that has no written form. -/
def Instruction.process (i : Instruction Int) (accounts : Snapshot) (today : Date) :
    Except Text.TooLong Processed :=
  match validate (i.withAmount (.int i.amount)) accounts with
  | .error refusal =>
    match refusal.reason with
    | .error e => .error e
    | .ok reason =>
      .ok ⟨.refused i accounts refusal.code, refusedRecord i.kind refusal.code reason⟩
  | .ok () => .ok ⟨i.execute accounts today, executedRecord i.kind (i.execute accounts today)⟩

def process (text : Json) (accounts : Snapshot) (today : Date) : Except Text.TooLong Processed :=
  match Instruction.ofValue text with
  | .error fault => .ok ⟨.unrecognized fault.code, unrecognizedRecord fault⟩
  | .ok i => i.process accounts today

structure Step where
  text : Json
  today : Date
  apply : Bool

structure Turn where
  outcome : Outcome
  snapshot : Snapshot

def Step.run (step : Step) (accounts : Snapshot) : Except Text.TooLong Turn :=
  match process step.text accounts step.today with
  | .error e => .error e
  | .ok p =>
    .ok ⟨p.outcome, if step.apply then accounts.settle p.outcome.views else accounts⟩

def session (accounts : Snapshot) : List Step → Except Text.TooLong (List Turn)
  | [] => .ok []
  | step :: steps =>
    match step.run accounts with
    | .error e => .error e
    | .ok turn =>
      match session turn.snapshot steps with
      | .error e => .error e
      | .ok turns => .ok (turn :: turns)

end Remit
