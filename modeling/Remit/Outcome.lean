import Remit.Instruction
import Remit.Json.Basic
import Remit.Status

/-! Outcomes: what is reported of a processed instruction, and the snapshot that results. An
account is reported by its balances before and after; the balances are those of the account that
the identifier resolves to. -/

namespace Remit

structure View where
  id : String
  balance : Int
  balanceBefore : Int
  currency : String
  deriving DecidableEq, Repr

structure Outcome where
  status : Status
  code : StatusCode
  instruction : Option (Instruction Int)
  views : List View
  deriving DecidableEq

namespace Instruction

def change? (i : Instruction Int) (id : String) : Option Int :=
  if id = i.credit then some i.amount
  else if id = i.debit then some (-i.amount)
  else none

def view? (i : Instruction Int) (accounts : Snapshot) (transfer : Bool) (entry : Account) :
    Option View :=
  match i.change? entry.id, accounts.resolve entry.id with
  | some change, some a =>
    some ⟨a.id, if transfer then a.balance + change else a.balance, a.balance, a.currency⟩
  | _, _ => none

def views (i : Instruction Int) (accounts : Snapshot) (transfer : Bool) : List View :=
  accounts.filterMap (i.view? accounts transfer)

end Instruction

def isPending (executeBy : Option Date) (today : Date) : Bool :=
  match executeBy with
  | none => false
  | some d => decide (today < d)

/-- Carries an instruction out, or leaves it for its date. The instruction is taken as valid. -/
def Instruction.execute (i : Instruction Int) (accounts : Snapshot) (today : Date) : Outcome :=
  if isPending i.executeBy today then
    ⟨.pending, .scheduled, some i, i.views accounts false⟩
  else ⟨.successful, .executed, some i, i.views accounts true⟩

namespace Outcome

def unrecognized (code : StatusCode) : Outcome := ⟨.failed, code, none, []⟩

def refused (i : Instruction Int) (accounts : Snapshot) (code : StatusCode) : Outcome :=
  ⟨.failed, code, some i, i.views accounts false⟩

def reason (o : Outcome) : String := o.code.message

def isFailed (o : Outcome) : Bool := o.status == .failed

end Outcome

def lastView? (views : List View) (id : String) : Option View :=
  views.reverse.find? (·.id == id)

def Account.settle (a : Account) (views : List View) : Account :=
  match lastView? views a.id with
  | none => a
  | some v => { a with balance := v.balance }

def Snapshot.settle (accounts : Snapshot) (views : List View) : Snapshot :=
  accounts.map (·.settle views)

def Account.toJson (a : Account) : Json :=
  .obj [("id", .str a.id), ("balance", .int a.balance), ("currency", .str a.currency)]

def Instruction.fields (i : Instruction Int) : List (String × Json) :=
  [("type", .str i.kind.name), ("amount", .int i.amount), ("currency", .str i.currency),
    ("debit_account", .str i.debit), ("credit_account", .str i.credit),
    ("execute_by", Json.ofString? (i.executeBy.map Date.iso))]

def noFields : List (String × Json) :=
  [("type", .null), ("amount", .null), ("currency", .null), ("debit_account", .null),
    ("credit_account", .null), ("execute_by", .null)]

def View.toJson (v : View) : Json :=
  .obj [("id", .str v.id), ("balance", .int v.balance), ("balance_before", .int v.balanceBefore),
    ("currency", .str v.currency)]

/-- One form for every outcome, whichever stage it comes from. -/
def Outcome.toJson (o : Outcome) : Json :=
  .obj (o.instruction.elim noFields Instruction.fields ++
    [("status", .str o.status.name), ("status_code", .str o.code.name),
      ("status_reason", .str o.reason), ("accounts", .arr (o.views.map View.toJson))])

end Remit
