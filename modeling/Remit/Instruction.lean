import Remit.Date

/-! Accounts, snapshots of them, and instructions to move an amount between two. A snapshot may list
an identifier more than once; the first entry is the account that the identifier resolves to. -/

namespace Remit

structure Account where
  id : String
  balance : Int
  currency : String
  deriving DecidableEq, Repr

abbrev Snapshot := List Account

def Snapshot.resolve (accounts : Snapshot) (id : String) : Option Account :=
  accounts.find? (·.id == id)

def supportedCurrencies : List String := ["NGN", "USD", "GBP", "GHS"]

inductive Kind where
  | debit | credit
  deriving DecidableEq, Repr

def Kind.name : Kind → String
  | .debit => "DEBIT"
  | .credit => "CREDIT"

def Kind.ofName? : String → Option Kind
  | "DEBIT" => some .debit
  | "CREDIT" => some .credit
  | _ => none

/-- An instruction whose amount is of type `α`: an integer once it is known to be one. -/
structure Instruction (α : Type) where
  kind : Kind
  amount : α
  currency : String
  debit : String
  credit : String
  executeBy : Option Date
  deriving DecidableEq

def Instruction.withAmount {α β : Type} (i : Instruction α) (amount : β) : Instruction β :=
  ⟨i.kind, amount, i.currency, i.debit, i.credit, i.executeBy⟩

end Remit
