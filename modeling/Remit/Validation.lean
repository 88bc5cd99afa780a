import Remit.Instruction
import Remit.Json.Basic
import Remit.Status

namespace Remit

inductive Refusal where
  | invalidAmount
  | accountNotFound (id : String)
  | sameAccount
  | unsupportedCurrency (currency : String)
  | accountCurrenciesDiffer (debit credit : Account)
  | instructionCurrencyDiffers (currency account : String)
  | insufficientFunds (debit : Account) (amount : Int) (currency : String)
  deriving DecidableEq, Repr

namespace Refusal

def code : Refusal → StatusCode
  | .invalidAmount => .invalidAmount
  | .accountNotFound _ => .accountNotFound
  | .sameAccount => .sameAccount
  | .unsupportedCurrency _ => .unsupportedCurrency
  | .accountCurrenciesDiffer .. | .instructionCurrencyDiffers .. => .currencyMismatch
  | .insufficientFunds .. => .insufficientFunds

def reason : Refusal → Except Text.TooLong String
  | .invalidAmount => .ok "Amount must be a positive integer"
  | .accountNotFound id => .ok ("Account not found: " ++ id)
  | .sameAccount => .ok "Debit and credit accounts cannot be the same"
  | .unsupportedCurrency currency =>
    .ok ("Unsupported currency " ++ currency ++ ". Only " ++ ", ".intercalate supportedCurrencies ++
      " are supported")
  | .accountCurrenciesDiffer debit credit =>
    .ok ("Account currency mismatch: " ++ debit.id ++ " has " ++ debit.currency ++ ", " ++
      credit.id ++ " has " ++ credit.currency)
  | .instructionCurrencyDiffers currency account =>
    .ok ("Instruction currency " ++ currency ++ " does not match account currency " ++ account)
  | .insufficientFunds debit amount currency => do
    let balance ← Text.decimal? debit.balance
    let needed ← Text.decimal? amount
    return "Insufficient funds in account " ++ debit.id ++ ": has " ++ balance ++ " " ++
      debit.currency ++ ", needs " ++ needed ++ " " ++ currency

end Refusal

/-- A positive integer; a truth value is none, nor is a number with a fraction or exponent. -/
def positiveInt? : Json → Option Int
  | .int n => if 0 < n then some n else none
  | _ => none

def checkAmount (amount : Json) : Except Refusal Int :=
  match positiveInt? amount with
  | none => .error .invalidAmount
  | some n => .ok n

def checkAccounts (i : Instruction Int) (debit credit : Account) : Except Refusal Unit :=
  if debit.id = credit.id then .error .sameAccount
  else if i.currency ∉ supportedCurrencies then .error (.unsupportedCurrency i.currency)
  else if debit.currency ≠ credit.currency then .error (.accountCurrenciesDiffer debit credit)
  else if debit.currency ≠ i.currency then
    .error (.instructionCurrencyDiffers i.currency debit.currency)
  else if debit.balance < i.amount then .error (.insufficientFunds debit i.amount i.currency)
  else .ok ()

def validate (i : Instruction Json) (accounts : Snapshot) : Except Refusal Unit :=
  match checkAmount i.amount with
  | .error e => .error e
  | .ok amount =>
    match accounts.resolve i.debit with
    | none => .error (.accountNotFound i.debit)
    | some debit =>
      match accounts.resolve i.credit with
      | none => .error (.accountNotFound i.credit)
      | some credit => checkAccounts (i.withAmount amount) debit credit

end Remit
