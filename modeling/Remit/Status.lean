namespace Remit

inductive Status where
  | failed | pending | successful
  deriving DecidableEq, Repr

def Status.name : Status → String
  | .failed => "failed"
  | .pending => "pending"
  | .successful => "successful"

def Status.ofName? (s : String) : Option Status :=
  [Status.failed, .pending, .successful].find? (·.name == s)

inductive StatusCode where
  | missingKeyword | wrongKeywordOrder | malformed | invalidAmount | invalidDate | invalidAccountId
  | accountNotFound | sameAccount | unsupportedCurrency | currencyMismatch | insufficientFunds
  | scheduled | executed
  deriving DecidableEq, Repr

namespace StatusCode

def all : List StatusCode :=
  [.missingKeyword, .wrongKeywordOrder, .malformed, .invalidAmount, .invalidDate,
    .invalidAccountId, .accountNotFound, .sameAccount, .unsupportedCurrency, .currencyMismatch,
    .insufficientFunds, .scheduled, .executed]

def name : StatusCode → String
  | .missingKeyword => "SY01"
  | .wrongKeywordOrder => "SY02"
  | .malformed => "SY03"
  | .invalidAmount => "AM01"
  | .invalidDate => "DT01"
  | .invalidAccountId => "AC04"
  | .accountNotFound => "AC03"
  | .sameAccount => "AC02"
  | .unsupportedCurrency => "CU02"
  | .currencyMismatch => "CU01"
  | .insufficientFunds => "AC01"
  | .scheduled => "AP02"
  | .executed => "AP00"

def ofName? (s : String) : Option StatusCode := all.find? (·.name == s)

def message : StatusCode → String
  | .missingKeyword => "Missing or unrecognized instruction keyword"
  | .wrongKeywordOrder => "Instruction keywords are in the wrong order"
  | .malformed => "Malformed instruction: a required field is missing"
  | .invalidAmount => "Amount must be a positive integer"
  | .invalidDate => "Invalid execution date. Expected format YYYY-MM-DD"
  | .invalidAccountId => "Account ID may only contain letters, numbers, hyphens, periods and @"
  | .accountNotFound => "Account not found"
  | .sameAccount => "Debit and credit accounts cannot be the same"
  | .unsupportedCurrency => "Unsupported currency. Only NGN, USD, GBP, GHS are supported"
  | .currencyMismatch => "Currency mismatch between accounts and instruction"
  | .insufficientFunds => "Insufficient funds in debit account"
  | .scheduled => "Transaction scheduled for future execution"
  | .executed => "Transaction executed successfully"

def isSyntactic : StatusCode → Bool
  | .missingKeyword | .wrongKeywordOrder | .malformed | .invalidAmount | .invalidDate
  | .invalidAccountId => true
  | _ => false

end StatusCode

end Remit
