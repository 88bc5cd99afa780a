import Remit.Instruction
import Remit.Sentence
import Remit.Status

/-! The two shapes of an instruction:

    DEBIT amount currency FROM ACCOUNT id FOR CREDIT TO ACCOUNT id [ON date]
    CREDIT amount currency TO ACCOUNT id FOR DEBIT FROM ACCOUNT id [ON date]

The first ACCOUNT of a DEBIT names the debit side, that of a CREDIT the credit side. Words between
the parts are allowed: only the order of the keywords and the word after each of ACCOUNT, ACCOUNT
and ON are looked at. The first fault in the order kind, amount, currency, shape, account
identifiers, date is the one reported. -/

namespace Remit

inductive SyntaxFault where
  | missingKeyword | wrongKeywordOrder | malformed | invalidAmount | invalidDate | invalidAccountId
  deriving DecidableEq, Repr

def SyntaxFault.code : SyntaxFault → StatusCode
  | .missingKeyword => .missingKeyword
  | .wrongKeywordOrder => .wrongKeywordOrder
  | .malformed => .malformed
  | .invalidAmount => .invalidAmount
  | .invalidDate => .invalidDate
  | .invalidAccountId => .invalidAccountId

structure Sides where
  debit : String
  credit : String
  deriving DecidableEq, Repr

/-- The keywords of a shape in order, each with the number of earlier ones of its spelling. -/
def Kind.shape : Kind → List (Keyword × Nat)
  | .debit =>
    [(.fromWord, 0), (.accountWord, 0), (.forWord, 0), (.creditWord, 0), (.toWord, 0),
      (.accountWord, 1)]
  | .credit =>
    [(.toWord, 0), (.accountWord, 0), (.forWord, 0), (.debitWord, 0), (.fromWord, 0),
      (.accountWord, 1)]

def Kind.sides (k : Kind) (first second : String) : Sides :=
  match k with
  | .debit => ⟨first, second⟩
  | .credit => ⟨second, first⟩

def isAccountIdChar (c : Char) : Bool := c.isAlphanum || c == '-' || c == '.' || c == '@'

def isAccountId (s : String) : Bool := !s.toList.isEmpty && s.toList.all isAccountIdChar

def amountOfToken? (token : String) : Option Nat :=
  (Text.natOfDigits? token.toList).filter (0 < ·)

namespace Sentence

def anchors? (s : Sentence) (k : Kind) : Option (List Nat) :=
  k.shape.mapM fun (word, earlier) => (s.located word)[earlier]?

/-- The word after the first (0) or second (1) ACCOUNT. -/
def accountId? (s : Sentence) (n : Nat) : Option String :=
  (s.located .accountWord)[n]?.bind fun i => s.word? (i + 1)

/-- The accounts that a sentence names if it has the shape of the given kind. Its first word need
not be the kind's own keyword, but no anchor may stand there. -/
def sides (s : Sentence) (k : Kind) : Except SyntaxFault Sides :=
  match s.anchors? k with
  | none => .error .missingKeyword
  | some anchors =>
    if (0 :: anchors).Pairwise (· < ·) then
      match s.accountId? 0, s.accountId? 1 with
      | some first, some second => .ok (k.sides first second)
      | _, _ => .error .malformed
    else .error .wrongKeywordOrder

def kind (s : Sentence) : Except SyntaxFault Kind :=
  match s.capitals.head?.bind Kind.ofName? with
  | none => .error .missingKeyword
  | some k => .ok k

def amount (s : Sentence) : Except SyntaxFault Int :=
  match s.word? 1 with
  | none => .error .malformed
  | some token =>
    match amountOfToken? token with
    | none => .error .invalidAmount
    | some n => .ok n

def currency (s : Sentence) : Except SyntaxFault String :=
  match s.word? 2 with
  | none => .error .malformed
  | some token => .ok (Text.upper token)

def checkedSides (s : Sentence) (k : Kind) : Except SyntaxFault Sides :=
  match s.sides k with
  | .error e => .error e
  | .ok ids =>
    if isAccountId ids.debit && isAccountId ids.credit then .ok ids else .error .invalidAccountId

def executeBy (s : Sentence) : Except SyntaxFault (Option Date) :=
  match (s.located .onWord).head? with
  | none => .ok none
  | some i =>
    match (s.word? (i + 1)).bind Date.ofToken? with
    | none => .error .invalidDate
    | some d => .ok (some d)

def instruction (s : Sentence) : Except SyntaxFault (Instruction Int) := do
  let kind ← s.kind
  let amount ← s.amount
  let currency ← s.currency
  let ids ← s.checkedSides kind
  let executeBy ← s.executeBy
  return ⟨kind, amount, currency, ids.debit, ids.credit, executeBy⟩

end Sentence

/-- The instruction that a text states; the empty text lacks every field. -/
def Instruction.ofText (text : String) : Except SyntaxFault (Instruction Int) :=
  if text = "" then .error .malformed else (Sentence.ofText text).instruction

end Remit
