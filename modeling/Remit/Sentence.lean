import Remit.Text.Word

/-! The keywords of an instruction, and a text as a sequence of words in which they stand. Most
keywords count where they first occur. DEBIT counts where it last occurs, because a sentence may
open with it, and ACCOUNT counts everywhere. -/

namespace Remit

inductive Keyword where
  | fromWord | toWord | forWord | creditWord | debitWord | onWord | accountWord
  deriving DecidableEq, Repr

def Keyword.all : List Keyword :=
  [.fromWord, .toWord, .forWord, .creditWord, .debitWord, .onWord, .accountWord]

def Keyword.spelling : Keyword → String
  | .fromWord => "FROM"
  | .toWord => "TO"
  | .forWord => "FOR"
  | .creditWord => "CREDIT"
  | .debitWord => "DEBIT"
  | .onWord => "ON"
  | .accountWord => "ACCOUNT"

/-- The words of a text. A text with no word has one empty word. -/
structure Sentence where
  tokens : List String
  deriving DecidableEq, Repr

namespace Sentence

def ofText (text : String) : Sentence :=
  match Text.words text with
  | [] => ⟨[""]⟩
  | ws => ⟨ws⟩

def capitals (s : Sentence) : List String := s.tokens.map Text.upper

def normalized (s : Sentence) : String := " ".intercalate s.tokens

/-- The word at a position; the empty word is none. -/
def word? (s : Sentence) (i : Nat) : Option String := s.tokens[i]?.filter (· ≠ "")

/-- The word at a position that may be negative, where no word stands. -/
def wordAt? (s : Sentence) : Int → Option String
  | .ofNat i => s.word? i
  | .negSucc _ => none

def occurrences (s : Sentence) (k : Keyword) : List Nat :=
  (s.capitals.zipIdx.filter (·.1 == k.spelling)).map (·.2)

def located (s : Sentence) (k : Keyword) : List Nat :=
  match k with
  | .accountWord => s.occurrences k
  | .debitWord => (s.occurrences k).getLast?.toList
  | _ => (s.occurrences k).head?.toList

end Sentence

end Remit
