import Mathlib.Data.Nat.Digits.Defs
import Remit.Grammar
import Remit.Proofs.Grammar.Position

/-! The rules of a sentence, said of its words without a scan of them. An instruction is stated by
words that satisfy all of them. Words that do not are refused for the first rule that they break,
in the order opening, amount, currency, keywords, their order, identifiers, date. -/

namespace Remit

/-- A numeral of 1 to 4300 ASCII digits with a positive value in base ten. -/
structure IsAmount (token : String) (n : Int) : Prop where
  nonempty : token ≠ ""
  digits : ∀ c ∈ token.toList, c.isDigit = true
  short : token.length ≤ 4300
  value : n = (Nat.ofDigitChars 10 token.toList 0 : Nat)
  positive : 0 < n

def IsAccountId (token : String) : Prop :=
  token ≠ "" ∧ ∀ c ∈ token.toList, c.isAlphanum = true ∨ c = '-' ∨ c = '.' ∨ c = '@'

structure Anchors where
  source : Nat
  target : Nat
  link : Nat
  opposite : Nat
  first : Nat
  second : Nat

section Rule

variable (ws : List String)

def capitalized : List String := ws.map Text.upper

def Opens (k : Kind) : Prop := (capitalized ws)[0]? = some k.name

/-- Where the keyword of the opposite kind counts: DEBIT at the last place, as a sentence may open
with it. -/
def OppositeAt : Kind → Nat → Prop
  | .debit, i => IsFirst (capitalized ws) "CREDIT" i
  | .credit, i => IsLast (capitalized ws) "DEBIT" i

structure Anchored (k : Kind) (a : Anchors) : Prop where
  source : IsFirst (capitalized ws) "FROM" a.source
  target : IsFirst (capitalized ws) "TO" a.target
  link : IsFirst (capitalized ws) "FOR" a.link
  opposite : OppositeAt ws k a.opposite
  first : IsFirst (capitalized ws) "ACCOUNT" a.first
  second : IsNext (capitalized ws) "ACCOUNT" a.first a.second

def Anchors.Ordered (a : Anchors) : Kind → Prop
  | .debit => 0 < a.source ∧ a.source < a.first ∧ a.first < a.link ∧ a.link < a.opposite ∧
      a.opposite < a.target ∧ a.target < a.second
  | .credit => 0 < a.target ∧ a.target < a.first ∧ a.first < a.link ∧ a.link < a.opposite ∧
      a.opposite < a.source ∧ a.source < a.second

def Dated : Option Date → Prop
  | none => ∀ i : Nat, (capitalized ws)[i]? ≠ some "ON"
  | some d => ∃ i, IsFirst (capitalized ws) "ON" i ∧ ws[i + 1]? = some d.iso ∧ 1000 ≤ d.year

def Instruction.SidesAre (i : Instruction Int) (first second : String) : Prop :=
  match i.kind with
  | .debit => i.debit = first ∧ i.credit = second
  | .credit => i.credit = first ∧ i.debit = second

structure States (i : Instruction Int) : Prop where
  opening : Opens ws i.kind
  amount : ∃ m, ws[1]? = some m ∧ IsAmount m i.amount
  currency : ∃ q, ws[2]? = some q ∧ i.currency = Text.upper q
  sides : ∃ a first second, Anchored ws i.kind a ∧ a.Ordered i.kind ∧
    ws[a.first + 1]? = some first ∧ ws[a.second + 1]? = some second ∧
    IsAccountId first ∧ IsAccountId second ∧ i.SidesAre first second
  date : Dated ws i.executeBy

/-- The rules in the order in which they count, each with the code for breaking it. -/
def rules (text : String) : List (Prop × String) :=
  [(text ≠ "", "SY03"),
    (∃ k, Opens ws k, "SY01"),
    (1 < ws.length, "SY03"),
    (∃ m n, ws[1]? = some m ∧ IsAmount m n, "AM01"),
    (2 < ws.length, "SY03"),
    (∃ k a, Opens ws k ∧ Anchored ws k a, "SY01"),
    (∃ k a, Opens ws k ∧ Anchored ws k a ∧ a.Ordered k, "SY02"),
    (∃ k a, Opens ws k ∧ Anchored ws k a ∧ a.second + 1 < ws.length, "SY03"),
    (∃ k a, Opens ws k ∧ Anchored ws k a ∧ ∃ first second, ws[a.first + 1]? = some first ∧
      ws[a.second + 1]? = some second ∧ IsAccountId first ∧ IsAccountId second, "AC04"),
    (∃ date, Dated ws date, "DT01")]

end Rule

def FirstBroken : List (Prop × String) → String → Prop
  | [], _ => False
  | (rule, code) :: others, c => ¬ rule ∧ c = code ∨ rule ∧ FirstBroken others c

theorem FirstBroken.unique {list : List (Prop × String)} {c d : String}
    (one : FirstBroken list c) (other : FirstBroken list d) : c = d := by
  induction list with
  | nil => exact one.elim
  | cons entry list ih =>
    rcases one with ⟨broken, rfl⟩ | ⟨kept, later⟩
    · exact (other.resolve_right fun h => broken h.1).2.symm
    · exact ih later (other.resolve_left fun h => h.1 kept).2

theorem FirstBroken.exists_broken {list : List (Prop × String)} {c : String}
    (broken : FirstBroken list c) : ¬ ∀ entry ∈ list, entry.1 := by
  induction list with
  | nil => exact broken.elim
  | cons entry list ih =>
    intro kept
    rcases broken with ⟨first, -⟩ | ⟨-, later⟩
    · exact first (kept entry List.mem_cons_self)
    · exact ih later fun e member => kept e (List.mem_cons_of_mem _ member)

theorem FirstBroken.append_iff {before after : List (Prop × String)} {code : String} :
    FirstBroken (before ++ after) code ↔
      FirstBroken before code ∨ (∀ entry ∈ before, entry.1) ∧ FirstBroken after code := by
  induction before with
  | nil => simp [FirstBroken]
  | cons entry before ih =>
    simp only [List.cons_append, FirstBroken, ih, List.forall_mem_cons]
    by_cases kept : entry.1
    · simp [kept]
    · simp [kept]

theorem FirstBroken.after_kept {before after : List (Prop × String)} {code : String}
    (broken : FirstBroken (before ++ after) code) (kept : ∀ entry ∈ before, entry.1) :
    FirstBroken after code := by
  rcases append_iff.mp broken with early | ⟨-, late⟩
  · exact absurd kept early.exists_broken
  · exact late

/-- A result that is accepted only with what the rules allow, and refused only with the code of the
first rule broken, is decided by the rules. -/
theorem FirstBroken.decides {α : Type} {result : Except SyntaxFault α} {holds : α → Prop}
    {list : List (Prop × String)} (accepted : ∀ v, result = .ok v → holds v)
    (refused : ∀ fault, result = .error fault → FirstBroken list fault.code.name)
    (kept : ∀ v, holds v → ∀ entry ∈ list, entry.1) (unique : ∀ v w, holds v → holds w → v = w) :
    (∀ code, (∃ fault, result = .error fault ∧ fault.code.name = code) ↔ FirstBroken list code) ∧
    (∀ v, result = .ok v ↔ holds v) ∧ ((∃ v, holds v) ↔ ∀ entry ∈ list, entry.1) := by
  cases result with
  | ok v =>
    have stated := accepted v rfl
    refine ⟨fun code => ⟨?_, fun broken => absurd (kept v stated) broken.exists_broken⟩,
      fun w => ⟨accepted w, fun other => congrArg _ (unique v w stated other)⟩,
      fun _ => kept v stated, fun _ => ⟨v, stated⟩⟩
    rintro ⟨fault, failed, -⟩
    cases failed
  | error fault =>
    have broken := refused fault rfl
    refine ⟨fun code => ⟨?_, fun other => ⟨fault, rfl, broken.unique other⟩⟩,
      fun w => ⟨accepted w, fun other => absurd (kept w other) broken.exists_broken⟩,
      fun ⟨w, stated⟩ => kept w stated, fun all => absurd all broken.exists_broken⟩
    rintro ⟨other, failed, rfl⟩
    exact refused other failed

section Rule

variable {ws : List String} {k : Kind} {a b : Anchors}

theorem getElem?_capitalized {i : Nat} {w : String} (found : ws[i]? = some w) :
    (capitalized ws)[i]? = some (Text.upper w) := by
  rw [capitalized, List.getElem?_map, found, Option.map_some]

theorem Kind.ofName?_name (k : Kind) : Kind.ofName? k.name = some k := by
  cases k <;> rfl

theorem Opens.unique {j : Kind} (one : Opens ws j) (other : Opens ws k) : j = k := by
  have same : j.name = k.name := Option.some.inj (one.symm.trans other)
  have read := congrArg Kind.ofName? same
  rw [Kind.ofName?_name, Kind.ofName?_name] at read
  exact Option.some.inj read

theorem Anchored.unique (one : Anchored ws k a) (other : Anchored ws k b) : a = b := by
  have source := one.source.unique other.source
  have target := one.target.unique other.target
  have link := one.link.unique other.link
  have first := one.first.unique other.first
  have second := one.second.unique (first ▸ other.second)
  have opposite : a.opposite = b.opposite := by
    cases k with
    | debit => exact IsFirst.unique one.opposite other.opposite
    | credit => exact IsLast.unique one.opposite other.opposite
  cases a
  cases b
  simp_all

/-- What a rule says of the kind and the anchors it says of the only ones there are. -/
theorem Anchored.exists_iff (opening : Opens ws k) (anchored : Anchored ws k a)
    {P : Kind → Anchors → Prop} : (∃ k a, Opens ws k ∧ Anchored ws k a ∧ P k a) ↔ P k a := by
  constructor
  · rintro ⟨j, b, opens, others, holds⟩
    cases opens.unique opening
    cases others.unique anchored
    exact holds
  · intro holds
    exact ⟨k, a, opening, anchored, holds⟩

end Rule

end Remit
