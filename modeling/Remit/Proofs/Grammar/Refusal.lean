import Remit.Proofs.Grammar.Reading

namespace Remit

variable {text : String} {ws : List String} {k : Kind} {a : Anchors} {fault : SyntaxFault}

theorem SyntaxFault.eq_of_name {f g : SyntaxFault} (same : f.code.name = g.code.name) : f = g := by
  cases f <;> cases g <;> first | rfl | exact absurd same (by decide)

theorem ofText_eq_error : Instruction.ofText text = .error fault ↔
    FirstBroken (rules (Text.words text) text) fault.code.name := by
  constructor
  · exact firstBroken_of_ofText
  · intro broken
    cases result : Instruction.ofText text with
    | ok i => exact absurd (states_of_ofText result).keeps_rules broken.exists_broken
    | error found =>
      rw [SyntaxFault.eq_of_name ((firstBroken_of_ofText result).unique broken)]

structure HasKeywords (ws : List String) (k : Kind) : Prop where
  near : k.near.spelling ∈ capitalized ws
  link : "FOR" ∈ capitalized ws
  other : k.other.spelling ∈ capitalized ws
  far : k.far.spelling ∈ capitalized ws
  accounts : ∃ i j : Nat, i < j ∧ (capitalized ws)[i]? = some "ACCOUNT" ∧
    (capitalized ws)[j]? = some "ACCOUNT"

theorem exists_oppositeAt (occurs : k.other.spelling ∈ capitalized ws) :
    ∃ i, OppositeAt ws k i := by
  obtain ⟨j, found⟩ := List.mem_iff_getElem?.mp occurs
  cases k with
  | debit =>
    obtain ⟨i, -, first⟩ := exists_isFirst found
    exact ⟨i, first⟩
  | credit => exact exists_isLast found

theorem exists_anchored_iff : (∃ a, Anchored ws k a) ↔ HasKeywords ws k := by
  constructor
  · rintro ⟨a, anchored⟩
    exact ⟨List.mem_of_getElem? anchored.near.1, List.mem_of_getElem? anchored.link.1,
      List.mem_of_getElem? anchored.opposite.spelled, List.mem_of_getElem? anchored.far.1,
      a.first, a.second, anchored.second.2.1, anchored.first.1, anchored.second.1⟩
  · rintro ⟨near, link, other, far, i, j, before, one, two⟩
    obtain ⟨_, near⟩ := List.mem_iff_getElem?.mp near
    obtain ⟨_, link⟩ := List.mem_iff_getElem?.mp link
    obtain ⟨_, far⟩ := List.mem_iff_getElem?.mp far
    obtain ⟨_, -, near⟩ := exists_isFirst near
    obtain ⟨_, -, link⟩ := exists_isFirst link
    obtain ⟨_, -, far⟩ := exists_isFirst far
    obtain ⟨_, opposite⟩ := exists_oppositeAt other
    obtain ⟨first, le, least⟩ := exists_isFirst one
    obtain ⟨_, second⟩ := exists_isNext (Nat.lt_of_le_of_lt le before) two
    exact ⟨_, anchored_ofShape near least link opposite far second⟩

/-- What is left to check once the anchors are found. -/
def lateRules (ws : List String) (k : Kind) (a : Anchors) : List (Prop × String) :=
  [(a.Ordered k, "SY02"),
    (a.second + 1 < ws.length, "SY03"),
    (∃ first second, ws[a.first + 1]? = some first ∧ ws[a.second + 1]? = some second ∧
      IsAccountId first ∧ IsAccountId second, "AC04"),
    (∃ date, Dated ws date, "DT01")]

theorem firstBroken_of_anchored {code : String} (nonempty : text ≠ "") (opening : Opens ws k)
    (amount : ∃ m n, ws[1]? = some m ∧ IsAmount m n) (long : 2 < ws.length)
    (anchored : Anchored ws k a) :
    FirstBroken (rules ws text) code ↔ FirstBroken (lateRules ws k a) code := by
  have opens : ∃ k, Opens ws k := ⟨k, opening⟩
  have located : ∃ k a, Opens ws k ∧ Anchored ws k a := ⟨k, a, opening, anchored⟩
  have two : 1 < ws.length := by omega
  have ordered := anchored.exists_iff opening (P := fun k a => a.Ordered k)
  have followed := anchored.exists_iff opening (P := fun _ a => a.second + 1 < ws.length)
  have named := anchored.exists_iff opening (P := fun _ a => ∃ first second,
    ws[a.first + 1]? = some first ∧ ws[a.second + 1]? = some second ∧
      IsAccountId first ∧ IsAccountId second)
  simp only [rules, lateRules, FirstBroken, ne_eq, nonempty, not_false_eq_true, opens, amount, two,
    long, located, ordered, followed, named, not_true_eq_false, false_and, true_and, false_or]

end Remit
