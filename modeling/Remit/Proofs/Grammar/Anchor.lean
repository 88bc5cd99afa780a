import Remit.Proofs.Grammar.Rule

/-! The anchors of both shapes in one form. A shape is the other with the keywords of its two
accounts exchanged, so what is proved of the keyword near the opening and of the one far from it
is proved of both. -/

namespace Remit

namespace Kind

/-- The keyword in front of the first account of a sentence, where `far` is in front of the
second and `other` between them. -/
def near : Kind → Keyword
  | .debit => .fromWord
  | .credit => .toWord

def far : Kind → Keyword
  | .debit => .toWord
  | .credit => .fromWord

def other : Kind → Keyword
  | .debit => .creditWord
  | .credit => .debitWord

theorem shape_eq (k : Kind) : k.shape = [(k.near, 0), (.accountWord, 0), (.forWord, 0),
    (k.other, 0), (k.far, 0), (.accountWord, 1)] := by
  cases k <;> rfl

theorem near_ne_debit (k : Kind) : k.near ≠ .debitWord := by
  cases k <;> decide

theorem far_ne_debit (k : Kind) : k.far ≠ .debitWord := by
  cases k <;> decide

end Kind

namespace Anchors

def near (a : Anchors) : Kind → Nat
  | .debit => a.source
  | .credit => a.target

def far (a : Anchors) : Kind → Nat
  | .debit => a.target
  | .credit => a.source

def inOrder (a : Anchors) (k : Kind) : List Nat :=
  [a.near k, a.first, a.link, a.opposite, a.far k, a.second]

def ofShape (near first link opposite far second : Nat) : Kind → Anchors
  | .debit => ⟨near, far, link, opposite, first, second⟩
  | .credit => ⟨far, near, link, opposite, first, second⟩

variable {a : Anchors} {k : Kind}

theorem ordered_iff_near : a.Ordered k ↔ 0 < a.near k ∧ a.near k < a.first ∧
    a.first < a.link ∧ a.link < a.opposite ∧ a.opposite < a.far k ∧ a.far k < a.second := by
  cases k <;> rfl

theorem ordered_iff : (0 :: a.inOrder k).Pairwise (· < ·) ↔ a.Ordered k := by
  rw [ordered_iff_near]
  simp only [inOrder, List.pairwise_cons, List.forall_mem_cons]
  simp
  omega

theorem Ordered.first_lt_second (ordered : a.Ordered k) : a.first < a.second := by
  obtain ⟨-, -, link, opposite, far, second⟩ := ordered_iff_near.mp ordered
  omega

theorem ordered_ofShape {near first link opposite far second : Nat} :
    (ofShape near first link opposite far second k).Ordered k ↔ 0 < near ∧ near < first ∧
      first < link ∧ link < opposite ∧ opposite < far ∧ far < second := by
  cases k <;> rfl

end Anchors

section Anchored

variable {ws : List String} {k : Kind} {a : Anchors}

theorem OppositeAt.spelled {i : Nat} (placed : OppositeAt ws k i) :
    (capitalized ws)[i]? = some k.other.spelling := by
  cases k with
  | debit => exact placed.1
  | credit => exact placed.1

theorem Anchored.near (anchored : Anchored ws k a) :
    IsFirst (capitalized ws) k.near.spelling (a.near k) := by
  cases k
  · exact anchored.source
  · exact anchored.target

theorem Anchored.far (anchored : Anchored ws k a) :
    IsFirst (capitalized ws) k.far.spelling (a.far k) := by
  cases k
  · exact anchored.target
  · exact anchored.source

theorem anchored_ofShape {n first link opposite f second : Nat}
    (near : IsFirst (capitalized ws) k.near.spelling n)
    (one : IsFirst (capitalized ws) "ACCOUNT" first)
    (linked : IsFirst (capitalized ws) "FOR" link) (between : OppositeAt ws k opposite)
    (far : IsFirst (capitalized ws) k.far.spelling f)
    (two : IsNext (capitalized ws) "ACCOUNT" first second) :
    Anchored ws k (.ofShape n first link opposite f second k) := by
  cases k
  · exact ⟨near, far, linked, between, one, two⟩
  · exact ⟨far, near, linked, between, one, two⟩

end Anchored

end Remit
