import Mathlib.Data.List.Basic
import Remit.Proofs.Text.Ascii
import Remit.Text.Half

/-! Which texts hold half of a surrogate pair, part by part. A herald takes the character after it
as its mark, so that the code points of a text are those of its parts only where no part ends with
a herald whose mark is missing. Every part that a document writes is of that kind. -/

namespace Remit.Text

theorem points_cons {c : Char} (other : c ≠ herald) (cs : List Char) :
    points (c :: cs) = c.toNat :: points cs := by
  cases cs with
  | nil => rfl
  | cons m cs => simp [points, other]

theorem points_herald (m : Char) (cs : List Char) :
    points (herald :: m :: cs) = pointOfMark m :: points cs := by
  simp [points]

theorem isHalf_iff {n : Nat} : isHalf n = true ↔ 0xD800 ≤ n ∧ n ≤ 0xDFFF := by
  simp only [isHalf, isHigh, isLow, Bool.or_eq_true, Bool.and_eq_true, decide_eq_true_eq]
  omega

theorem isHalf_eq_false {n : Nat} : isHalf n = false ↔ n < 0xD800 ∨ 0xDFFF < n := by
  rw [← Bool.not_eq_true, isHalf_iff]
  omega

theorem toNat_valid (c : Char) :
    c.toNat < 0xD800 ∨ 0xDFFF < c.toNat ∧ c.toNat < 0x110000 := c.valid

theorem isHalf_toNat (c : Char) : isHalf c.toNat = false := by
  have valid := toNat_valid c
  exact isHalf_eq_false.mpr (by omega)

theorem toNat_ofNat {n : Nat} (below : n < 0x110000) (whole : isHalf n = false) :
    (Char.ofNat n).toNat = n := by
  have apart := isHalf_eq_false.mp whole
  have valid : n.isValidChar := by
    simp only [Nat.isValidChar]
    omega
  rw [Char.ofNat, dif_pos valid]
  rfl

/-- Characters whose code points do not depend on what follows them, with or without a half among
these. -/
structure Reads (cs : List Char) (half : Bool) : Prop where
  parted : ∀ rest, points (cs ++ rest) = points cs ++ points rest
  told : (points cs).any isHalf = half

namespace Reads

variable {cs ds : List Char} {a b : Bool}

theorem nil : Reads [] false := ⟨fun _ => rfl, rfl⟩

theorem append (one : Reads cs a) (other : Reads ds b) : Reads (cs ++ ds) (a || b) := by
  constructor
  · intro rest
    rw [List.append_assoc, one.parted, other.parted, one.parted, List.append_assoc]
  · rw [one.parted, List.any_append, one.told, other.told]

theorem flatMap {f : Nat → List Char} {ns : List Nat}
    (each : ∀ n ∈ ns, Reads (f n) (isHalf n)) : Reads (ns.flatMap f) (ns.any isHalf) := by
  induction ns with
  | nil => exact nil
  | cons n ns ih =>
    obtain ⟨first, others⟩ := List.forall_mem_cons.mp each
    rw [List.flatMap_cons, List.any_cons]
    exact first.append (ih others)

end Reads

def Unheralded (cs : List Char) : Prop := ∀ c ∈ cs, c ≠ herald

instance (cs : List Char) : Decidable (Unheralded cs) :=
  decidable_of_iff (cs.all (· != herald) = true) (by simp [Unheralded])

theorem ne_herald {c : Char} (ascii : c.toNat < 128) : c ≠ herald := by
  rintro rfl
  exact absurd ascii (by decide)

theorem ne_herald_of_isDigit {c : Char} (digit : c.isDigit = true) : c ≠ herald := by
  obtain ⟨-, upper⟩ := toNat_of_isDigit digit
  exact ne_herald (by omega)

namespace Unheralded

variable {cs ds : List Char}

theorem append (one : Unheralded cs) (other : Unheralded ds) : Unheralded (cs ++ ds) :=
  List.forall_mem_append.mpr ⟨one, other⟩

theorem take (plain : Unheralded cs) (n : Nat) : Unheralded (cs.take n) :=
  fun c member => plain c (List.mem_of_mem_take member)

theorem drop (plain : Unheralded cs) (n : Nat) : Unheralded (cs.drop n) :=
  fun c member => plain c (List.mem_of_mem_drop member)

theorem reads (plain : Unheralded cs) : Reads cs false := by
  induction cs with
  | nil => exact Reads.nil
  | cons c cs ih =>
    obtain ⟨first, others⟩ := List.forall_mem_cons.mp plain
    have later := ih others
    constructor
    · intro rest
      rw [List.cons_append, points_cons first, points_cons first, later.parted, List.cons_append]
    · rw [points_cons first, List.any_cons, isHalf_toNat, later.told, Bool.false_or]

end Unheralded

theorem hasHalf_of_unheralded {s : String} (plain : Unheralded s.toList) : hasHalf s = false :=
  plain.reads.told

theorem pointOfMark_mark {n : Nat} (marked : isHalf n = true ∨ n = herald.toNat) :
    pointOfMark (mark n) = n := by
  by_cases half : isHalf n = true
  · obtain ⟨lower, upper⟩ := isHalf_iff.mp half
    have spelled : (mark n).toNat = 0xF0000 + (n - 0xD800) := by
      rw [mark, if_pos half]
      exact toNat_ofNat (by omega) (isHalf_eq_false.mpr (by omega))
    have own : (mark n).toNat ≠ 0xF0800 := by omega
    rw [pointOfMark, if_neg (by simpa using own), spelled]
    omega
  · obtain rfl := marked.resolve_left half
    decide

theorem below_of_mem_points {cs : List Char} {n : Nat} (member : n ∈ points cs) :
    n < 0x110000 := by
  have single : ∀ c : Char, c.toNat < 0x110000 := fun c => by
    have valid := toNat_valid c
    omega
  -- a herald with its mark, any other character, and a list too short for a mark
  induction cs using points.induct with
  | case1 c m cs heralded ih =>
    obtain rfl : c = herald := by simpa using heralded
    rw [points_herald, List.mem_cons] at member
    rcases member with rfl | later
    · have bound := single m
      unfold pointOfMark
      split
      · exact single herald
      · omega
    · exact ih later
  | case2 c m cs unheralded ih =>
    rw [points_cons (by simpa using unheralded), List.mem_cons] at member
    rcases member with rfl | later
    · exact single c
    · exact ih later
  | case3 cs short =>
    have mapped : points cs = cs.map Char.toNat := by
      unfold points
      split
      · exact absurd rfl (short _ _ _)
      · rfl
    rw [mapped] at member
    obtain ⟨c, -, rfl⟩ := List.mem_map.mp member
    exact single c

theorem reads_ofPoint {n : Nat} (below : n < 0x110000) : Reads (ofPoint n) (isHalf n) := by
  -- halves and the herald are held with a mark, any other code point as its character
  by_cases marked : isHalf n = true ∨ n = herald.toNat
  · have spelled : ofPoint n = [herald, mark n] := by
      unfold ofPoint
      exact if_pos (by simpa using marked)
    have read : ∀ rest, points (ofPoint n ++ rest) = n :: points rest := fun rest => by
      rw [spelled, List.cons_append, List.singleton_append, points_herald,
        pointOfMark_mark marked]
    have own : points (ofPoint n) = [n] := by
      have alone := read []
      rwa [List.append_nil] at alone
    constructor
    · intro rest
      rw [read, own, List.singleton_append]
    · rw [own, List.any_cons, List.any_nil, Bool.or_false]
  · have spelled : ofPoint n = [Char.ofNat n] := by
      unfold ofPoint
      exact if_neg (by simpa using marked)
    obtain ⟨half, apart⟩ := not_or.mp marked
    have whole : isHalf n = false := Bool.not_eq_true _ ▸ half
    have value := toNat_ofNat below whole
    have plain : Unheralded [Char.ofNat n] := by
      intro c member same
      rw [List.mem_singleton.mp member] at same
      exact apart (by rw [← value, same])
    rw [spelled, whole]
    exact plain.reads

end Remit.Text
