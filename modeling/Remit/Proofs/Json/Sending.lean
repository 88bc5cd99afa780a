import Mathlib.Data.List.GetD
import Mathlib.Tactic.SplitIfs
import Remit.Json.Obstacle
import Remit.Proofs.Text.Half

/-! Which documents can be sent. Nothing that is written but the texts and keys of a document can
hold half of a surrogate pair, and the compact form keeps each half that they hold. So a document
is kept back by its numbers or by a half in one of its texts or keys, and by nothing else. -/

namespace Remit.Json

open Text (Reads Unheralded hasHalf)

mutual

def holdsHalf : Json → Bool
  | .str s => hasHalf s
  | .arr items => itemsHoldHalf items
  | .obj fields => fieldsHoldHalf fields
  | _ => false

def itemsHoldHalf : List Json → Bool
  | [] => false
  | j :: js => holdsHalf j || itemsHoldHalf js

def fieldsHoldHalf : List (String × Json) → Bool
  | [] => false
  | (k, j) :: rest => hasHalf k || holdsHalf j || fieldsHoldHalf rest

end

section Numerals

open Binary64

theorem unheralded_natDigits (n : Nat) : Unheralded (natDigits n) := by
  intro c member
  have digits : (toString n).toList = Nat.toDigits 10 n := Nat.toList_repr
  rw [natDigits, digits] at member
  exact Text.ne_herald_of_isDigit (Nat.isDigit_of_mem_toDigits (by decide) (by decide) member)

theorem unheralded_zeros (n : Int) : Unheralded (zeros n) := by
  intro c member
  obtain rfl := List.eq_of_mem_replicate member
  decide

theorem unheralded_joinPoint {whole fraction : List Char} (front : Unheralded whole)
    (back : Unheralded fraction) (keep : Bool) : Unheralded (joinPoint keep whole fraction) := by
  unfold joinPoint
  split
  · exact front
  · exact front.append (List.forall_mem_cons.mpr ⟨by decide, back⟩)

theorem unheralded_pointed {digits : List Char} (plain : Unheralded digits) (place : Int) :
    Unheralded (pointed digits place).1 ∧ Unheralded (pointed digits place).2 := by
  unfold pointed
  split
  · have zero : Unheralded ['0'] := by decide
    exact ⟨zero, (unheralded_zeros _).append plain⟩
  · exact ⟨(plain.take _).append (unheralded_zeros _), plain.drop _⟩

theorem unheralded_scientific {digits : List Char} (plain : Unheralded digits) (keep : Bool)
    (place : Int) : Unheralded (scientific keep digits place) := by
  have sign : Unheralded ['e', if place ≤ 0 then '-' else '+'] := by
    split <;> decide
  have exponent := unheralded_natDigits (place - 1).natAbs
  have mantissa := unheralded_joinPoint (plain.take 1) (plain.drop 1) keep
  exact ((mantissa.append sign).append (unheralded_zeros _)).append exponent

theorem unheralded_numeral (m : Nat) (e : Int) : Unheralded (numeral m e).toList := by
  unfold numeral
  split
  · decide
  · dsimp only
    have plain := unheralded_natDigits (shortest m e).1
    split
    · obtain ⟨front, back⟩ := unheralded_pointed plain
        ((natDigits (shortest m e).1).length + (shortest m e).2)
      rw [String.toList_ofList]
      apply unheralded_joinPoint front
      split
      · decide
      · exact back
    · rw [String.toList_ofList]
      exact unheralded_scientific plain _ _

theorem unheralded_written (x : Binary64) : Unheralded x.written.toList := by
  cases x with
  | nan => decide
  | infinite negative => cases negative <;> decide
  | finite negative m e =>
    rw [written, String.toList_append]
    have sign : Unheralded (if negative then "-" else "").toList := by cases negative <;> decide
    exact sign.append (unheralded_numeral m e)

theorem unheralded_int (n : Int) : Unheralded (toString n).toList := by
  rw [Int.toString_eq_repr, Int.repr_eq_if]
  split
  · exact unheralded_natDigits _
  · rw [String.toList_append]
    have minus : Unheralded "-".toList := by decide
    exact minus.append (unheralded_natDigits _)

end Numerals

theorem unheralded_hex (width n : Nat) : Unheralded (Text.hex width n) := by
  have digits : Unheralded Text.hexDigits := by decide
  induction width generalizing n with
  | zero => exact nofun
  | succ width ih =>
    apply (ih (n / 16)).append
    intro c member
    have small : n % 16 < Text.hexDigits.length := Nat.mod_lt _ (by decide)
    rw [List.mem_singleton, List.getD_eq_getElem _ _ small] at member
    rw [member]
    exact digits _ (List.getElem_mem small)

theorem reads_compactEscape {n : Nat} (below : n < 0x110000) :
    Reads (compactEscape n) (Text.isHalf n) := by
  have ascii : ∀ {cs}, n < 128 → Unheralded cs → Reads cs (Text.isHalf n) := by
    intro cs low plain
    have whole : Text.isHalf n = false := Text.isHalf_eq_false.mpr (by omega)
    rw [whole]
    exact plain.reads
  -- all escapes are of ASCII code points, and only the last case can be a half
  unfold compactEscape
  split_ifs with special eight nine ten twelve thirteen control
  · rcases Bool.or_eq_true_iff.mp special with quote | backslash
    · obtain rfl := eq_of_beq quote
      exact ascii (by decide) (by decide)
    · obtain rfl := eq_of_beq backslash
      exact ascii (by decide) (by decide)
  · obtain rfl := eq_of_beq eight
    exact ascii (by decide) (by decide)
  · obtain rfl := eq_of_beq nine
    exact ascii (by decide) (by decide)
  · obtain rfl := eq_of_beq ten
    exact ascii (by decide) (by decide)
  · obtain rfl := eq_of_beq twelve
    exact ascii (by decide) (by decide)
  · obtain rfl := eq_of_beq thirteen
    exact ascii (by decide) (by decide)
  · have backslash : Unheralded ['\\', 'u'] := by decide
    exact ascii (by omega) (backslash.append (unheralded_hex 4 n))
  · exact Text.reads_ofPoint below

theorem reads_literal (s : String) : Reads (literal compactEscape s).toList (hasHalf s) := by
  have quote : Reads ['"'] false := Unheralded.reads (by decide)
  have below : ∀ n ∈ Text.points s.toList, n < 0x110000 := fun _ => Text.below_of_mem_points
  have inner := Reads.flatMap fun n member => reads_compactEscape (below n member)
  have whole := (quote.append inner).append quote
  rw [Bool.or_false, Bool.false_or] at whole
  rw [literal, String.toList_ofList]
  exact whole

mutual

theorem reads_render : ∀ j : Json, Reads (render compactEscape j).toList j.holdsHalf
  | .null => Unheralded.reads (by decide)
  | .bool b => Unheralded.reads (by cases b <;> decide)
  | .int n => (unheralded_int n).reads
  | .real x => (unheralded_written x).reads
  | .str s => reads_literal s
  | .arr items => by
    have inner := reads_renderItems items
    have opened : Reads "[".toList false := Unheralded.reads (by decide)
    have closed : Reads "]".toList false := Unheralded.reads (by decide)
    have whole := (opened.append inner).append closed
    rw [Bool.or_false, Bool.false_or, ← String.toList_append, ← String.toList_append] at whole
    exact whole
  | .obj fields => by
    have inner := reads_renderFields fields
    have opened : Reads "\x7b".toList false := Unheralded.reads (by decide)
    have closed : Reads "\x7d".toList false := Unheralded.reads (by decide)
    have whole := (opened.append inner).append closed
    rw [Bool.or_false, Bool.false_or, ← String.toList_append, ← String.toList_append] at whole
    exact whole

theorem reads_renderItems :
    ∀ js : List Json, Reads (renderItems compactEscape js).toList (itemsHoldHalf js)
  | [] => Reads.nil
  | [j] => by
    rw [itemsHoldHalf, itemsHoldHalf, Bool.or_false]
    exact reads_render j
  | j :: k :: js => by
    have comma : Reads ",".toList false := Unheralded.reads (by decide)
    have whole := ((reads_render j).append comma).append (reads_renderItems (k :: js))
    rw [Bool.or_false, ← String.toList_append, ← String.toList_append] at whole
    exact whole

theorem reads_renderFields : ∀ fields : List (String × Json),
    Reads (renderFields compactEscape fields).toList (fieldsHoldHalf fields)
  | [] => Reads.nil
  | [(k, j)] => by
    have colon : Reads ":".toList false := Unheralded.reads (by decide)
    have whole := ((reads_literal k).append colon).append (reads_render j)
    rw [Bool.or_false, ← String.toList_append, ← String.toList_append] at whole
    rw [fieldsHoldHalf, fieldsHoldHalf, Bool.or_false]
    exact whole
  | (k, j) :: next :: rest => by
    have colon : Reads ":".toList false := Unheralded.reads (by decide)
    have comma : Reads ",".toList false := Unheralded.reads (by decide)
    have field := ((reads_literal k).append colon).append (reads_render j)
    have whole := (field.append comma).append (reads_renderFields (next :: rest))
    simp only [Bool.or_false, ← String.toList_append] at whole
    exact whole

end

theorem halfObstacle?_eq_none {ns : List Nat} :
    halfObstacle? ns = none ↔ ns.any Text.isHalf = false := by
  have run : (ns.drop (ns.takeWhile fun n => !Text.isHalf n).length).takeWhile Text.isHalf = [] ↔
      ns.any Text.isHalf = false := by
    induction ns with
    | nil => simp
    | cons n ns ih =>
      cases half : Text.isHalf n with
      | true => simp [half]
      | false => simpa [half] using ih
  rw [← run]
  unfold halfObstacle?
  dsimp only
  split <;> simp_all

/-- Every integer has a written form, every other number is finite, and no text or key holds half
of a surrogate pair. -/
def Sendable (j : Json) : Prop := j.numberObstacle? = none ∧ j.holdsHalf = false

theorem obstacle?_eq_none {j : Json} : j.obstacle? = none ↔ j.Sendable := by
  rw [obstacle?, Option.or_eq_none_iff, halfObstacle?_eq_none, compact, (reads_render j).told,
    Sendable]

section Sendable

variable {n : Int} {s : String} {items : List Json} {fields : List (String × Json)}

@[simp] theorem sendable_null : Sendable .null := ⟨rfl, rfl⟩

@[simp] theorem sendable_int : Sendable (.int n) ↔ Text.Writable n := by
  simp [Sendable, numberObstacle?, holdsHalf]

@[simp] theorem sendable_str : Sendable (.str s) ↔ hasHalf s = false := by
  simp [Sendable, numberObstacle?, holdsHalf]

@[simp] theorem sendable_arr : Sendable (.arr items) ↔ ∀ j ∈ items, Sendable j := by
  simp only [Sendable, numberObstacle?, holdsHalf]
  induction items with
  | nil => simp [itemsObstacle?, itemsHoldHalf]
  | cons j js ih =>
    simp only [itemsObstacle?, itemsHoldHalf, Option.or_eq_none_iff, Bool.or_eq_false_iff,
      List.forall_mem_cons, ← ih]
    tauto

@[simp] theorem sendable_obj :
    Sendable (.obj fields) ↔ ∀ f ∈ fields, hasHalf f.1 = false ∧ Sendable f.2 := by
  simp only [Sendable, numberObstacle?, holdsHalf]
  induction fields with
  | nil => simp [fieldsObstacle?, fieldsHoldHalf]
  | cons f rest ih =>
    simp only [fieldsObstacle?, fieldsHoldHalf, Option.or_eq_none_iff, Bool.or_eq_false_iff,
      List.forall_mem_cons, ← ih]
    tauto

theorem sendable_append {others : List (String × Json)} :
    Sendable (.obj (fields ++ others)) ↔ Sendable (.obj fields) ∧ Sendable (.obj others) := by
  simp only [sendable_obj, List.forall_mem_append]

end Sendable

end Remit.Json
