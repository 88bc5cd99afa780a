import Mathlib.Data.List.Infix
import Remit.Proofs.Text.Half
import Remit.Text.Word

/-! Which words have a capital form of ASCII letters. Two letters outside ASCII have a single such
letter as their capital form, the dotless i and the long s, and seven sequences of such letters are
the capital form of one character. A word whose capital form holds none of these sequences is
therefore written with as many letters, each of ASCII or one of the two. No character is lost: each
has a capital form. -/

namespace Remit.Text

/-- The letter of ASCII with the same capital form, for the two other letters that have one. -/
def twin (c : Char) : Char :=
  if c = 'ı' then 'i' else if c = 'ſ' then 's' else c

def ligatures : List (List Char) :=
  [['S', 'S'], ['F', 'F'], ['F', 'I'], ['F', 'L'], ['F', 'F', 'I'], ['F', 'F', 'L'], ['S', 'T']]

theorem isUpper_bounds {c : Char} (letter : c.isUpper = true) : 65 ≤ c.toNat ∧ c.toNat ≤ 90 :=
  of_decide_eq_true letter

theorem isUpper_of_above {c : Char} (above : 128 ≤ c.toNat) : c.isUpper = false := by
  rw [Bool.eq_false_iff]
  intro letter
  have bounds := isUpper_bounds letter
  omega

theorem isUpper_ofNat {n : Nat} (above : 128 ≤ n) : (Char.ofNat n).isUpper = false := by
  by_cases valid : n < 0x110000 ∧ isHalf n = false
  · apply isUpper_of_above
    rwa [toNat_ofNat valid.1 valid.2]
  · have none : ¬ n.isValidChar := by
      rw [isHalf_eq_false] at valid
      simp only [Nat.isValidChar]
      omega
    rw [Char.ofNat, dif_neg none]
    rfl

theorem expansions_lettered : ∀ e ∈ caseExpansions,
    (e.2.map Char.ofNat).all Char.isUpper = false ∨ e.2.map Char.ofNat ∈ ligatures := by
  decide +kernel

theorem runs_lettered : ∀ r ∈ caseRuns,
    128 ≤ r.first + r.shift ∨ r.first = r.last ∧ (r.first = 0x131 ∨ r.first = 0x17F) := by
  decide +kernel

theorem upperFromTable_lettered {c : Char} (above : 128 ≤ c.toNat) (other : c ≠ 'ı' ∧ c ≠ 'ſ')
    (letters : (upperFromTable c.toNat).all Char.isUpper = true) :
    upperFromTable c.toNat ∈ ligatures := by
  unfold upperFromTable at letters ⊢
  split at letters
  · rename_i n capitals listed
    have entry := expansions_lettered _ (List.mem_of_find?_eq_some listed)
    exact entry.resolve_left (by rw [letters]; decide)
  · split at letters
    · rename_i r listed
      have held := List.find?_some listed
      simp only [CaseRun.holds, Bool.and_eq_true, decide_eq_true_eq] at held
      rcases runs_lettered r (List.mem_of_find?_eq_some listed) with outside | ⟨single, letter⟩
      · simp [isUpper_ofNat (n := (c.toNat + r.shift).toNat) (by omega)] at letters
      · -- a run of one of the two letters alone
        have own : c = Char.ofNat r.first := by
          rw [← Char.ofNat_toNat c]
          congr 1
          omega
        rcases letter with dotless | long
        · rw [dotless] at own
          exact absurd own other.1
        · rw [long] at own
          exact absurd own other.2
    · simp [isUpper_of_above above] at letters

/-- A character whose capital form is made of letters of ASCII. -/
theorem upperChar_lettered {c : Char} (letters : (upperChar c).all Char.isUpper = true) :
    upperChar c = [(twin c).toUpper] ∨ upperChar c ∈ ligatures := by
  by_cases dotless : c = 'ı'
  · subst dotless
    exact .inl (by decide +kernel)
  by_cases long : c = 'ſ'
  · subst long
    exact .inl (by decide +kernel)
  unfold upperChar at letters ⊢
  split at letters
  · rename_i ascii
    rw [if_pos ascii, twin, if_neg dotless, if_neg long]
    exact .inl rfl
  · rename_i above
    rw [if_neg above]
    exact .inr (upperFromTable_lettered (Nat.le_of_not_lt above) ⟨dotless, long⟩ letters)

/-- Letters of ASCII that no single character has as its capital form, nor a part of them. -/
def IsPlain (ls : List Char) : Prop :=
  ls.all Char.isUpper = true ∧ ∀ e ∈ ligatures, ¬ e <:+: ls

instance (ls : List Char) : Decidable (IsPlain ls) := inferInstanceAs (Decidable (_ ∧ _))

theorem map_twin_of_upper {cs ls : List Char} (spelled : cs.flatMap upperChar = ls)
    (plain : IsPlain ls) : cs.map (fun c => (twin c).toUpper) = ls := by
  induction cs generalizing ls with
  | nil => exact spelled
  | cons c cs ih =>
    subst spelled
    obtain ⟨letters, apart⟩ := plain
    rw [List.flatMap_cons, List.all_append, Bool.and_eq_true] at letters
    have rest : IsPlain (cs.flatMap upperChar) := by
      refine ⟨letters.2, fun e member inside => apart e member ?_⟩
      exact inside.trans (List.suffix_append _ _).isInfix
    rcases upperChar_lettered letters.1 with single | ligature
    · rw [List.map_cons, ih rfl rest, List.flatMap_cons, single, List.singleton_append]
    · exact absurd (List.prefix_append _ _).isInfix (apart _ ligature)

structure Spells (w s : String) : Prop where
  letters : ∀ c ∈ w.toList, c.isAlpha = true
  capitals : w.toList.map Char.toUpper = s.toList

def SpellsByTwins (w s : String) : Prop := w.toList.map (fun c => (twin c).toUpper) = s.toList

theorem toUpper_of_above {c : Char} (above : 128 ≤ c.toNat) : c.toUpper = c := by
  apply dif_neg
  rintro ⟨-, small⟩
  have bound : c.toNat ≤ 122 := small
  omega

theorem isAlpha_of_toUpper {c : Char} (letter : c.toUpper.isUpper = true) : c.isAlpha = true := by
  have small : ∀ n < 128, (Char.ofNat n).toUpper.isUpper = true →
      (Char.ofNat n).isAlpha = true := by decide
  by_cases ascii : c.toNat < 128
  · have own := small c.toNat ascii
    rw [Char.ofNat_toNat] at own
    exact own letter
  · rw [toUpper_of_above (Nat.le_of_not_lt ascii), isUpper_of_above (Nat.le_of_not_lt ascii)]
      at letter
    cases letter

theorem twin_eq_self {c : Char} (other : c ≠ 'ı' ∧ c ≠ 'ſ') : twin c = c := by
  rw [twin, if_neg other.1, if_neg other.2]

section Spells

variable {w s : String}

theorem spellsByTwins_of_upper (spelled : upper w = s) (plain : IsPlain s.toList) :
    SpellsByTwins w s := by
  subst spelled
  rw [upper, String.toList_ofList] at plain
  rw [SpellsByTwins, upper, String.toList_ofList]
  exact map_twin_of_upper rfl plain

theorem SpellsByTwins.spells_iff (spelled : SpellsByTwins w s) (plain : IsPlain s.toList) :
    Spells w s ↔ ∀ c ∈ w.toList, c ≠ 'ı' ∧ c ≠ 'ſ' := by
  constructor
  · intro ascii c member
    have letter := ascii.letters c member
    constructor
    · rintro rfl
      revert letter
      decide
    · rintro rfl
      revert letter
      decide
  · intro free
    have same : w.toList.map Char.toUpper = s.toList := by
      rw [← spelled]
      exact List.map_congr_left fun c member => by rw [twin_eq_self (free c member)]
    refine ⟨fun c member => ?_, same⟩
    have letters := List.all_eq_true.mp plain.1
    rw [← same] at letters
    exact isAlpha_of_toUpper (letters _ (List.mem_map_of_mem member))

/-- The dotless i stands for an I and the long s for an S. -/
theorem SpellsByTwins.free (spelled : SpellsByTwins w s) (dotted : 'I' ∉ s.toList)
    (round : 'S' ∉ s.toList) : ∀ c ∈ w.toList, c ≠ 'ı' ∧ c ≠ 'ſ' := by
  intro c member
  have stands := List.mem_map_of_mem (f := fun c => (twin c).toUpper) member
  rw [spelled] at stands
  constructor
  · rintro rfl
    exact dotted stands
  · rintro rfl
    exact round stands

end Spells

theorem upperChar_ne_nil (c : Char) : upperChar c ≠ [] := by
  have expanded : ∀ e ∈ caseExpansions, e.2 ≠ [] := by decide +kernel
  unfold upperChar upperFromTable
  split
  · exact List.cons_ne_nil _ _
  · split
    · rename_i n capitals listed
      have entry := expanded _ (List.mem_of_find?_eq_some listed)
      simpa using entry
    · split <;> exact List.cons_ne_nil _ _

theorem upper_ne_empty {s : String} (nonempty : s ≠ "") : upper s ≠ "" := by
  intro empty
  have chars := congrArg String.toList empty
  simp only [upper, String.toList_ofList] at chars
  cases start : s.toList with
  | nil => exact nonempty (String.toList_inj.mp start)
  | cons c cs =>
    rw [start, List.flatMap_cons] at chars
    exact upperChar_ne_nil c (List.append_eq_nil_iff.mp chars).1

end Remit.Text
