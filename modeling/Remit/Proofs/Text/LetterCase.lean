import Remit.Proofs.Text.Runs
import Remit.Text.Word

namespace Remit.Text

theorem toLower_cases (c : Char) : c.toLower = c ∨
    ∃ k : Fin 26, c = Char.ofNat (65 + k) ∧ c.toLower = Char.ofNat (97 + k) := by
  have small : ∀ k : Fin 26, (Char.ofNat (65 + k)).toLower = Char.ofNat (97 + k) := by decide
  by_cases capital : c.val ≥ 'A'.val ∧ c.val ≤ 'Z'.val
  · have bounds : 65 ≤ c.toNat ∧ c.toNat ≤ 90 := capital
    have letter := small ⟨c.toNat - 65, by omega⟩
    have same : Char.ofNat (65 + (c.toNat - 65)) = c := by
      rw [Nat.add_sub_cancel' bounds.1, Char.ofNat_toNat]
    rw [same] at letter
    exact .inr ⟨_, same.symm, letter⟩
  · exact .inl (dif_neg capital)

/-- What is the same of every letter in both cases does not see the case of a character. -/
theorem apply_toLower {β : Type} (f : Char → β)
    (letters : ∀ k : Fin 26, f (Char.ofNat (97 + k)) = f (Char.ofNat (65 + k))) (c : Char) :
    f c.toLower = f c := by
  rcases toLower_cases c with same | ⟨k, capital, small⟩
  · rw [same]
  · rw [small, letters, ← capital]

theorem isBlank_toLower (c : Char) : isBlank c.toLower = isBlank c :=
  apply_toLower isBlank (by decide) c

theorem upperChar_toLower (c : Char) : upperChar c.toLower = upperChar c :=
  apply_toLower upperChar (by decide) c

def isCaseless (c : Char) : Bool := c.isDigit || c == '-'

theorem eq_of_toLower {c d : Char} (alike : c.toLower = d.toLower) (plain : isCaseless d = true) :
    c = d := by
  have own := apply_toLower (fun c => if isCaseless c then some c else none) (by decide)
  have same := own c
  simp only [alike, own d, plain, if_true] at same
  split at same
  · exact (Option.some.inj same).symm
  · cases same

theorem upper_asciiLower (s : String) : upper (asciiLower s) = upper s := by
  have same : ∀ cs : List Char, (cs.map Char.toLower).flatMap upperChar = cs.flatMap upperChar := by
    intro cs
    induction cs with
    | nil => rfl
    | cons c cs ih =>
      rw [List.map_cons, List.flatMap_cons, List.flatMap_cons, upperChar_toLower, ih]
  rw [upper, asciiLower, String.toList_ofList, same, upper]

theorem upper_congr {s t : String} (alike : asciiLower s = asciiLower t) : upper s = upper t := by
  rw [← upper_asciiLower, alike, upper_asciiLower]

theorem eq_of_asciiLower {s t : String} (alike : asciiLower s = asciiLower t)
    (plain : ∀ c ∈ t.toList, isCaseless c = true) : s = t := by
  have same : ∀ cs ds : List Char, cs.map Char.toLower = ds.map Char.toLower →
      (∀ d ∈ ds, isCaseless d = true) → cs = ds := by
    intro cs
    induction cs with
    | nil =>
      intro ds alike _
      exact (List.map_eq_nil_iff.mp alike.symm).symm
    | cons c cs ih =>
      intro ds alike plain
      cases ds with
      | nil => cases alike
      | cons d ds =>
        obtain ⟨first, others⟩ := List.cons.inj alike
        obtain ⟨digit, digits⟩ := List.forall_mem_cons.mp plain
        rw [eq_of_toLower first digit, ih ds others digits]
  exact String.toList_inj.mp (same _ _ (String.ofList_inj.mp alike) plain)

theorem close_map (f : Char → Char) (run : List Char) (rest : List (List Char)) :
    close (run.map f) (rest.map (·.map f)) = (close run rest).map (·.map f) := by
  cases run <;> rfl

theorem cut_map_toLower (cs : List Char) : cut (cs.map Char.toLower) =
    ((cut cs).1.map Char.toLower, (cut cs).2.map (·.map Char.toLower)) := by
  induction cs with
  | nil => rfl
  | cons c cs ih =>
    simp only [List.map_cons, cut, ih, isBlank_toLower]
    split
    · rw [close_map]
      rfl
    · rfl

theorem words_asciiLower (s : String) : words (asciiLower s) = (words s).map asciiLower := by
  simp only [words, runs, asciiLower, String.toList_ofList, cut_map_toLower, close_map,
    List.map_map, Function.comp_def]

theorem words_alike {s t : String} (alike : asciiLower s = asciiLower t) (i : Nat) :
    (words s)[i]?.map asciiLower = (words t)[i]?.map asciiLower := by
  rw [← List.getElem?_map, ← List.getElem?_map, ← words_asciiLower, alike, words_asciiLower]

end Remit.Text
