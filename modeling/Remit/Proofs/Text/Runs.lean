import Remit.Text.Word

namespace Remit.Text

def IsWord (w : List Char) : Prop := w ≠ [] ∧ ∀ c ∈ w, isBlank c = false

instance (w : List Char) : Decidable (IsWord w) :=
  decidable_of_iff (w.isEmpty = false ∧ w.all (fun c => !isBlank c) = true) (by simp [IsWord])

inductive Runs : List Char → List (List Char) → Prop where
  | nil {gap : List Char} (blank : ∀ c ∈ gap, isBlank c = true) : Runs gap []
  | cons {gap run rest : List Char} {others : List (List Char)}
      (blank : ∀ c ∈ gap, isBlank c = true) (word : IsWord run)
      (bounded : ∀ c, rest.head? = some c → isBlank c = true) (later : Runs rest others) :
      Runs (gap ++ (run ++ rest)) (run :: others)

theorem runs_cons_blank {c : Char} (blank : isBlank c = true) (cs : List Char) :
    runs (c :: cs) = runs cs := by
  simp [runs, cut, blank, close]

theorem runs_append_blank {gap : List Char} (blank : ∀ c ∈ gap, isBlank c = true)
    (cs : List Char) : runs (gap ++ cs) = runs cs := by
  induction gap with
  | nil => rfl
  | cons c gap ih =>
    obtain ⟨first, others⟩ := List.forall_mem_cons.mp blank
    rw [List.cons_append, runs_cons_blank first, ih others]

theorem cut_append {run rest : List Char} (word : ∀ c ∈ run, isBlank c = false)
    (bounded : ∀ c, rest.head? = some c → isBlank c = true) :
    cut (run ++ rest) = (run, runs rest) := by
  induction run with
  | nil =>
    cases rest with
    | nil => rfl
    | cons c cs =>
      have blank := bounded c rfl
      rw [List.nil_append, runs_cons_blank blank]
      simp [cut, runs, blank]
  | cons c run ih =>
    obtain ⟨first, others⟩ := List.forall_mem_cons.mp word
    simp [cut, ih others, first]

theorem runs_append_word {run rest : List Char} (word : IsWord run)
    (bounded : ∀ c, rest.head? = some c → isBlank c = true) :
    runs (run ++ rest) = run :: runs rest := by
  simp [runs, cut_append word.2 bounded, close, word.1]

theorem Runs.runs_eq {cs : List Char} {ws : List (List Char)} (divided : Runs cs ws) :
    runs cs = ws := by
  induction divided with
  | nil blank => simpa [runs, cut, close] using runs_append_blank blank []
  | cons blank word bounded later ih =>
    rw [runs_append_blank blank, runs_append_word word bounded, ih]

theorem Runs.cons_blank {c : Char} {cs : List Char} {ws : List (List Char)}
    (blank : isBlank c = true) (divided : Runs cs ws) : Runs (c :: cs) ws := by
  cases divided with
  | nil others => exact .nil (List.forall_mem_cons.mpr ⟨blank, others⟩)
  | @cons gap run rest later others word bounded more =>
    have wider : ∀ d ∈ c :: gap, isBlank d = true := List.forall_mem_cons.mpr ⟨blank, others⟩
    exact .cons wider word bounded more

theorem Runs.cons_word {run rest : List Char} {others : List (List Char)} (word : IsWord run)
    (bounded : ∀ c, rest.head? = some c → isBlank c = true) (later : Runs rest others) :
    Runs (run ++ rest) (run :: others) := by
  have gap : ∀ c ∈ ([] : List Char), isBlank c = true := by simp
  exact .cons gap word bounded later

theorem runs_close {run rest : List Char} {others : List (List Char)}
    (word : ∀ c ∈ run, isBlank c = false)
    (bounded : ∀ c, rest.head? = some c → isBlank c = true) (later : Runs rest others) :
    Runs (run ++ rest) (close run others) := by
  cases run with
  | nil => exact later
  | cons c run => exact .cons_word ⟨by simp, word⟩ bounded later

theorem cut_spec (cs : List Char) : ∃ rest, cs = (cut cs).1 ++ rest ∧
    (∀ c ∈ (cut cs).1, isBlank c = false) ∧ (∀ c, rest.head? = some c → isBlank c = true) ∧
      Runs rest (cut cs).2 := by
  induction cs with
  | nil => exact ⟨[], rfl, by simp [cut], by simp, .nil (by simp)⟩
  | cons c cs ih =>
    obtain ⟨rest, split, word, bounded, later⟩ := ih
    by_cases blank : isBlank c = true
    · refine ⟨c :: cs, by simp [cut, blank], by simp [cut, blank], by simpa using blank, ?_⟩
      have whole := runs_close word bounded later
      rw [← split] at whole
      simpa [cut, blank] using whole.cons_blank blank
    · refine ⟨rest, ?_, ?_, bounded, ?_⟩
      · simpa [cut, blank] using split
      · simpa [cut, blank] using word
      · simpa [cut, blank] using later

theorem runs_eq_iff {cs : List Char} {ws : List (List Char)} : runs cs = ws ↔ Runs cs ws := by
  constructor
  · rintro rfl
    obtain ⟨rest, split, word, bounded, later⟩ := cut_spec cs
    have whole := runs_close word bounded later
    rwa [← split] at whole
  · exact Runs.runs_eq

theorem words_eq_iff {s : String} {ws : List String} :
    words s = ws ↔ Runs s.toList (ws.map String.toList) := by
  rw [← runs_eq_iff, words]
  constructor
  · rintro rfl
    simp [Function.comp_def]
  · intro same
    simp [same, Function.comp_def]

theorem isWord_of_mem_runs {cs : List Char} {ws : List (List Char)} (divided : Runs cs ws) :
    ∀ w ∈ ws, IsWord w := by
  induction divided with
  | nil => simp
  | cons blank word bounded later ih => exact List.forall_mem_cons.mpr ⟨word, ih⟩

theorem isWord_of_mem_words {s w : String} (member : w ∈ words s) : IsWord w.toList :=
  isWord_of_mem_runs (words_eq_iff.mp rfl) _ (List.mem_map_of_mem member)

/-- A blank ends the last word of the text before it. -/
theorem Runs.append {as bs : List Char} {ws vs : List (List Char)} {c : Char} (front : Runs as ws)
    (space : isBlank c = true) (back : Runs bs vs) : Runs (as ++ c :: bs) (ws ++ vs) := by
  induction front with
  | nil blank =>
    rw [← runs_eq_iff, runs_append_blank blank]
    exact (back.cons_blank space).runs_eq
  | @cons gap run rest others blank word bounded later ih =>
    have joined : ∀ d, (rest ++ c :: bs).head? = some d → isBlank d = true := by
      cases rest with
      | nil => simpa using space
      | cons d rest => exact bounded
    rw [List.append_assoc, List.append_assoc, List.cons_append]
    exact .cons blank word joined ih

theorem words_append (s t : String) : words (s ++ " " ++ t) = words s ++ words t := by
  have space : isBlank ' ' = true := by decide
  rw [words_eq_iff]
  simpa using (words_eq_iff.mp rfl).append space (words_eq_iff.mp rfl)

theorem words_intercalate {ws : List String} (word : ∀ w ∈ ws, IsWord w.toList) :
    words (" ".intercalate ws) = ws := by
  rw [words_eq_iff]
  induction ws with
  | nil => exact .nil (by simp)
  | cons w ws ih =>
    obtain ⟨first, others⟩ := List.forall_mem_cons.mp word
    cases ws with
    | nil =>
      have rest : Runs [] [] := .nil (by simp)
      simpa using Runs.cons_word first (by simp) rest
    | cons v ws =>
      have blank : isBlank ' ' = true := by decide
      have rest := (ih others).cons_blank blank
      simpa [String.intercalate_cons_cons] using Runs.cons_word first (by simpa using blank) rest

end Remit.Text
