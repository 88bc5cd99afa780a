import Remit.Pipeline
import Remit.Proofs.Grammar.Reading

namespace Remit

namespace Text

def normalize (s : String) : String := " ".intercalate (words s)

def parts (s : String) : List String := (s.toList.splitOn ' ').map String.ofList

variable {s t : String}

theorem runs_nil_iff {cs : List Char} : Runs cs [] ↔ ∀ c ∈ cs, isBlank c = true := by
  constructor
  · intro divided
    cases divided with
    | nil blank => exact blank
  · exact .nil

theorem words_ne_nil (worded : ∃ c ∈ s.toList, isBlank c = false) : words s ≠ [] := by
  intro empty
  obtain ⟨c, member, graphic⟩ := worded
  have blank := runs_nil_iff.mp (words_eq_iff.mp empty) c member
  rw [graphic] at blank
  cases blank

theorem words_eq_of_runs {ws : List (List Char)} (one : Runs s.toList ws)
    (other : Runs t.toList ws) : words s = words t := by
  rw [words, words, one.runs_eq, other.runs_eq]

theorem words_normalize (s : String) : words (normalize s) = words s :=
  words_intercalate fun _ => isWord_of_mem_words

theorem normalize_normalize (s : String) : normalize (normalize s) = normalize s := by
  rw [normalize, words_normalize, normalize]

theorem IsWord.unspaced {w : List Char} (word : IsWord w) : ' ' ∉ w := by
  intro member
  have blank := word.2 ' ' member
  revert blank
  decide

theorem parts_intercalate {ws : List String} (full : ws ≠ []) (words : ∀ w ∈ ws, IsWord w.toList) :
    parts (" ".intercalate ws) = ws := by
  have unspaced : ∀ l ∈ ws.map String.toList, ' ' ∉ l := by
    intro l member
    obtain ⟨w, inside, rfl⟩ := List.mem_map.mp member
    exact (words w inside).unspaced
  have space : " ".toList = [' '] := rfl
  rw [parts, String.toList_intercalate, space,
    List.splitOn_intercalate ' ' unspaced (by simpa using full)]
  simp [Function.comp_def]

end Text

namespace Sentence

variable {text : String}

theorem ofText_of_worded (worded : Text.words text ≠ []) : ofText text = ⟨Text.words text⟩ := by
  unfold ofText
  split
  · rename_i empty
    exact absurd empty worded
  · rfl

/-- Also a text without words: it is cut into one empty part. -/
theorem ofText_eq_parts (text : String) : ofText text = ⟨Text.parts (Text.normalize text)⟩ := by
  by_cases empty : Text.words text = []
  · rw [ofText, Text.normalize, empty]
    rfl
  · rw [ofText_of_worded empty, Text.normalize,
      Text.parts_intercalate empty fun _ => Text.isWord_of_mem_words]

end Sentence

theorem Instruction.ofText_congr {text other : String} (worded : Text.words text ≠ [])
    (same : Text.words other = Text.words text) :
    Instruction.ofText other = Instruction.ofText text := by
  have nonempty : ∀ s, Text.words s ≠ [] → s ≠ "" := by
    rintro s full rfl
    exact full rfl
  rw [ofText_of_words (nonempty text worded), ofText_of_words (nonempty other (same ▸ worded)),
    same]

/-- The words of a text are its maximal runs of characters that are not blank, with a capital form
each. Joined by single spaces they make a text that is its own normal form, from which cutting at
the spaces, like reading, gives the same words again. Texts with the same runs state the same. -/
theorem words_canonical {text : String} (worded : ∃ c ∈ text.toList, Text.isBlank c = false)
    {s : Sentence} (read : Sentence.ofText text = s) :
    (∀ ws, Text.Runs text.toList ws ↔ ws = s.tokens.map String.toList) ∧
    (∀ w ∈ s.tokens, w ≠ "" ∧ ∀ c ∈ w.toList, Text.isBlank c = false) ∧
    s.capitals.length = s.tokens.length ∧
    (∀ i : Nat, s.capitals[i]? = s.tokens[i]?.map Text.upper) ∧
    Text.normalize text = " ".intercalate s.tokens ∧
    s.normalized = Text.normalize text ∧
    s.tokens = Text.parts (Text.normalize text) ∧
    Text.normalize s.normalized = s.normalized ∧
    Sentence.ofText s.normalized = s ∧
    ∀ other ws, Text.Runs text.toList ws → Text.Runs other.toList ws →
      Instruction.ofValue (.str other) = Instruction.ofValue (.str text) := by
  have full := Text.words_ne_nil worded
  have tokens := Sentence.ofText_of_worded full
  have joined : s.normalized = Text.normalize text := by
    rw [← read, tokens, Sentence.normalized, Text.normalize]
  have cut := Sentence.ofText_eq_parts text
  subst read
  rw [tokens] at joined cut ⊢
  refine ⟨fun ws => ?_, fun w member => ?_, ?_, fun i => ?_, rfl, joined, ?_, ?_, ?_, ?_⟩
  · rw [← Text.runs_eq_iff]
    simp [Text.words, Function.comp_def, eq_comm]
  · exact ⟨ne_empty_of_mem_words w member, (Text.isWord_of_mem_words member).2⟩
  · simp [Sentence.capitals]
  · simp [Sentence.capitals]
  · exact congrArg Sentence.tokens cut
  · rw [joined, Text.normalize_normalize]
  · have again := Text.words_normalize text
    rw [joined, Sentence.ofText_of_worded (again ▸ full), again]
  · intro other ws one another
    exact Instruction.ofText_congr full (Text.words_eq_of_runs another one)

/-- A tab, a line separator and an ideographic space separate words, and a no-break space ends the
text. -/
theorem words_canonical_sample :
    (∃ c ∈ "DEBIT\t500\u2028\u3000inr\u00A0".toList, Text.isBlank c = false) ∧
    Text.normalize "DEBIT\t500\u2028\u3000inr\u00A0" =
      " ".intercalate ["DEBIT", "500", "inr"] := by
  have worded : ∃ c ∈ "DEBIT\t500\u2028\u3000inr\u00A0".toList, Text.isBlank c = false :=
    ⟨'D', by decide, by decide⟩
  have read : Sentence.ofText "DEBIT\t500\u2028\u3000inr\u00A0" = ⟨["DEBIT", "500", "inr"]⟩ := by
    decide
  obtain ⟨-, -, -, -, normal, -⟩ := words_canonical worded read
  exact ⟨worded, normal⟩

end Remit
