import Remit.Proofs.Grammar.Spacing

/-! Comparison of a text with a shape. The keywords of the shape are looked up one after another,
the ACCOUNTs among them in the order in which they stand in the text, and the comparison ends in one
of four ways: a keyword is missing, the keywords are out of order, the text ends with the second
ACCOUNT, or it names two accounts. -/

namespace Remit

def Kind.sequence : Kind → List Keyword
  | .debit => [.fromWord, .accountWord, .forWord, .creditWord, .toWord, .accountWord]
  | .credit => [.toWord, .accountWord, .forWord, .debitWord, .fromWord, .accountWord]

def Sides.InTurn (ids : Sides) (first second : String) : Kind → Prop
  | .debit => ids.debit = first ∧ ids.credit = second
  | .credit => ids.credit = first ∧ ids.debit = second

section Rules

variable (ws : List String) (k : Kind)

structure Complete : Prop where
  occurs : ∀ word ∈ k.sequence, word.spelling ∈ capitalized ws
  twice : 2 ≤ (capitalized ws).count "ACCOUNT"

def Anchors.Ascending (a : Anchors) (k : Kind) : Prop :=
  0 < a.near k ∧ (a.inOrder k).Pairwise (· < ·)

def shapeRules : List (Prop × String) :=
  [(Complete ws k, "SY01"),
    (∃ a, Anchored ws k a ∧ a.Ascending k, "SY02"),
    (∃ a, Anchored ws k a ∧ a.second + 1 ≠ ws.length, "SY03")]

def Named (ids : Sides) : Prop :=
  ∃ a first second, Anchored ws k a ∧ a.Ascending k ∧ ws[a.first + 1]? = some first ∧
    ws[a.second + 1]? = some second ∧ ids.InTurn first second k

end Rules

theorem Anchors.ascending_iff {a : Anchors} {k : Kind} : a.Ascending k ↔ a.Ordered k := by
  rw [← ordered_iff, List.pairwise_cons, Ascending]
  constructor
  · rintro ⟨positive, ascending⟩
    refine ⟨fun i listed => ?_, ascending⟩
    rcases List.mem_cons.mp listed with rfl | later
    · exact positive
    · exact Nat.lt_trans positive ((List.pairwise_cons.mp ascending).1 i later)
  · rintro ⟨positive, ascending⟩
    exact ⟨positive _ List.mem_cons_self, ascending⟩

theorem Anchored.second_lt {ws : List String} {k : Kind} {a : Anchors}
    (anchored : Anchored ws k a) : a.second < ws.length := by
  simpa [capitalized] using (List.getElem?_eq_some_iff.mp anchored.second.1).1

theorem Sides.inTurn_iff {ids : Sides} {first second : String} {k : Kind} :
    ids.InTurn first second k ↔ ids = k.sides first second := by
  cases ids
  cases k <;> simp [InTurn, Kind.sides, and_comm]

theorem Named.unique {ws : List String} {k : Kind} {x y : Sides} (one : Named ws k x)
    (other : Named ws k y) : x = y := by
  obtain ⟨a, first, second, anchored, -, hfirst, hsecond, named⟩ := one
  obtain ⟨b, v, w, others, -, hv, hw, renamed⟩ := other
  cases anchored.unique others
  cases hfirst.symm.trans hv
  cases hsecond.symm.trans hw
  rw [Sides.inTurn_iff.mp named, Sides.inTurn_iff.mp renamed]

namespace Sentence

/-- The places of some keywords in a row. The ACCOUNTs among them take one place of ACCOUNT after
another, of which some may have been passed before. -/
def gather (s : Sentence) (passed : Nat) : List Keyword → Option (List Nat)
  | [] => some []
  | word :: rest =>
    if word = .accountWord then do
      return (← (s.located word)[passed]?) :: (← s.gather (passed + 1) rest)
    else do
      return (← (s.located word)[0]?) :: (← s.gather passed rest)

variable {s : Sentence} {k : Kind} {word : Keyword}

theorem length_occurrences : (s.occurrences word).length = s.capitals.count word.spelling := by
  have listed : s.capitals = s.capitals.zipIdx.map Prod.fst := by rw [List.zipIdx_map_fst]
  conv_rhs => rw [listed, List.count, List.countP_map]
  rw [occurrences, List.length_map, List.countP_eq_length_filter]
  rfl

theorem located_eq_none : (s.located word)[0]? = none ↔ word.spelling ∉ s.capitals := by
  have unlisted : s.occurrences word = [] ↔ word.spelling ∉ s.capitals := by
    rw [← List.length_eq_zero_iff, length_occurrences, List.count_eq_zero]
  rw [← unlisted, ← List.head?_eq_getElem?]
  cases word <;> simp [located]

theorem located_account_eq_none {passed : Nat} :
    (s.located .accountWord)[passed]? = none ↔ s.capitals.count "ACCOUNT" ≤ passed := by
  rw [List.getElem?_eq_none_iff]
  exact iff_of_eq (congrArg (· ≤ passed) length_occurrences)

theorem cons_eq_none {place : Option Nat} {places : Option (List Nat)} :
    (do return (← place) :: (← places)) = (none : Option (List Nat)) ↔
      place = none ∨ places = none := by
  cases place <;> cases places <;> simp

/-- A row of keywords is not found just if one of them does not occur, or the ACCOUNTs of the row
and those passed before it are more than there are. -/
theorem gather_eq_none {passed : Nat} {words : List Keyword}
    (within : passed ≤ s.capitals.count "ACCOUNT") :
    s.gather passed words = none ↔ (∃ word ∈ words, word.spelling ∉ s.capitals) ∨
      s.capitals.count "ACCOUNT" < passed + words.count .accountWord := by
  induction words generalizing passed with
  | nil => simp [gather, within]
  | cons word rest ih =>
    rw [gather]
    by_cases account : word = .accountWord
    · subst account
      rw [if_pos rfl, cons_eq_none, located_account_eq_none, List.count_cons_self]
      by_cases left : passed < s.capitals.count "ACCOUNT"
      · have occurs : Keyword.accountWord.spelling ∈ s.capitals :=
          List.count_pos_iff.mp (Nat.lt_of_le_of_lt (Nat.zero_le passed) left)
        rw [ih left, Nat.succ_add_eq_add_succ]
        simp only [List.mem_cons, exists_eq_or_imp, occurs, Nat.not_le.mpr left,
          not_true_eq_false, false_or]
      · -- The row asks for an ACCOUNT, but all of them were passed.
        exact iff_of_true (.inl (Nat.le_of_not_lt left)) (.inr (by omega))
    · rw [if_neg account, cons_eq_none, located_eq_none, ih within, List.count_cons_of_ne account]
      simp only [List.mem_cons, exists_eq_or_imp, or_assoc]

/-- The count of earlier ACCOUNTs that a shape states for each of its own is the number of those
passed on the way to it. -/
theorem gather_sequence : s.gather 0 k.sequence = s.anchors? k := by
  cases k <;> simp [gather, anchors?, Kind.sequence, Kind.shape]

variable {ws : List String}

theorem gather_sequence_eq_none : (mk ws).gather 0 k.sequence = none ↔ ¬ Complete ws k := by
  have twice : k.sequence.count .accountWord = 2 := by cases k <;> rfl
  rw [gather_eq_none (Nat.zero_le _), twice, Nat.zero_add]
  constructor
  · rintro (⟨word, listed, absent⟩ | few) complete
    · exact absent (complete.occurs word listed)
    · exact absurd few (Nat.not_lt.mpr complete.twice)
  · intro incomplete
    by_cases occurs : ∃ word ∈ k.sequence, word.spelling ∉ capitalized ws
    · exact .inl occurs
    · refine .inr (Nat.lt_of_not_le fun twice => incomplete ⟨fun word listed => ?_, twice⟩)
      exact by_contra fun absent => occurs ⟨word, listed, absent⟩

theorem gather_eq_some {places : List Nat} : (mk ws).gather 0 k.sequence = some places ↔
    ∃ a, Anchored ws k a ∧ places = a.inOrder k := by
  rw [gather_sequence]
  constructor
  · intro found
    obtain ⟨a, anchored⟩ := anchored_of_anchors? found
    exact ⟨a, anchored, Option.some.inj (found.symm.trans (anchors?_of_anchored anchored))⟩
  · rintro ⟨a, anchored, rfl⟩
    exact anchors?_of_anchored anchored

end Sentence

section Words

variable {ws : List String} {k : Kind}

theorem exists_anchored_iff_complete : (∃ a, Anchored ws k a) ↔ Complete ws k := by
  rw [← not_iff_not, ← Sentence.gather_sequence_eq_none, Option.eq_none_iff_forall_ne_some]
  constructor
  · intro missing places gathered
    obtain ⟨a, anchored, -⟩ := Sentence.gather_eq_some.mp gathered
    exact missing ⟨a, anchored⟩
  · rintro missing ⟨a, anchored⟩
    exact missing _ (Sentence.gather_eq_some.mpr ⟨a, anchored, rfl⟩)

theorem Named.keeps_rules {ids : Sides} (named : Named ws k ids) :
    ∀ entry ∈ shapeRules ws k, entry.1 := by
  obtain ⟨a, first, second, anchored, ascending, -, two, -⟩ := named
  have inner : a.second + 1 ≠ ws.length := Nat.ne_of_lt (List.getElem?_eq_some_iff.mp two).1
  simp only [shapeRules, List.forall_mem_cons, List.not_mem_nil, false_implies, implies_true,
    and_true]
  exact ⟨exists_anchored_iff_complete.mp ⟨a, anchored⟩, ⟨a, anchored, ascending⟩,
    ⟨a, anchored, inner⟩⟩

end Words

namespace Sentence

variable {ws : List String} {k : Kind} {a : Anchors}

theorem located_account (anchored : Anchored ws k a) :
    ∃ rest, (mk ws).located .accountWord = a.first :: a.second :: rest := by
  have first : ((mk ws).located .accountWord)[0]? = some a.first :=
    (located_zero (by decide)).mpr anchored.first
  have second : ((mk ws).located .accountWord)[1]? = some a.second :=
    (located_account_one anchored.first).mpr anchored.second
  revert first second
  cases (mk ws).located .accountWord with
  | nil =>
    intro first
    cases first
  | cons i others =>
    cases others with
    | nil =>
      intro _ second
      cases second
    | cons j rest =>
      intro first second
      cases first
      cases second
      exact ⟨rest, rfl⟩

theorem sides_of_unanchored (missing : ¬ ∃ a, Anchored ws k a) :
    (mk ws).sides k = .error .missingKeyword := by
  unfold sides
  cases found : (mk ws).anchors? k with
  | none => rfl
  | some places => exact absurd (anchored_of_anchors? found) missing

section Full

-- A blank text has an empty word, but no keyword.
variable (full : ∀ a, Anchored ws k a → ∀ w ∈ ws, w ≠ "")
include full

theorem accountId?_zero_of_ascending (anchored : Anchored ws k a) (ascending : a.Ascending k) :
    ∃ first, (mk ws).accountId? 0 = some first ∧ ws[a.first + 1]? = some first := by
  have before := (Anchors.ascending_iff.mp ascending).first_lt_second
  have inside := anchored.second_lt
  rw [accountId?_zero (full a anchored) anchored]
  exact ⟨_, List.getElem?_eq_getElem (by omega), List.getElem?_eq_getElem (by omega)⟩

theorem firstBroken_of_sides {fault : SyntaxFault} (failed : (mk ws).sides k = .error fault) :
    FirstBroken (shapeRules ws k) fault.code.name := by
  by_cases located : ∃ a, Anchored ws k a
  · have complete := exists_anchored_iff_complete.mp located
    obtain ⟨b, others⟩ := located
    rcases sides_eq_error (full b others) failed with
      ⟨missing, -⟩ | ⟨a, anchored, ⟨disordered, rfl⟩ | ⟨ordered, short, rfl⟩⟩
    · exact absurd ⟨b, others⟩ missing
    · refine .inr ⟨complete, .inl ⟨?_, rfl⟩⟩
      rintro ⟨c, same, ascending⟩
      cases anchored.unique same
      exact disordered (Anchors.ascending_iff.mp ascending)
    · have ascending := Anchors.ascending_iff.mpr ordered
      refine .inr ⟨complete, .inr ⟨⟨a, anchored, ascending⟩, .inl ⟨?_, rfl⟩⟩⟩
      rintro ⟨c, same, inner⟩
      cases anchored.unique same
      have inside := anchored.second_lt
      omega
  · rw [sides_of_unanchored located] at failed
    cases failed
    exact .inl ⟨mt exists_anchored_iff_complete.mpr located, rfl⟩

theorem named_of_sides {ids : Sides} (read : (mk ws).sides k = .ok ids) : Named ws k ids := by
  by_cases located : ∃ a, Anchored ws k a
  · obtain ⟨b, others⟩ := located
    obtain ⟨a, first, second, anchored, ordered, one, two, named⟩ :=
      sides_eq_ok (full b others) read
    exact ⟨a, first, second, anchored, Anchors.ascending_iff.mpr ordered, one, two,
      Sides.inTurn_iff.mpr named⟩
  · rw [sides_of_unanchored located] at read
    cases read

end Full

theorem full_of_anchored {text : String} (anchored : Anchored (ofText text).tokens k a) :
    ∀ w ∈ (ofText text).tokens, w ≠ "" := by
  by_cases blank : Text.words text = []
  · have cut : (ofText text).tokens = [""] := by
      rw [ofText, blank]
    have opening : "ACCOUNT" ∈ capitalized [""] := List.mem_of_getElem? (cut ▸ anchored.first.1)
    exact absurd opening (by decide)
  · rw [ofText_of_worded blank]
    exact ne_empty_of_mem_words

end Sentence

/-- Any text is compared with either shape, whatever it opens with. The places found with a count
of the ACCOUNTs passed are the anchors, and there are anchors just if every keyword of the shape
occurs, ACCOUNT twice. The text is refused for the first of these that does not hold: its keywords
are there, they are in order, and a word follows the second ACCOUNT. If all hold, the words after
the two ACCOUNTs are its sides. The list of the places of ACCOUNT opens with the two, and once the
keywords are in order it is never the first account that is missing. -/
theorem shape_compared_in_order (text : String) (k : Kind) :
    let s := Sentence.ofText text
    (∀ places, s.gather 0 k.sequence = some places ↔
      ∃ a, Anchored s.tokens k a ∧ places = a.inOrder k) ∧
    ((∃ a, Anchored s.tokens k a) ↔ Complete s.tokens k) ∧
    (∀ code, (∃ fault, s.sides k = .error fault ∧ fault.code.name = code) ↔
      FirstBroken (shapeRules s.tokens k) code) ∧
    (∀ ids, s.sides k = .ok ids ↔ Named s.tokens k ids) ∧
    ((∃ ids, Named s.tokens k ids) ↔ ∀ entry ∈ shapeRules s.tokens k, entry.1) ∧
    ∀ a, Anchored s.tokens k a →
      (∃ rest, s.located .accountWord = a.first :: a.second :: rest) ∧
      (a.Ascending k → ∃ first, s.accountId? 0 = some first ∧
        s.tokens[a.first + 1]? = some first) := by
  have full : ∀ a, Anchored (Sentence.ofText text).tokens k a →
      ∀ w ∈ (Sentence.ofText text).tokens, w ≠ "" := fun _ => Sentence.full_of_anchored
  obtain ⟨refused, accepted, kept⟩ := FirstBroken.decides
    (fun _ => Sentence.named_of_sides full) (fun _ => Sentence.firstBroken_of_sides full)
    (fun _ => Named.keeps_rules) (fun _ _ => Named.unique)
  refine ⟨fun places => Sentence.gather_eq_some, exists_anchored_iff_complete,
    refused, accepted, kept, fun a anchored => ⟨Sentence.located_account anchored, ?_⟩⟩
  exact Sentence.accountId?_zero_of_ascending full anchored

/-- A text that opens with neither keyword, compared with both shapes. -/
theorem shape_compared_in_order_sample :
    let s := Sentence.ofText "now from account A1 for credit to account"
    (∃ rest, s.located .accountWord = 2 :: 7 :: rest) ∧ s.accountId? 0 = some "A1" ∧
    FirstBroken (shapeRules s.tokens .debit) "SY03" ∧
    FirstBroken (shapeRules s.tokens .credit) "SY01" := by
  obtain ⟨gathered, -, refused, -, -, accounts⟩ :=
    shape_compared_in_order "now from account A1 for credit to account" .debit
  obtain ⟨-, -, unread, -⟩ :=
    shape_compared_in_order "now from account A1 for credit to account" .credit
  obtain ⟨a, anchored, places⟩ := (gathered [1, 2, 4, 5, 6, 7]).mp (by decide +kernel)
  obtain ⟨near, first, -, -, -, second⟩ : 1 = a.near .debit ∧ 2 = a.first ∧
      4 = a.link ∧ 5 = a.opposite ∧ 6 = a.far .debit ∧ 7 = a.second := by
    simpa [Anchors.inOrder] using places
  have ascending : a.Ascending .debit := ⟨by omega, places ▸ by decide⟩
  obtain ⟨listed, named⟩ := accounts a anchored
  obtain ⟨id, found, stands⟩ := named ascending
  rw [← first, ← second] at listed
  rw [← first] at stands
  refine ⟨listed, ?_, (refused "SY03").mp ⟨.malformed, by decide +kernel, rfl⟩,
    (unread "SY01").mp ⟨.missingKeyword, by decide +kernel, rfl⟩⟩
  rw [found]
  exact stands.symm.trans (by decide +kernel)

end Remit
