import Mathlib.Tactic.IntervalCases
import Remit.Proofs.Grammar.Phrase
import Remit.Proofs.Grammar.Reading

/-! Reading a sentence with nothing between its parts. Its currency or an identifier may spell a
keyword, and then that keyword may count at another place than the sentence means. The anchors are
in order only if none of those that matter is displaced, so a displaced keyword leads to refusal
and never to another instruction. -/

namespace Remit

variable {k : Kind} {m q x y Q X Y : String} {day : Option Date} {ws : List String} {a : Anchors}

/-- The currency and the identifiers, in capital letters, displace no keyword that counts. CREDIT
counts at its first place and DEBIT at its last. -/
structure Kind.Clear (k : Kind) (Q X Y : String) : Prop where
  currency : Q ≠ "ACCOUNT" ∧ Q ≠ "FOR" ∧ Q ≠ k.far.spelling
  first : X ≠ "ACCOUNT" ∧ X ≠ k.far.spelling
  credit : k = .debit → Q ≠ "CREDIT" ∧ X ≠ "CREDIT"
  debit : k = .credit → Y ≠ "DEBIT"
  on : Q ≠ "ON" ∧ X ≠ "ON" ∧ Y ≠ "ON"

/-- The part of it that keeps the anchors in order; the rest is about the date clause. -/
structure Kind.InPlace (k : Kind) (Q X Y : String) : Prop where
  currency : Q ≠ "ACCOUNT" ∧ Q ≠ "FOR" ∧ Q ≠ k.far.spelling
  first : X ≠ "ACCOUNT" ∧ X ≠ k.far.spelling
  credit : k = .debit → Q ≠ "CREDIT" ∧ X ≠ "CREDIT"
  debit : k = .credit → Y ≠ "DEBIT"

theorem Kind.clear_iff :
    k.Clear Q X Y ↔ k.InPlace Q X Y ∧ (Q ≠ "ON" ∧ X ≠ "ON" ∧ Y ≠ "ON") := by
  constructor
  · rintro ⟨currency, first, credit, debit, on⟩
    exact ⟨⟨currency, first, credit, debit⟩, on⟩
  · rintro ⟨⟨currency, first, credit, debit⟩, on⟩
    exact ⟨currency, first, credit, debit, on⟩

theorem Kind.clear_debit : Kind.debit.Clear Q X Y ↔
    Q ∉ ["ACCOUNT", "FOR", "CREDIT", "TO", "ON"] ∧ X ∉ ["ACCOUNT", "CREDIT", "TO", "ON"] ∧
      Y ≠ "ON" := by
  simp only [List.mem_cons, List.not_mem_nil, or_false, not_or]
  constructor
  · rintro ⟨⟨qAccount, qFor, qTo⟩, ⟨xAccount, xTo⟩, credit, -, qOn, xOn, yOn⟩
    obtain ⟨qCredit, xCredit⟩ := credit rfl
    exact ⟨⟨qAccount, qFor, qCredit, qTo, qOn⟩, ⟨xAccount, xCredit, xTo, xOn⟩, yOn⟩
  · rintro ⟨⟨qAccount, qFor, qCredit, qTo, qOn⟩, ⟨xAccount, xCredit, xTo, xOn⟩, yOn⟩
    exact ⟨⟨qAccount, qFor, qTo⟩, ⟨xAccount, xTo⟩, fun _ => ⟨qCredit, xCredit⟩, nofun,
      qOn, xOn, yOn⟩

theorem Kind.clear_credit : Kind.credit.Clear Q X Y ↔
    Q ∉ ["ACCOUNT", "FOR", "FROM", "ON"] ∧ X ∉ ["ACCOUNT", "FROM", "ON"] ∧
      Y ∉ ["DEBIT", "ON"] := by
  simp only [List.mem_cons, List.not_mem_nil, or_false, not_or]
  constructor
  · rintro ⟨⟨qAccount, qFor, qFrom⟩, ⟨xAccount, xFrom⟩, -, debit, qOn, xOn, yOn⟩
    exact ⟨⟨qAccount, qFor, qFrom, qOn⟩, ⟨xAccount, xFrom, xOn⟩, debit rfl, yOn⟩
  · rintro ⟨⟨qAccount, qFor, qFrom, qOn⟩, ⟨xAccount, xFrom, xOn⟩, yDebit, yOn⟩
    exact ⟨⟨qAccount, qFor, qFrom⟩, ⟨xAccount, xFrom⟩, nofun, fun _ => yDebit, qOn, xOn, yOn⟩

/-! Words that spell a phrase in capital letters, whose amount is no keyword. -/

section Capitals

variable (capitals : capitalized ws = k.phrase m Q X Y day)
  (plain : ∀ word : Keyword, m ≠ word.spelling)
include capitals plain

/-- Anchors in order stand where the sentence means them, but for the two whose keywords a word
before them may spell without harm. -/
theorem Anchored.places (anchored : Anchored ws k a) (ordered : a.Ordered k) :
    a.first = 4 ∧ 4 < a.link ∧ a.opposite = 7 ∧ a.far k = 8 ∧ a.second = 9 := by
  obtain ⟨afterHead, nearFirst, firstLink, linkOpposite, oppositeFar, farSecond⟩ :=
    Anchors.ordered_iff_near.mp ordered
  have near := anchored.near
  have far := anchored.far
  obtain ⟨-, -, link, opposite, first, second⟩ := anchored
  rw [capitals] at near far link first second
  -- no keyword counts after the place that the sentence has for it
  have firstLe : a.first ≤ 4 := first.le rfl
  have linkLe : a.link ≤ 6 := link.le rfl
  have farLe : a.far k ≤ 8 := far.le rfl
  have four : a.first = 4 := by
    have notTwo : a.first ≠ 2 := by
      intro two
      have one : a.near k = 1 := by omega
      rw [one] at near
      exact plain _ (Option.some.inj near.1)
    have notThree : a.first ≠ 3 := by
      intro three
      rw [three] at first
      have same := Option.some.inj first.1
      cases k <;> exact absurd same (by decide)
    omega
  have secondLe : a.second ≤ 9 := second.le (by omega) rfl
  have seven : a.opposite = 7 := by
    cases k with
    | debit =>
      have opposite : IsFirst (capitalized ws) "CREDIT" a.opposite := opposite
      rw [capitals] at opposite
      have oppositeLe : a.opposite ≤ 7 := opposite.le rfl
      have notSix : a.opposite ≠ 6 := by
        intro six
        rw [six] at opposite
        exact absurd (Option.some.inj opposite.1) (by decide)
      omega
    | credit =>
      have opposite : IsLast (capitalized ws) "DEBIT" a.opposite := opposite
      rw [capitals] at opposite
      have leOpposite : 7 ≤ a.opposite := opposite.le rfl
      omega
  omega

theorem Anchored.inPlace (anchored : Anchored ws k a) (ordered : a.Ordered k) :
    k.InPlace Q X Y := by
  obtain ⟨four, after, seven, eight, nine⟩ := anchored.places capitals plain ordered
  have far := anchored.far
  obtain ⟨-, -, link, opposite, first, second⟩ := anchored
  rw [capitals] at far link first second
  have notSecond : X ≠ "ACCOUNT" := by
    rintro rfl
    exact second.2.2 5 (by omega) (by omega) rfl
  refine ⟨⟨first.ne (j := 2) (by omega) rfl, link.ne (j := 2) (by omega) rfl,
    far.ne (j := 2) (by omega) rfl⟩, ⟨notSecond, far.ne (j := 5) (by omega) rfl⟩, ?_, ?_⟩
  · rintro rfl
    have opposite : IsFirst (capitalized ws) "CREDIT" a.opposite := opposite
    rw [capitals] at opposite
    exact ⟨opposite.ne (j := 2) (by omega) rfl, opposite.ne (j := 5) (by omega) rfl⟩
  · rintro rfl rfl
    have opposite : IsLast (capitalized ws) "DEBIT" a.opposite := opposite
    rw [capitals] at opposite
    exact opposite.2 10 (by omega) rfl

end Capitals

namespace Kind.InPlace

section Phrase

variable (inPlace : k.InPlace Q X Y)
include inPlace

theorem second_account : IsNext (k.phrase m Q X Y day) "ACCOUNT" 4 9 := by
  refine isNext_iff_drop.mpr ⟨rfl, by omega, ?_⟩
  cases k <;> simp [phrase, other, far, Keyword.spelling, inPlace.first]

variable (plain : ∀ word : Keyword, m ≠ word.spelling)
include plain

theorem first_account : IsFirst (k.phrase m Q X Y day) "ACCOUNT" 4 := by
  have amount : m ≠ "ACCOUNT" := plain .accountWord
  refine isFirst_iff_take.mpr ⟨rfl, ?_⟩
  cases k <;> simp [phrase, name, near, Keyword.spelling, amount, inPlace.currency]

theorem far_eight : IsFirst (k.phrase m Q X Y day) k.far.spelling 8 := by
  have keywords : ∀ v ∈ [k.name, k.near.spelling, "ACCOUNT", "FOR", k.other.spelling],
      v ≠ k.far.spelling := by
    cases k <;> decide
  have amount := plain k.far
  obtain ⟨-, -, currency⟩ := inPlace.currency
  obtain ⟨-, identifier⟩ := inPlace.first
  refine isFirst_iff_take.mpr ⟨rfl, ?_⟩
  simp only [List.forall_mem_cons] at keywords
  simp [phrase, amount, currency, identifier, keywords]

theorem exists_link : ∃ l, 4 < l ∧ l < 7 ∧ IsFirst (k.phrase m Q X Y day) "FOR" l := by
  have sixth : (k.phrase m Q X Y day)[6]? = some "FOR" := rfl
  obtain ⟨l, le, link⟩ := exists_isFirst sixth
  have amount : m ≠ "FOR" := plain .forWord
  have absent : ∀ v ∈ (k.phrase m Q X Y day).take 5, v ≠ "FOR" := by
    cases k <;> simp [phrase, name, near, Keyword.spelling, amount, inPlace.currency]
  refine ⟨l, ?_, by omega, link⟩
  by_contra early
  exact absent "FOR" (mem_take_iff.mpr ⟨l, by omega, link.1⟩) rfl

theorem oppositeAt (capitals : capitalized ws = k.phrase m Q X Y day) : OppositeAt ws k 7 := by
  cases k with
  | debit =>
    have amount : m ≠ "CREDIT" := plain .creditWord
    have placed : IsFirst (capitalized ws) "CREDIT" 7 := by
      rw [capitals]
      refine isFirst_iff_take.mpr ⟨rfl, ?_⟩
      simp [phrase, name, near, Keyword.spelling, amount, inPlace.credit rfl]
    exact placed
  | credit =>
    have clause : ∀ v ∈ dateClause day, v ≠ "DEBIT" := by
      cases day with
      | none => simp [dateClause]
      | some d =>
        have date : d.iso ≠ "DEBIT" := d.iso_ne_spelling .debitWord
        simp [dateClause, date]
    have placed : IsLast (capitalized ws) "DEBIT" 7 := by
      rw [capitals]
      refine isLast_iff_drop.mpr ⟨rfl, ?_⟩
      simpa [phrase, far, Keyword.spelling, inPlace.debit rfl] using clause
    exact placed

theorem exists_anchored (capitals : capitalized ws = k.phrase m Q X Y day) :
    ∃ a, Anchored ws k a ∧ a.Ordered k := by
  have third : (k.phrase m Q X Y day)[3]? = some k.near.spelling := rfl
  obtain ⟨n, le, near⟩ := exists_isFirst third
  have afterHead : 0 < n := by
    rcases Nat.eq_zero_or_pos n with rfl | after
    · have same := Option.some.inj near.1
      cases k <;> exact absurd same (by decide)
    · exact after
  have first : IsFirst (k.phrase m Q X Y day) "ACCOUNT" 4 := inPlace.first_account plain
  have second : IsNext (k.phrase m Q X Y day) "ACCOUNT" 4 9 := inPlace.second_account
  have far : IsFirst (k.phrase m Q X Y day) k.far.spelling 8 := inPlace.far_eight plain
  have opposite : OppositeAt ws k 7 := inPlace.oppositeAt plain capitals
  obtain ⟨l, afterFirst, beforeOpposite, link⟩ :
      ∃ l, 4 < l ∧ l < 7 ∧ IsFirst (k.phrase m Q X Y day) "FOR" l := inPlace.exists_link plain
  rw [← capitals] at near far link first second
  exact ⟨_, anchored_ofShape near first link opposite far second,
    Anchors.ordered_ofShape.mpr (by omega)⟩

end Phrase

end Kind.InPlace

/-! The date clause. An ON in front of it counts instead, and the word after that one is no
date. -/

section Clause

variable (capitals : capitalized ws = k.phrase m Q X Y day) (words : ws = k.phrase m q x y day)
  (plain : ∀ word : Keyword, m ≠ word.spelling)
include capitals words plain

theorem ne_iso_after_on {j : Nat} {d : Date} (before : j < 11)
    (on : (capitalized ws)[j]? = some "ON") : ws[j + 1]? ≠ some d.iso := by
  rw [capitals] at on
  have place : j = 2 ∨ j = 5 ∨ j = 10 := by
    have amount : m ≠ "ON" := plain .onWord
    interval_cases j <;> cases k <;>
      simp_all [Kind.phrase, Kind.name, Kind.near, Kind.far, Kind.other, Keyword.spelling]
  intro stated
  rw [words] at stated
  rcases place with rfl | rfl | rfl
  · exact d.iso_ne_spelling k.near (Option.some.inj stated).symm
  · exact d.iso_ne_spelling .forWord (Option.some.inj stated).symm
  · cases day with
    | none => cases stated
    | some c => exact d.iso_ne_spelling .onWord (Option.some.inj stated).symm

theorem Dated.on {e : Option Date} (dated : Dated ws e) : Q ≠ "ON" ∧ X ≠ "ON" ∧ Y ≠ "ON" := by
  have absent : ∀ i < 11, (capitalized ws)[i]? ≠ some "ON" := by
    intro i before on
    cases e with
    | none => exact dated i on
    | some d =>
      obtain ⟨j, first, stated, -⟩ := dated
      have le : j ≤ i := first.le on
      exact ne_iso_after_on capitals words plain (by omega) first.1 stated
  rw [capitals] at absent
  refine ⟨?_, ?_, ?_⟩
  · rintro rfl
    exact absent 2 (by decide) rfl
  · rintro rfl
    exact absent 5 (by decide) rfl
  · rintro rfl
    exact absent 10 (by decide) rfl

theorem Kind.Clear.dated (clear : k.Clear Q X Y) (late : ∀ d, day = some d → 1000 ≤ d.year) :
    Dated ws day := by
  have amount : m ≠ "ON" := plain .onWord
  have absent : ∀ v ∈ k.phrase m Q X Y none, v ≠ "ON" := by
    cases k <;> simp [Kind.phrase, Kind.name, Kind.near, Kind.far, Kind.other, Keyword.spelling,
      dateClause, amount, clear.on]
  cases day with
  | none =>
    intro i on
    rw [capitals] at on
    exact absent "ON" (List.mem_of_getElem? on) rfl
  | some d =>
    have first : IsFirst (capitalized ws) "ON" 11 := by
      rw [capitals]
      exact isFirst_iff_take.mpr ⟨rfl, absent⟩
    refine ⟨11, first, ?_, late d rfl⟩
    rw [words]
    rfl

end Clause

section Text

variable {n : Int} {i : Instruction Int}

theorem opens_phrase : Opens (k.phrase m q x y day) k := by
  have name : Text.upper k.name = k.name := by cases k <;> decide
  exact congrArg some name

theorem Kind.Clear.states (clear : k.Clear (Text.upper q) (Text.upper x) (Text.upper y))
    (amount : IsAmount m n) (first : IsAccountId x) (second : IsAccountId y)
    (late : ∀ d, day = some d → 1000 ≤ d.year) : States (k.phrase m q x y day)
      ⟨k, n, Text.upper q, (k.sides x y).debit, (k.sides x y).credit, day⟩ := by
  have capitals := capitalized_phrase k amount q x y day
  have plain := amount.ne_spelling
  obtain ⟨a, anchored, ordered⟩ := (Kind.clear_iff.mp clear).1.exists_anchored plain capitals
  obtain ⟨four, -, -, -, nine⟩ := anchored.places capitals plain ordered
  have one : (k.phrase m q x y day)[a.first + 1]? = some x := by
    rw [four]
    rfl
  have two : (k.phrase m q x y day)[a.second + 1]? = some y := by
    rw [nine]
    rfl
  refine ⟨opens_phrase, ⟨m, rfl, amount⟩, ⟨q, rfl, rfl⟩,
    ⟨a, x, y, anchored, ordered, one, two, first, second, ?_⟩,
    clear.dated capitals rfl plain late⟩
  cases k <;> exact ⟨rfl, rfl⟩

theorem States.clear (amount : IsAmount m n) (stated : States (k.phrase m q x y day) i) :
    k.Clear (Text.upper q) (Text.upper x) (Text.upper y) := by
  have capitals := capitalized_phrase k amount q x y day
  have plain := amount.ne_spelling
  obtain ⟨opening, -, -, ⟨a, _, _, anchored, ordered, -⟩, dated⟩ := stated
  rw [opening.unique (opens_phrase)] at anchored ordered
  exact Kind.clear_iff.mpr
    ⟨anchored.inPlace capitals plain ordered, dated.on capitals rfl plain⟩

theorem ofText_phrase (amount : IsAmount m n) (currency : Text.IsWord q.toList)
    (first : IsAccountId x) (second : IsAccountId y) (late : ∀ d, day = some d → 1000 ≤ d.year) :
    Instruction.ofText (" ".intercalate (k.phrase m q x y day)) = .ok i ↔
      k.Clear (Text.upper q) (Text.upper x) (Text.upper y) ∧
        i = ⟨k, n, Text.upper q, (k.sides x y).debit, (k.sides x y).credit, day⟩ := by
  rw [ofText_eq_ok, words_phrase k amount.isWord currency first second day]
  constructor
  · intro stated
    have clear := stated.clear amount
    exact ⟨clear, stated.unique (clear.states amount first second late)⟩
  · rintro ⟨clear, rfl⟩
    exact clear.states amount first second late

end Text

def debitSentence (m q d c : String) (day : Option Date) : String :=
  " ".intercalate (["DEBIT", m, q, "FROM", "ACCOUNT", d, "FOR", "CREDIT", "TO", "ACCOUNT", c] ++
    dateClause day)

def creditSentence (m q d c : String) (day : Option Date) : String :=
  " ".intercalate (["CREDIT", m, q, "TO", "ACCOUNT", c, "FOR", "DEBIT", "FROM", "ACCOUNT", d] ++
    dateClause day)

/-- A sentence with nothing between its parts is refused if its currency or an identifier
displaces a keyword, and is read as it was meant if not. -/
theorem canonical_sentences_read_back {m q d c : String} {n : Int} {day : Option Date}
    (amount : IsAmount m n) (currency : Text.IsWord q.toList) (debit : IsAccountId d)
    (credit : IsAccountId c) (late : ∀ e, day = some e → 1000 ≤ e.year) :
    ((∃ i, Instruction.ofText (debitSentence m q d c day) = .ok i) ↔
      Text.upper q ∉ ["ACCOUNT", "FOR", "CREDIT", "TO", "ON"] ∧
        Text.upper d ∉ ["ACCOUNT", "CREDIT", "TO", "ON"] ∧ Text.upper c ≠ "ON") ∧
    ((∃ i, Instruction.ofText (creditSentence m q d c day) = .ok i) ↔
      Text.upper q ∉ ["ACCOUNT", "FOR", "FROM", "ON"] ∧
        Text.upper c ∉ ["ACCOUNT", "FROM", "ON"] ∧ Text.upper d ∉ ["DEBIT", "ON"]) ∧
    (∀ i, Instruction.ofText (debitSentence m q d c day) = .ok i →
      i = ⟨.debit, n, Text.upper q, d, c, day⟩) ∧
    (∀ i, Instruction.ofText (creditSentence m q d c day) = .ok i →
      i = ⟨.credit, n, Text.upper q, d, c, day⟩) := by
  have debitRead : ∀ i, Instruction.ofText (debitSentence m q d c day) = .ok i ↔ _ := fun i =>
    ofText_phrase (k := .debit) (i := i) amount currency debit credit late
  have creditRead : ∀ i, Instruction.ofText (creditSentence m q d c day) = .ok i ↔ _ := fun i =>
    ofText_phrase (k := .credit) (i := i) amount currency credit debit late
  refine ⟨?_, ?_, fun i read => ((debitRead i).mp read).2,
    fun i read => ((creditRead i).mp read).2⟩
  · simp only [debitRead, exists_and_left, exists_eq, and_true, Kind.clear_debit]
  · simp only [creditRead, exists_and_left, exists_eq, and_true, Kind.clear_credit]

/-- An account with the name of a keyword: the DEBIT is read, the CREDIT refused. -/
theorem canonical_sentences_read_back_sample :
    (∃ i, Instruction.ofText
      (debitSentence "007" "from" "FOR" "account" (some ⟨2030, 1, 1, by decide⟩)) = .ok i) ∧
    ¬ ∃ i, Instruction.ofText
      (creditSentence "007" "from" "FOR" "account" (some ⟨2030, 1, 1, by decide⟩)) = .ok i := by
  have amount : IsAmount "007" 7 := amountOfToken?_eq_some.mp (by decide)
  have currency : Text.IsWord "from".toList := by decide
  have debit : IsAccountId "FOR" := by decide
  have credit : IsAccountId "account" := by decide
  have late : ∀ e : Date, some ⟨2030, 1, 1, by decide⟩ = some e → 1000 ≤ e.year := by
    rintro e same
    cases same
    decide
  obtain ⟨debitRead, creditRead, -, -⟩ :=
    canonical_sentences_read_back amount currency debit credit late
  refine ⟨debitRead.mpr (by decide), fun read => ?_⟩
  exact absurd (creditRead.mp read) (by decide)

end Remit
