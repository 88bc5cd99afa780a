import Remit.Proofs.Grammar.Erasure
import Remit.Proofs.Grammar.Phrase

/-! Sentences that lack a field. Fields are found by their distance from the opening and from
ACCOUNT, and keywords by a search of the whole sentence, so a keyword may be read as a field too.
If nothing is read twice, the currency or an identifier can be left out, and the word after it is
read in its place. -/

namespace Remit

variable {text rest : String} {ws : List String} {i : Instruction Int} {k : Kind} {a : Anchors}
  {on : Option Nat} {o p : Nat} {x y : String}

def Anchors.fields (a : Anchors) : List Nat := [0, 1, 2, a.first + 1, a.second + 1]

def clausePlaces : Option Nat → List Nat
  | none => []
  | some o => [o, o + 1]

def Anchors.places (a : Anchors) (k : Kind) (on : Option Nat) : List Nat :=
  a.fields ++ (a.inOrder k ++ clausePlaces on)

/-- None of the keywords that can stand in the place of a field does. -/
structure Anchors.Apart (a : Anchors) (k : Kind) (on : Option Nat) : Prop where
  near : a.near k ≠ 2
  link : a.link ≠ a.first + 1
  clause : ∀ o ∈ on, o ≠ 2 ∧ o ≠ a.first + 1 ∧ o ≠ a.second + 1

def Instruction.between (i : Instruction Int) (first second : String) : Instruction Int :=
  { i with debit := (i.kind.sides first second).debit
           credit := (i.kind.sides first second).credit }

def ClauseAt (ws : List String) (on : Option Nat) : Prop :=
  ∀ o, o ∈ on ↔ IsFirst (capitalized ws) "ON" o

theorem Anchored.spells (anchored : Anchored ws k a) :
    ∀ n ∈ a.inOrder k, ∃ word ≠ Keyword.onWord, (capitalized ws)[n]? = some word.spelling := by
  simp only [Anchors.inOrder, List.forall_mem_cons]
  exact ⟨⟨k.near, by cases k <;> decide, anchored.near.1⟩,
    ⟨.accountWord, by decide, anchored.first.1⟩, ⟨.forWord, by decide, anchored.link.1⟩,
    ⟨k.other, by cases k <;> decide, anchored.opposite.spelled⟩,
    ⟨k.far, by cases k <;> decide, anchored.far.1⟩, ⟨.accountWord, by decide, anchored.second.1⟩,
    by simp⟩

theorem Anchors.Ordered.nodup_fields (ordered : a.Ordered k) : a.fields.Nodup := by
  obtain ⟨afterHead, nearFirst, -⟩ := ordered_iff_near.mp ordered
  have firstSecond := ordered.first_lt_second
  simp only [fields, List.nodup_cons, List.mem_cons, List.not_mem_nil, or_false,
    not_false_eq_true, List.nodup_nil, and_true]
  omega

section Places

variable (stated : States ws i) (anchored : Anchored ws i.kind a) (clause : ClauseAt ws on)
include stated

theorem States.ordered (anchored : Anchored ws i.kind a) : a.Ordered i.kind := by
  obtain ⟨b, _, _, others, ordered, -⟩ := stated.sides
  rwa [anchored.unique others]

theorem States.ne_one {n : Nat} {word : Keyword}
    (spelled : (capitalized ws)[n]? = some word.spelling) : n ≠ 1 := by
  rintro rfl
  -- the amount stands there, and a numeral is no keyword
  obtain ⟨m, found, amount⟩ := stated.amount
  rw [getElem?_capitalized found, amount.upper] at spelled
  exact amount.ne_spelling word (Option.some.inj spelled)

include clause

theorem States.date_after (here : o ∈ on) :
    ∃ d : Date, (capitalized ws)[o + 1]? = some d.iso := by
  have first := (clause o).mp here
  have date := stated.date
  cases executeBy : i.executeBy with
  | none =>
    rw [executeBy] at date
    exact absurd first.1 (date o)
  | some d =>
    rw [executeBy] at date
    obtain ⟨n, same, found, -⟩ := date
    cases same.unique first
    exact ⟨d, by rw [getElem?_capitalized found, d.upper_iso]⟩

include anchored

/-- ON and the date stand in the place of no other keyword, nor of the kind or the amount. -/
theorem States.clause_apart (here : o ∈ on) :
    o ≠ 0 ∧ o ≠ 1 ∧ ∀ n ∈ a.inOrder i.kind, n ≠ o ∧ n ≠ o + 1 := by
  obtain ⟨d, date⟩ := stated.date_after clause here
  have found : (capitalized ws)[o]? = some Keyword.onWord.spelling := ((clause o).mp here).1
  refine ⟨?_, stated.ne_one found, fun n member => ?_⟩
  · rintro rfl
    have same := Option.some.inj (stated.opening.symm.trans found)
    cases named : i.kind <;> rw [named] at same <;> exact absurd same (by decide)
  · obtain ⟨word, other, spelled⟩ := anchored.spells n member
    constructor
    · rintro rfl
      have same := Option.some.inj (spelled.symm.trans found)
      cases word <;> first | exact other rfl | exact absurd same (by decide)
    · rintro rfl
      exact d.iso_ne_spelling word (Option.some.inj (date.symm.trans spelled))

theorem States.places_nodup (apart : a.Apart i.kind on) : (a.places i.kind on).Nodup := by
  have ordered := stated.ordered anchored
  have nearOne : a.near i.kind ≠ 1 := stated.ne_one anchored.near.1
  have nearTwo := apart.near
  have linkNext := apart.link
  have keywords : (a.inOrder i.kind).Nodup :=
    (List.pairwise_cons.mp (Anchors.ordered_iff.mpr ordered)).2.imp Nat.ne_of_lt
  have fields := ordered.nodup_fields
  obtain ⟨afterHead, nearFirst, firstLink, linkOpposite, oppositeFar, farSecond⟩ :=
    Anchors.ordered_iff_near.mp ordered
  have crossed : ∀ p ∈ a.fields, ∀ n ∈ a.inOrder i.kind, p ≠ n := by
    simp only [Anchors.fields, Anchors.inOrder, List.forall_mem_cons, List.not_mem_nil,
      false_implies, implies_true, and_true]
    omega
  cases on with
  | none =>
    simpa [Anchors.places, clausePlaces, List.nodup_append] using ⟨fields, keywords, crossed⟩
  | some o =>
    obtain ⟨zero, one, others⟩ := stated.clause_apart anchored clause (o := o) rfl
    obtain ⟨two, first, second⟩ := apart.clause o rfl
    have dated : ∀ n ∈ a.inOrder i.kind, ∀ m ∈ clausePlaces (some o), n ≠ m := by
      simpa [clausePlaces] using others
    have fromFields : ∀ p ∈ a.fields, ∀ m ∈ clausePlaces (some o), p ≠ m := by
      simp only [Anchors.inOrder, List.forall_mem_cons] at others
      simp only [Anchors.fields, clausePlaces, List.forall_mem_cons, List.not_mem_nil,
        false_implies, implies_true, and_true]
      omega
    refine List.nodup_append.mpr ⟨fields, List.nodup_append.mpr ⟨keywords, ?_, dated⟩, ?_⟩
    · simp [clausePlaces]
    · intro p field n rest
      rcases List.mem_append.mp rest with keyword | later
      · exact crossed p field n keyword
      · exact fromFields p field n later

end Places

theorem Anchors.apart_of_nodup (nodup : (a.places k on).Nodup) : a.Apart k on := by
  obtain ⟨-, -, apart⟩ := List.nodup_append.mp nodup
  refine ⟨?_, ?_, ?_⟩
  · exact (apart 2 (by simp [fields]) _ (by simp [inOrder])).symm
  · exact (apart (a.first + 1) (by simp [fields]) _ (by simp [inOrder])).symm
  · rintro o rfl
    have here : o ∈ a.inOrder k ++ clausePlaces (some o) := by simp [clausePlaces]
    exact ⟨(apart 2 (by simp [fields]) o here).symm,
      (apart (a.first + 1) (by simp [fields]) o here).symm,
      (apart (a.second + 1) (by simp [fields]) o here).symm⟩

/-- A word that is read twice is a keyword, and it is also the currency or an account. -/
theorem States.named_by_keyword (stated : States ws i) (anchored : Anchored ws i.kind a)
    (clause : ClauseAt ws on) (first : ws[a.first + 1]? = some x)
    (second : ws[a.second + 1]? = some y) (twice : ¬ (a.places i.kind on).Nodup) :
    i.currency ∈ [i.kind.near.spelling, "ON"] ∨ Text.upper x ∈ ["FOR", "ON"] ∨
      Text.upper y = "ON" := by
  obtain ⟨q, currency, spelled⟩ := stated.currency
  have capital : ∀ {n : Nat} {w u : String}, ws[n]? = some w → (capitalized ws)[n]? = some u →
      Text.upper w = u := fun found same =>
    Option.some.inj ((getElem?_capitalized found).symm.trans same)
  by_contra other
  simp only [List.mem_cons, List.not_mem_nil, or_false, not_or, spelled] at other
  obtain ⟨⟨currencyNear, currencyOn⟩, ⟨firstLink, firstOn⟩, secondOn⟩ := other
  refine twice (stated.places_nodup anchored clause ⟨?_, ?_, fun o here => ⟨?_, ?_, ?_⟩⟩)
  · intro two
    exact currencyNear (capital currency (two ▸ anchored.near.1))
  · intro next
    exact firstLink (capital first (next ▸ anchored.link.1))
  · rintro rfl
    exact currencyOn (capital currency ((clause _).mp here).1)
  · rintro rfl
    exact firstOn (capital first ((clause _).mp here).1)
  · rintro rfl
    exact secondOn (capital second ((clause _).mp here).1)

/-- What is around a field stays where it is without it. -/
theorem Shaped.omit {n : Int} {date : Option Date} (shaped : Shaped ws k n a date)
    (clause : ClauseAt ws on) (once : (a.places k on).Nodup) (field : p ∈ a.fields)
    (after : 1 < p) (omitted : Text.words rest = ws.eraseIdx p) :
    Shaped (Text.words rest) k n (a.shift p) date := by
  obtain ⟨-, -, apart⟩ := List.nodup_append.mp once
  rw [omitted]
  refine shaped.eraseIdx after (fun n member => ?_) (fun o first => ?_)
  · exact (apart p field n (List.mem_append_left _ member)).symm
  · have here : on = some o := (clause o).mpr first
    have kept : ∀ m ∈ clausePlaces on, m ≠ p := fun m member =>
      (apart p field m (List.mem_append_right _ member)).symm
    rw [here] at kept
    exact ⟨kept o (by simp [clausePlaces]), kept (o + 1) (by simp [clausePlaces])⟩

theorem Anchors.two_lt_near (once : (a.places k on).Nodup) (ordered : a.Ordered k) :
    2 < a.near k := by
  obtain ⟨-, -, apart⟩ := List.nodup_append.mp once
  have one : 1 ≠ a.near k := apart 1 (by simp [fields]) _ (by simp [inOrder])
  have two : 2 ≠ a.near k := apart 2 (by simp [fields]) _ (by simp [inOrder])
  obtain ⟨afterHead, -⟩ := ordered_iff_near.mp ordered
  omega

/-! What is read in place of a field that is left out: the word after it. -/

section Omitted

variable {q : String} (shaped : Shaped ws i.kind i.amount a i.executeBy)
  (clause : ClauseAt ws on) (once : (a.places i.kind on).Nodup)
  (currency : ws[2]? = some q) (spelled : i.currency = Text.upper q)
  (first : ws[a.first + 1]? = some x) (second : ws[a.second + 1]? = some y)
include shaped clause once

include first second in
theorem Shaped.omit_currency (named : i.between x y = i)
    (valid : IsAccountId x ∧ IsAccountId y) (omitted : Text.words rest = ws.eraseIdx 2) :
    ∃ next, ws[3]? = some next ∧
      Instruction.ofText rest = .ok { i with currency := Text.upper next } := by
  have near := Anchors.two_lt_near once shaped.ordered
  obtain ⟨-, nearFirst, firstLink, linkOpposite, oppositeFar, farSecond⟩ :=
    Anchors.ordered_iff_near.mp shaped.ordered
  have length := (List.getElem?_eq_some_iff.mp second).1
  have remaining := shaped.omit clause once (by simp [Anchors.fields]) (by omega) omitted
  obtain ⟨next, found⟩ : ∃ next, ws[3]? = some next := ⟨_, List.getElem?_eq_getElem (by omega)⟩
  refine ⟨next, found, ?_⟩
  have read := remaining.ofText (q := next) (x := x) (y := y) ?_ ?_ ?_
  · rw [read, if_pos valid]
    conv_rhs => rw [← named]
    rfl
  · rw [omitted, getElem?_eraseIdx_self, found]
  · rw [omitted]
    exact (getElem?_eraseIdx_succ (by omega) (by omega)).trans first
  · rw [omitted]
    exact (getElem?_eraseIdx_succ (by omega) (by omega)).trans second

include currency spelled

include second in
theorem Shaped.omit_first (valid : IsAccountId y)
    (omitted : Text.words rest = ws.eraseIdx (a.first + 1)) :
    ∃ next, ws[a.first + 2]? = some next ∧ Instruction.ofText rest =
      if IsAccountId next then .ok (i.between next y) else .error .invalidAccountId := by
  obtain ⟨afterHead, nearFirst, firstLink, linkOpposite, oppositeFar, farSecond⟩ :=
    Anchors.ordered_iff_near.mp shaped.ordered
  have length := (List.getElem?_eq_some_iff.mp second).1
  have remaining := shaped.omit clause once (by simp [Anchors.fields]) (by omega) omitted
  obtain ⟨next, found⟩ : ∃ next, ws[a.first + 2]? = some next :=
    ⟨_, List.getElem?_eq_getElem (by omega)⟩
  refine ⟨next, found, ?_⟩
  have read := remaining.ofText (q := q) (x := next) (y := y) ?_ ?_ ?_
  · rw [read, ← spelled]
    simp only [valid, and_true]
    rfl
  · rw [omitted, List.getElem?_eraseIdx_of_lt (by omega), currency]
  · rw [omitted]
    exact getElem?_eraseIdx_succ_self.trans found
  · rw [omitted]
    exact (getElem?_eraseIdx_succ (by omega) (by omega)).trans second

include first in
theorem Shaped.omit_second (valid : IsAccountId x)
    (omitted : Text.words rest = ws.eraseIdx (a.second + 1)) :
    Instruction.ofText rest = match ws[a.second + 2]? with
      | none => .error .malformed
      | some next =>
        if IsAccountId next then .ok (i.between x next) else .error .invalidAccountId := by
  obtain ⟨afterHead, nearFirst, firstLink, linkOpposite, oppositeFar, farSecond⟩ :=
    Anchors.ordered_iff_near.mp shaped.ordered
  have remaining := shaped.omit clause once (by simp [Anchors.fields]) (by omega) omitted
  have refill : (Text.words rest)[(a.shift (a.second + 1)).second + 1]? = ws[a.second + 2]? := by
    rw [omitted]
    exact getElem?_eraseIdx_succ_self
  cases found : ws[a.second + 2]? with
  | none => exact remaining.ofText_short (refill.trans found)
  | some next =>
    have read := remaining.ofText (q := q) (x := x) (y := next) ?_ ?_ (refill.trans found)
    · rw [read, ← spelled]
      simp only [valid, true_and]
      rfl
    · rw [omitted, List.getElem?_eraseIdx_of_lt (by omega), currency]
    · rw [omitted]
      exact (getElem?_eraseIdx_succ (by omega) (by omega)).trans first

end Omitted

/-- What is read of a sentence that lacks its currency or one of its identifiers. -/
structure Refilled (ws : List String) (i : Instruction Int) (a : Anchors) (x y rest : String) :
    Prop where
  currency : Text.words rest = ws.eraseIdx 2 → ∃ next, ws[3]? = some next ∧
    Instruction.ofText rest = .ok { i with currency := Text.upper next }
  first : Text.words rest = ws.eraseIdx (a.first + 1) → ∃ next, ws[a.first + 2]? = some next ∧
    Instruction.ofText rest =
      if IsAccountId next then .ok (i.between next y) else .error .invalidAccountId
  second : Text.words rest = ws.eraseIdx (a.second + 1) → Instruction.ofText rest =
    match ws[a.second + 2]? with
    | none => .error .malformed
    | some next => if IsAccountId next then .ok (i.between x next) else .error .invalidAccountId

theorem Instruction.SidesAre.between (sides : i.SidesAre x y) : i.between x y = i := by
  obtain ⟨k, n, c, d, e, date⟩ := i
  cases k <;> obtain ⟨rfl, rfl⟩ := sides <;> rfl

theorem States.ofText_sentence (stated : States (Text.words text) i) :
    Sentence.ofText text = ⟨Text.words text⟩ := by
  unfold Sentence.ofText
  split
  · rename_i blank
    rw [blank] at stated
    cases stated.opening
  · rfl

/-- A sentence that is read has all its places apart, unless a keyword is also its currency or the
identifier of an account. If they are apart, it is still read without its currency, and without an
identifier if the word after it can be one. -/
theorem omitted_field_is_next_word (read : Instruction.ofText text = .ok i) :
    ∃ a on x y, (Sentence.ofText text).anchors? i.kind = some (a.inOrder i.kind) ∧
      (Sentence.ofText text).located .onWord = on.toList ∧
      (Text.words text)[a.first + 1]? = some x ∧ (Text.words text)[a.second + 1]? = some y ∧
      i.between x y = i ∧ ((a.places i.kind on).Nodup ↔ a.Apart i.kind on) ∧
      (¬ (a.places i.kind on).Nodup → i.currency ∈ [i.kind.near.spelling, "ON"] ∨
        Text.upper x ∈ ["FOR", "ON"] ∨ Text.upper y = "ON") ∧
      ((a.places i.kind on).Nodup → ∀ rest, Refilled (Text.words text) i a x y rest) := by
  have stated := ofText_eq_ok.mp read
  obtain ⟨a, x, y, anchored, ordered, first, second, one, two, sides⟩ := stated.sides
  obtain ⟨q, currency, spelled⟩ := stated.currency
  have clause : ClauseAt (Text.words text)
      ((Sentence.mk (Text.words text)).occurrences .onWord).head? :=
    fun _ => Sentence.occurrences_head?
  have shaped : Shaped (Text.words text) i.kind i.amount a i.executeBy :=
    ⟨stated.opening, stated.amount, anchored, ordered, stated.date⟩
  have named := sides.between
  refine ⟨a, _, x, y, ?_, ?_, first, second, named,
    ⟨Anchors.apart_of_nodup, stated.places_nodup anchored clause⟩,
    stated.named_by_keyword anchored clause first second, fun once rest => ⟨?_, ?_, ?_⟩⟩
  · rw [stated.ofText_sentence]
    exact Sentence.anchors?_of_anchored anchored
  · rw [stated.ofText_sentence]
    rfl
  · exact shaped.omit_currency clause once first second named ⟨one, two⟩
  · exact shaped.omit_first clause once currency spelled second two
  · exact shaped.omit_second clause once currency spelled first one

/-- A sentence whose currency and identifiers can be left out, one at a time. -/
theorem omitted_field_is_next_word_sample :
    Instruction.ofText "DEBIT 500 FROM ACCOUNT A1 FOR CREDIT TO ACCOUNT B1 ON 2030-01-01" =
      .ok ⟨.debit, 500, "FROM", "A1", "B1", some ⟨2030, 1, 1, by decide⟩⟩ ∧
    Instruction.ofText "DEBIT 500 USD FROM ACCOUNT FOR CREDIT TO ACCOUNT B1 ON 2030-01-01" =
      .ok ⟨.debit, 500, "USD", "FOR", "B1", some ⟨2030, 1, 1, by decide⟩⟩ ∧
    Instruction.ofText "DEBIT 500 USD FROM ACCOUNT A1 FOR CREDIT TO ACCOUNT ON 2030-01-01" =
      .ok ⟨.debit, 500, "USD", "A1", "ON", some ⟨2030, 1, 1, by decide⟩⟩ := by
  have read : Instruction.ofText
      "DEBIT 500 USD FROM ACCOUNT A1 FOR CREDIT TO ACCOUNT B1 ON 2030-01-01" =
        .ok ⟨.debit, 500, "USD", "A1", "B1", some ⟨2030, 1, 1, by decide⟩⟩ := by
    decide +kernel
  have words : Text.words "DEBIT 500 USD FROM ACCOUNT A1 FOR CREDIT TO ACCOUNT B1 ON 2030-01-01" =
      ["DEBIT", "500", "USD", "FROM", "ACCOUNT", "A1", "FOR", "CREDIT", "TO", "ACCOUNT", "B1",
        "ON", "2030-01-01"] := by
    decide +kernel
  obtain ⟨a, on, x, y, anchors, clause, one, two, -, apart, -, refilled⟩ :=
    omitted_field_is_next_word read
  have located : a.inOrder .debit = [3, 4, 6, 7, 8, 9] :=
    Option.some.inj (anchors.symm.trans (by decide +kernel))
  obtain ⟨near, first, link, -, -, second⟩ : a.near .debit = 3 ∧ a.first = 4 ∧ a.link = 6 ∧
      a.opposite = 7 ∧ a.far .debit = 8 ∧ a.second = 9 := by
    simpa [Anchors.inOrder] using located
  have eleven : on.toList = [11] := clause.symm.trans (by decide +kernel)
  have spread : a.Apart .debit on := by
    refine ⟨by omega, by omega, fun o here => ?_⟩
    have same : o = 11 := by simpa [Option.mem_def.mp here] using eleven
    omega
  have refill := refilled (apart.mpr spread)
  rw [words] at one two refill
  rw [first] at one
  rw [second] at two
  cases one
  cases two
  refine ⟨?_, ?_, ?_⟩
  · have capital : Text.upper "FROM" = "FROM" := upper_spelling .fromWord
    have omitted := refill "DEBIT 500 FROM ACCOUNT A1 FOR CREDIT TO ACCOUNT B1 ON 2030-01-01"
    obtain ⟨next, found, filled⟩ := omitted.currency (by decide +kernel)
    cases found
    rw [capital] at filled
    exact filled
  · have omitted := refill "DEBIT 500 USD FROM ACCOUNT FOR CREDIT TO ACCOUNT B1 ON 2030-01-01"
    obtain ⟨next, found, filled⟩ := omitted.first (by rw [first]; decide +kernel)
    rw [first] at found
    cases found
    rw [if_pos (by decide)] at filled
    exact filled
  · have omitted := refill "DEBIT 500 USD FROM ACCOUNT A1 FOR CREDIT TO ACCOUNT ON 2030-01-01"
    have filled := omitted.second (by rw [second]; decide +kernel)
    rw [second] at filled
    exact filled

/-- A sentence without its currency is read with a keyword for it. -/
theorem places_not_apart :
    ¬ ∀ (text : String) (i : Instruction Int) (a : Anchors) (on : Option Nat),
      Instruction.ofText text = .ok i →
      (Sentence.ofText text).anchors? i.kind = some (a.inOrder i.kind) →
      (Sentence.ofText text).located .onWord = on.toList → (a.places i.kind on).Nodup := by
  intro apart
  have once := apart "DEBIT 500 FROM ACCOUNT A1 FOR CREDIT TO ACCOUNT B1"
    ⟨.debit, 500, "FROM", "A1", "B1", none⟩ ⟨2, 7, 5, 6, 3, 8⟩ none (by decide +kernel)
    (by decide +kernel) (by decide +kernel)
  exact absurd once (by decide)

end Remit
