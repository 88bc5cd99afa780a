import Mathlib.Data.List.Forall2
import Mathlib.Order.Monotone.Basic
import Remit.Proofs.Grammar.Refusal
import Remit.Proofs.Text.LetterCase

/-! A sentence that is found again in another. Its three leading words stand at their own places
there, its keywords stand in the same order and no other keyword among them, and the words that are
read as fields are the same but for the case of their letters. Every rule that one of the two
breaks is broken by the other, and what they state differs in the case of the identifiers only. -/

namespace Remit

section Word

variable {v w : String} {n : Int}

theorem IsAmount.eq_of_alike (amount : IsAmount w n)
    (alike : Text.asciiLower v = Text.asciiLower w) : v = w :=
  Text.eq_of_asciiLower alike fun c member => by
    rw [Text.isCaseless, amount.digits c member, Bool.true_or]

theorem isAmount_congr (alike : Text.asciiLower v = Text.asciiLower w) :
    IsAmount v n ↔ IsAmount w n := by
  constructor
  · intro amount
    rwa [amount.eq_of_alike alike.symm]
  · intro amount
    rwa [amount.eq_of_alike alike]

theorem isAccountId_asciiLower (s : String) : isAccountId (Text.asciiLower s) = isAccountId s := by
  have same : isAccountIdChar ∘ Char.toLower = isAccountIdChar :=
    funext (Text.apply_toLower isAccountIdChar (by decide))
  simp only [isAccountId, Text.asciiLower, String.toList_ofList, List.isEmpty_map, List.all_map,
    same]

theorem isAccountId_congr (alike : Text.asciiLower v = Text.asciiLower w) :
    IsAccountId v ↔ IsAccountId w := by
  rw [← isAccountId_iff, ← isAccountId_iff, ← isAccountId_asciiLower, alike,
    isAccountId_asciiLower]

theorem Date.isCaseless_iso (d : Date) : ∀ c ∈ d.iso.toList, Text.isCaseless c = true := by
  intro c member
  rw [iso, String.toList_ofList] at member
  simp only [isoChars, List.mem_cons, List.not_mem_nil, or_false] at member
  rcases member with rfl | rfl | rfl | rfl | rfl | rfl | rfl | rfl | rfl | rfl
  case inr.inr.inr.inr.inl | inr.inr.inr.inr.inr.inr.inr.inl => rfl
  all_goals rw [Text.isCaseless, isDigit_digit, Bool.true_or]

end Word

def SameWord (v w : Option String) : Prop := v.map Text.asciiLower = w.map Text.asciiLower

namespace SameWord

variable {us vs : List String} {i j : Nat} {w : String}

theorem exists_eq (same : SameWord vs[j]? us[i]?) (found : us[i]? = some w) :
    ∃ v, vs[j]? = some v ∧ Text.asciiLower v = Text.asciiLower w := by
  rw [SameWord, found, Option.map_some, Option.map_eq_some_iff] at same
  exact same

theorem lt_iff (same : SameWord vs[j]? us[i]?) : i < us.length ↔ j < vs.length := by
  have ends : vs[j]? = none ↔ us[i]? = none := by
    rw [← Option.map_eq_none_iff, same, Option.map_eq_none_iff]
  rw [List.getElem?_eq_none_iff, List.getElem?_eq_none_iff] at ends
  omega

theorem capitalized_eq (same : SameWord vs[j]? us[i]?) :
    (capitalized vs)[j]? = (capitalized us)[i]? := by
  have upper : ∀ o : Option String, o.map Text.upper =
      (o.map Text.asciiLower).map Text.upper := by
    intro o
    rw [Option.map_map]
    exact Option.map_congr fun s _ => (Text.upper_asciiLower s).symm
  rw [capitalized, List.getElem?_map, upper, same, ← upper, capitalized, List.getElem?_map]

/-- What does not depend on the case of a word holds at both places or at neither. -/
theorem exists_iff {P : String → Prop} (same : SameWord vs[j]? us[i]?)
    (congr : ∀ {v w}, Text.asciiLower v = Text.asciiLower w → (P v ↔ P w)) :
    (∃ w, us[i]? = some w ∧ P w) ↔ ∃ v, vs[j]? = some v ∧ P v := by
  constructor
  · rintro ⟨w, found, holds⟩
    obtain ⟨v, stands, alike⟩ := same.exists_eq found
    exact ⟨v, stands, (congr alike).mpr holds⟩
  · rintro ⟨v, stands, holds⟩
    obtain ⟨w, found, alike⟩ := exists_eq (Eq.symm same) stands
    exact ⟨w, found, (congr alike).mpr holds⟩

end SameWord

/-- The places of the keywords after which a field is read. -/
inductive Leads (ws : List String) : Nat → Prop where
  | first {i : Nat} (account : IsFirst (capitalized ws) "ACCOUNT" i) : Leads ws i
  | second {i j : Nat} (account : IsFirst (capitalized ws) "ACCOUNT" i)
      (next : IsNext (capitalized ws) "ACCOUNT" i j) : Leads ws j
  | date {i : Nat} (on : IsFirst (capitalized ws) "ON" i) : Leads ws i

structure Counterpart (ws vs : List String) (e : Nat → Nat) : Prop where
  ascending : StrictMono e
  leading : ∀ i < 3, e i = i ∧ SameWord vs[i]? ws[i]?
  keyword : ∀ (k : Keyword) (j : Nat), (capitalized vs)[j]? = some k.spelling ↔
    ∃ i, e i = j ∧ (capitalized ws)[i]? = some k.spelling
  field : ∀ i, Leads ws i → SameWord vs[e i + 1]? ws[i + 1]?

def Anchors.map (a : Anchors) (e : Nat → Nat) : Anchors :=
  ⟨e a.source, e a.target, e a.link, e a.opposite, e a.first, e a.second⟩

namespace Counterpart

variable {ws vs : List String} {e : Nat → Nat} {k : Kind} {a b : Anchors} {w : Keyword} {i j : Nat}

theorem found (counter : Counterpart ws vs e) (stands : (capitalized ws)[i]? = some w.spelling) :
    (capitalized vs)[e i]? = some w.spelling :=
  (counter.keyword w (e i)).mpr ⟨i, rfl, stands⟩

theorem isFirst (counter : Counterpart ws vs e) (first : IsFirst (capitalized ws) w.spelling i) :
    IsFirst (capitalized vs) w.spelling (e i) := by
  refine ⟨counter.found first.1, fun j before stands => ?_⟩
  obtain ⟨n, rfl, same⟩ := (counter.keyword w j).mp stands
  exact first.2 n (counter.ascending.lt_iff_lt.mp before) same

theorem isLast (counter : Counterpart ws vs e) (last : IsLast (capitalized ws) w.spelling i) :
    IsLast (capitalized vs) w.spelling (e i) := by
  refine ⟨counter.found last.1, fun j after stands => ?_⟩
  obtain ⟨n, rfl, same⟩ := (counter.keyword w j).mp stands
  exact last.2 n (counter.ascending.lt_iff_lt.mp after) same

theorem isNext (counter : Counterpart ws vs e) (next : IsNext (capitalized ws) w.spelling i j) :
    IsNext (capitalized vs) w.spelling (e i) (e j) := by
  refine ⟨counter.found next.1, counter.ascending next.2.1, fun m after before stands => ?_⟩
  obtain ⟨n, rfl, same⟩ := (counter.keyword w m).mp stands
  exact next.2.2 n (counter.ascending.lt_iff_lt.mp after)
    (counter.ascending.lt_iff_lt.mp before) same

theorem mem_iff (counter : Counterpart ws vs e) (w : Keyword) :
    w.spelling ∈ capitalized vs ↔ w.spelling ∈ capitalized ws := by
  simp only [List.mem_iff_getElem?, counter.keyword]
  constructor
  · rintro ⟨_, i, -, stands⟩
    exact ⟨i, stands⟩
  · rintro ⟨i, stands⟩
    exact ⟨e i, i, rfl, stands⟩

theorem anchored (counter : Counterpart ws vs e) (anchored : Anchored ws k a) :
    Anchored vs k (a.map e) := by
  have opposite : OppositeAt vs k (e a.opposite) := by
    cases k with
    | debit => exact counter.isFirst (w := .creditWord) anchored.opposite
    | credit => exact counter.isLast (w := .debitWord) anchored.opposite
  exact ⟨counter.isFirst (w := .fromWord) anchored.source,
    counter.isFirst (w := .toWord) anchored.target, counter.isFirst (w := .forWord) anchored.link,
    opposite, counter.isFirst (w := .accountWord) anchored.first,
    counter.isNext (w := .accountWord) anchored.second⟩

theorem hasKeywords (counter : Counterpart ws vs e) (has : HasKeywords vs k) :
    HasKeywords ws k := by
  obtain ⟨near, link, other, far, i, j, before, one, two⟩ := has
  obtain ⟨m, rfl, first⟩ := (counter.keyword .accountWord i).mp one
  obtain ⟨n, rfl, second⟩ := (counter.keyword .accountWord j).mp two
  exact ⟨(counter.mem_iff _).mp near, (counter.mem_iff .forWord).mp link,
    (counter.mem_iff _).mp other, (counter.mem_iff _).mp far, m, n,
    counter.ascending.lt_iff_lt.mp before, first, second⟩

theorem anchored_iff (counter : Counterpart ws vs e) :
    Anchored vs k b ↔ ∃ a, Anchored ws k a ∧ b = a.map e := by
  constructor
  · intro others
    obtain ⟨a, own⟩ := exists_anchored_iff.mpr
      (counter.hasKeywords (exists_anchored_iff.mp ⟨b, others⟩))
    exact ⟨a, own, others.unique (counter.anchored own)⟩
  · rintro ⟨a, own, rfl⟩
    exact counter.anchored own

theorem opens_iff (counter : Counterpart ws vs e) : Opens vs k ↔ Opens ws k := by
  obtain ⟨-, same⟩ := counter.leading 0 (by decide)
  rw [Opens, Opens, same.capitalized_eq]

theorem ordered_iff (counter : Counterpart ws vs e) : (a.map e).Ordered k ↔ a.Ordered k := by
  have opening : e 0 = 0 := (counter.leading 0 (by decide)).1
  have start : ∀ n, 0 < e n ↔ 0 < n := by
    intro n
    have order := counter.ascending.lt_iff_lt (a := 0) (b := n)
    rwa [opening] at order
  cases k <;>
    simp only [Anchors.Ordered, Anchors.map, start, counter.ascending.lt_iff_lt]

theorem dated_iff (counter : Counterpart ws vs e) {date : Option Date} :
    Dated vs date ↔ Dated ws date := by
  cases date with
  | none =>
    have absent := not_congr (counter.mem_iff .onWord)
    simp only [List.mem_iff_getElem?, not_exists] at absent
    exact absent
  | some d =>
    -- the word after ON has no letters
    have stated : ∀ i, IsFirst (capitalized ws) "ON" i →
        (vs[e i + 1]? = some d.iso ↔ ws[i + 1]? = some d.iso) := by
      intro i on
      have same := (counter.field i (.date on)).exists_iff (P := (· = d.iso)) fun {v w} alike => by
        constructor
        · rintro rfl
          exact Text.eq_of_asciiLower alike.symm d.isCaseless_iso
        · rintro rfl
          exact Text.eq_of_asciiLower alike d.isCaseless_iso
      simpa using same.symm
    constructor
    · rintro ⟨j, on, word, late⟩
      obtain ⟨i, rfl, stands⟩ := (counter.keyword .onWord j).mp on.1
      obtain ⟨n, -, first⟩ := exists_isFirst stands
      have same : e n = e i := (counter.isFirst (w := .onWord) first).unique on
      exact ⟨n, first, (stated n first).mp (same ▸ word), late⟩
    · rintro ⟨i, on, word, late⟩
      exact ⟨e i, counter.isFirst (w := .onWord) on, (stated i on).mpr word, late⟩

/-- A rule on the anchors of a sentence is the same rule on those found again. -/
theorem exists_iff (counter : Counterpart ws vs e) {P Q : Kind → Anchors → Prop}
    (same : ∀ k a, Anchored ws k a → (P k a ↔ Q k (a.map e))) :
    (∃ k a, Opens ws k ∧ Anchored ws k a ∧ P k a) ↔
      ∃ k b, Opens vs k ∧ Anchored vs k b ∧ Q k b := by
  constructor
  · rintro ⟨k, a, opens, anchored, holds⟩
    exact ⟨k, a.map e, counter.opens_iff.mpr opens, counter.anchored anchored,
      (same k a anchored).mp holds⟩
  · rintro ⟨k, b, opens, others, holds⟩
    obtain ⟨a, anchored, rfl⟩ := counter.anchored_iff.mp others
    exact ⟨k, a, counter.opens_iff.mp opens, anchored, (same k a anchored).mpr holds⟩

theorem first_field (counter : Counterpart ws vs e) (anchored : Anchored ws k a) :
    SameWord vs[(a.map e).first + 1]? ws[a.first + 1]? :=
  counter.field a.first (.first anchored.first)

theorem second_field (counter : Counterpart ws vs e) (anchored : Anchored ws k a) :
    SameWord vs[(a.map e).second + 1]? ws[a.second + 1]? :=
  counter.field a.second (.second anchored.first anchored.second)

theorem amount_iff (counter : Counterpart ws vs e) :
    (∃ m n, ws[1]? = some m ∧ IsAmount m n) ↔ ∃ m n, vs[1]? = some m ∧ IsAmount m n := by
  simp only [exists_and_left]
  exact (counter.leading 1 (by decide)).2.exists_iff fun alike =>
    exists_congr fun _ => isAmount_congr alike

theorem accounts_iff (counter : Counterpart ws vs e) (anchored : Anchored ws k a) :
    (∃ x y, ws[a.first + 1]? = some x ∧ ws[a.second + 1]? = some y ∧
      IsAccountId x ∧ IsAccountId y) ↔
    ∃ x y, vs[(a.map e).first + 1]? = some x ∧ vs[(a.map e).second + 1]? = some y ∧
      IsAccountId x ∧ IsAccountId y := by
  have apart : ∀ (us : List String) (i j : Nat),
      (∃ x y, us[i]? = some x ∧ us[j]? = some y ∧ IsAccountId x ∧ IsAccountId y) ↔
        (∃ x, us[i]? = some x ∧ IsAccountId x) ∧ ∃ y, us[j]? = some y ∧ IsAccountId y := by
    intro us i j
    constructor
    · rintro ⟨x, y, one, two, first, second⟩
      exact ⟨⟨x, one, first⟩, y, two, second⟩
    · rintro ⟨⟨x, one, first⟩, y, two, second⟩
      exact ⟨x, y, one, two, first, second⟩
  rw [apart, apart, (counter.first_field anchored).exists_iff isAccountId_congr,
    (counter.second_field anchored).exists_iff isAccountId_congr]

theorem rules_alike (counter : Counterpart ws vs e) {text other : String}
    (empty : text = "" ↔ other = "") :
    List.Forall₂ (fun r s => (r.1 ↔ s.1) ∧ r.2 = s.2) (rules ws text) (rules vs other) := by
  have opens : (∃ k, Opens ws k) ↔ ∃ k, Opens vs k :=
    exists_congr fun _ => counter.opens_iff.symm
  have anchors := counter.exists_iff (P := fun _ _ => True) (Q := fun _ _ => True)
    fun _ _ _ => Iff.rfl
  simp only [and_true] at anchors
  refine .cons ⟨not_congr empty, rfl⟩ (.cons ⟨opens, rfl⟩ (.cons ⟨?_, rfl⟩ (.cons ⟨?_, rfl⟩
    (.cons ⟨?_, rfl⟩ (.cons ⟨anchors, rfl⟩ (.cons ⟨?_, rfl⟩ (.cons ⟨?_, rfl⟩ (.cons ⟨?_, rfl⟩
      (.cons ⟨?_, rfl⟩ .nil)))))))))
  · exact (counter.leading 1 (by decide)).2.lt_iff
  · exact counter.amount_iff
  · exact (counter.leading 2 (by decide)).2.lt_iff
  · exact counter.exists_iff fun _ _ _ => counter.ordered_iff.symm
  · exact counter.exists_iff fun _ _ anchored => (counter.second_field anchored).lt_iff
  · exact counter.exists_iff fun _ _ anchored => counter.accounts_iff anchored
  · exact exists_congr fun _ => counter.dated_iff.symm

end Counterpart

theorem FirstBroken.congr {one other : List (Prop × String)} {code : String}
    (alike : List.Forall₂ (fun r s => (r.1 ↔ s.1) ∧ r.2 = s.2) one other) :
    FirstBroken one code ↔ FirstBroken other code := by
  induction alike with
  | nil => exact Iff.rfl
  | cons head _ ih => simp only [FirstBroken, head.1, head.2, ih]

/-- Instructions that agree in all but their identifiers, which follow the same keywords. -/
structure Corresponds (ws vs : List String) (e : Nat → Nat) (i j : Instruction Int) : Prop where
  kind : i.kind = j.kind
  amount : i.amount = j.amount
  currency : i.currency = j.currency
  executeBy : i.executeBy = j.executeBy
  sides : ∃ m n x y u v, Leads ws m ∧ Leads ws n ∧
    ws[m + 1]? = some x ∧ ws[n + 1]? = some y ∧ i.SidesAre x y ∧
    vs[e m + 1]? = some u ∧ vs[e n + 1]? = some v ∧ j.SidesAre u v

section Reading

variable {ws vs : List String} {e : Nat → Nat} {i j : Instruction Int} {text other : String}
  {fault : SyntaxFault}

/-- Each identifier follows the same keyword in both sentences. -/
theorem Corresponds.places (same : Corresponds ws vs e i j) : ∃ d c, Leads ws d ∧ Leads ws c ∧
    ws[d + 1]? = some i.debit ∧ vs[e d + 1]? = some j.debit ∧
    ws[c + 1]? = some i.credit ∧ vs[e c + 1]? = some j.credit := by
  obtain ⟨kind, -, -, -, m, n, x, y, u, v, one, two, hx, hy, sides, hu, hv, others⟩ := same
  unfold Instruction.SidesAre at sides others
  rw [kind] at sides
  split at sides
  · rename_i debit
    rw [debit] at others
    obtain ⟨rfl, rfl⟩ := sides
    obtain ⟨rfl, rfl⟩ := others
    exact ⟨m, n, one, two, hx, hu, hy, hv⟩
  · rename_i credit
    rw [credit] at others
    obtain ⟨rfl, rfl⟩ := sides
    obtain ⟨rfl, rfl⟩ := others
    exact ⟨n, m, two, one, hy, hv, hx, hu⟩

theorem States.corresponds (one : States ws i) (two : States vs j)
    (counter : Counterpart ws vs e) : Corresponds ws vs e i j := by
  have kind : i.kind = j.kind := (counter.opens_iff.mpr one.opening).unique two.opening
  obtain ⟨m, numeral, amount⟩ := one.amount
  obtain ⟨n, otherNumeral, otherAmount⟩ := two.amount
  obtain ⟨q, spelled, currency⟩ := one.currency
  obtain ⟨r, otherSpelled, otherCurrency⟩ := two.currency
  obtain ⟨a, x, y, anchored, -, hx, hy, -, -, sides⟩ := one.sides
  obtain ⟨b, u, v, others, -, hu, hv, -, -, otherSides⟩ := two.sides
  cases others.unique (kind ▸ counter.anchored anchored)
  refine ⟨kind, ?_, ?_, (counter.dated_iff.mpr one.date).unique two.date, a.first, a.second,
    x, y, u, v, .first anchored.first, .second anchored.first anchored.second, hx, hy, sides,
    hu, hv, otherSides⟩
  · obtain ⟨m', stands, alike⟩ := (counter.leading 1 (by decide)).2.exists_eq numeral
    cases stands.symm.trans otherNumeral
    rw [amount.eq_of_alike alike] at otherAmount
    exact amount.value.trans otherAmount.value.symm
  · obtain ⟨q', stands, alike⟩ := (counter.leading 2 (by decide)).2.exists_eq spelled
    cases stands.symm.trans otherSpelled
    rw [currency, otherCurrency, Text.upper_congr alike]

/-- A text and one with its counterpart are refused with one code, or both are read and state
instructions that correspond. -/
theorem Counterpart.reading (counter : Counterpart (Text.words text) (Text.words other) e)
    (empty : text = "" ↔ other = "") :
    (∃ fault, Instruction.ofText text = .error fault ∧ Instruction.ofText other = .error fault) ∨
    ∃ i j, Instruction.ofText text = .ok i ∧ Instruction.ofText other = .ok j ∧
      Corresponds (Text.words text) (Text.words other) e i j := by
  have broken (fault : SyntaxFault) : Instruction.ofText text = .error fault ↔
      Instruction.ofText other = .error fault := by
    rw [ofText_eq_error, ofText_eq_error, FirstBroken.congr (counter.rules_alike empty)]
  cases one : Instruction.ofText text with
  | error fault => exact .inl ⟨fault, rfl, (broken fault).mp one⟩
  | ok i =>
    cases two : Instruction.ofText other with
    | error fault => cases one.symm.trans ((broken fault).mpr two)
    | ok j =>
      have stated := states_of_ofText one
      exact .inr ⟨i, j, rfl, rfl, stated.corresponds (states_of_ofText two) counter⟩

end Reading

end Remit
