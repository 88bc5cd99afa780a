import Remit.Proofs.Ending
import Remit.Proofs.Grammar.Anchor
import Remit.Proofs.Grammar.Reading
import Remit.Proofs.Text.Capital

namespace Remit

inductive Recognized (ws : List String) (i : Instruction Int) (a : Anchors) : Nat → String → Prop
  where
  | opening : Recognized ws i a 0 i.kind.name
  | currency : Recognized ws i a 2 i.currency
  | source : Recognized ws i a a.source "FROM"
  | target : Recognized ws i a a.target "TO"
  | link : Recognized ws i a a.link "FOR"
  | opposite : Recognized ws i a a.opposite i.kind.other.spelling
  | first : Recognized ws i a a.first "ACCOUNT"
  | second : Recognized ws i a a.second "ACCOUNT"
  | date {n : Nat} (on : IsFirst (capitalized ws) "ON" n) : Recognized ws i a n "ON"

namespace Recognized

variable {ws : List String} {i : Instruction Int} {a : Anchors} {n : Nat} {s : String}

theorem capital (recognized : Recognized ws i a n s) (stated : States ws i)
    (anchored : Anchored ws i.kind a) : (capitalized ws)[n]? = some s := by
  cases recognized with
  | opening => exact stated.opening
  | currency =>
    obtain ⟨q, found, capital⟩ := stated.currency
    rw [getElem?_capitalized found, capital]
  | source => exact anchored.source.1
  | target => exact anchored.target.1
  | link => exact anchored.link.1
  | opposite => exact anchored.opposite.spelled
  | first => exact anchored.first.1
  | second => exact anchored.second.1
  | date on => exact on.1

/-- No keyword and no supported currency holds the capital form of a ligature. -/
theorem plain (recognized : Recognized ws i a n s) (supported : i.currency ∈ supportedCurrencies) :
    Text.IsPlain s.toList := by
  have currencies : ∀ q ∈ supportedCurrencies, Text.IsPlain q.toList := by decide
  have names : ∀ k : Kind, Text.IsPlain k.name.toList ∧
      Text.IsPlain k.other.spelling.toList := by
    intro k
    cases k <;> decide
  cases recognized with
  | opening => exact (names i.kind).1
  | currency => exact currencies _ supported
  | opposite => exact (names i.kind).2
  | _ => decide

theorem spelled (recognized : Recognized ws i a n s) (stated : States ws i)
    (anchored : Anchored ws i.kind a) (supported : i.currency ∈ supportedCurrencies) :
    ∃ w, ws[n]? = some w ∧ Text.SpellsByTwins w s ∧
      (Text.Spells w s ↔ ∀ c ∈ w.toList, c ≠ 'ı' ∧ c ≠ 'ſ') ∧
      ('I' ∉ s.toList → 'S' ∉ s.toList → Text.Spells w s) := by
  have capital := recognized.capital stated anchored
  rw [capitalized, List.getElem?_map, Option.map_eq_some_iff] at capital
  obtain ⟨w, found, upper⟩ := capital
  have plain := recognized.plain supported
  have twins := Text.spellsByTwins_of_upper upper plain
  have ascii := twins.spells_iff plain
  exact ⟨w, found, twins, ascii, fun dotted round => ascii.mpr (twins.free dotted round)⟩

end Recognized

variable {text : String} {accounts : Snapshot} {today : Date} {p : Processed}

theorem Ended.accepted (ended : Ended (.str text) accounts today p)
    (accepted : p.outcome.status = .successful ∨ p.outcome.status = .pending) :
    ∃ i debit credit, p.outcome.instruction = some i ∧ States (Text.words text) i ∧
      i.Authorized accounts debit credit := by
  cases ended with
  | unrecognized | refused => rcases accepted with successful | pending <;> contradiction
  | scheduled read authorized => exact ⟨_, _, _, rfl, states_of_ofText read, authorized⟩
  | executed read authorized => exact ⟨_, _, _, rfl, states_of_ofText read, authorized⟩

/-- An accepted text spells its opening, its keywords and its currency with letters of ASCII, except
that a dotless i may stand for the I of DEBIT and CREDIT and a long s for the S of USD and GHS. -/
theorem accepted_spellings (processed : process (.str text) accounts today = .ok p)
    (accepted : p.outcome.status = .successful ∨ p.outcome.status = .pending) :
    ∃ i a, p.outcome.instruction = some i ∧ i.currency ∈ ["NGN", "USD", "GBP", "GHS"] ∧
      Anchored (Text.words text) i.kind a ∧ a.Ordered i.kind ∧
      ∀ n s, Recognized (Text.words text) i a n s → ∃ w, (Text.words text)[n]? = some w ∧
        Text.SpellsByTwins w s ∧
        (Text.Spells w s ↔ ∀ c ∈ w.toList, c ≠ 'ı' ∧ c ≠ 'ſ') ∧
        ('I' ∉ s.toList → 'S' ∉ s.toList → Text.Spells w s) := by
  obtain ⟨i, debit, credit, recorded, stated, authorized⟩ :=
    (process_eq_ok.mp processed).accepted accepted
  obtain ⟨a, _, _, anchored, ordered, -⟩ := stated.sides
  exact ⟨i, a, recorded, authorized.supported, anchored, ordered,
    fun n s recognized => recognized.spelled stated anchored authorized.supported⟩

def sampleAccepted : Outcome :=
  ⟨.successful, .executed, some ⟨.debit, 5, "USD", "A1", "B1", none⟩,
    [⟨"A1", 4, 9, "USD"⟩, ⟨"B1", 5, 0, "USD"⟩]⟩

theorem accepted_spellings_sample :
    process (.str "debıt 5 uſd from account A1 for credit to account B1")
      [⟨"A1", 9, "USD"⟩, ⟨"B1", 0, "USD"⟩] ⟨2025, 6, 15, by decide⟩ =
        .ok ⟨sampleAccepted, executedRecord .debit sampleAccepted⟩ ∧
    Text.SpellsByTwins "debıt" "DEBIT" ∧ Text.SpellsByTwins "uſd" "USD" ∧
    ¬ Text.Spells "debıt" "DEBIT" := by
  have processed : process (.str "debıt 5 uſd from account A1 for credit to account B1")
      [⟨"A1", 9, "USD"⟩, ⟨"B1", 0, "USD"⟩] ⟨2025, 6, 15, by decide⟩ =
        .ok ⟨sampleAccepted, executedRecord .debit sampleAccepted⟩ := by rfl
  obtain ⟨i, a, recorded, -, -, -, spelled⟩ := accepted_spellings processed (.inl rfl)
  cases recorded
  obtain ⟨v, opens, opening, ascii, -⟩ := spelled _ _ .opening
  obtain ⟨w, stands, currency, -⟩ := spelled _ _ .currency
  have first : v = "debıt" := Option.some.inj (opens.symm.trans (by decide +kernel))
  have third : w = "uſd" := Option.some.inj (stands.symm.trans (by decide +kernel))
  subst first third
  refine ⟨processed, opening, currency, fun plain => ?_⟩
  exact (ascii.mp plain 'ı' (by decide)).1 rfl

/-- A transfer is carried out by a text that does not open with DEBIT in letters of ASCII. -/
theorem spelling_not_ascii :
    ¬ ∀ (text : String) (accounts : Snapshot) (today : Date) (p : Processed),
      process (.str text) accounts today = .ok p →
      p.outcome.status = .successful ∨ p.outcome.status = .pending →
      ∀ i a, p.outcome.instruction = some i → Anchored (Text.words text) i.kind a →
        ∀ n s, Recognized (Text.words text) i a n s →
          ∃ w, (Text.words text)[n]? = some w ∧ Text.Spells w s := by
  intro ascii
  have processed : process (.str "DEBıT 5 USD FROM ACCOUNT A1 FOR CREDIT TO ACCOUNT B1")
      [⟨"A1", 9, "USD"⟩, ⟨"B1", 0, "USD"⟩] ⟨2025, 6, 16, by decide⟩ =
        .ok ⟨sampleAccepted, executedRecord .debit sampleAccepted⟩ := by rfl
  obtain ⟨i, _, _, recorded, stated, -⟩ := (process_eq_ok.mp processed).accepted (.inl rfl)
  obtain ⟨a, _, _, anchored, -⟩ := stated.sides
  obtain ⟨w, opens, spelled⟩ :=
    ascii _ _ _ _ processed (.inl rfl) i a recorded anchored _ _ .opening
  have first : w = "DEBıT" := Option.some.inj (opens.symm.trans (by decide +kernel))
  subst first
  exact absurd (spelled.letters 'ı' (by decide)) (by decide)

end Remit
