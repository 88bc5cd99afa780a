import Remit.Proofs.Calendar
import Remit.Proofs.Grammar.Amount
import Remit.Proofs.Stopping
import Remit.Proofs.Text.Capital

/-! What an instruction is known to satisfy once it has been read. The reading and the checks have
one rule in common, that of the amount, and the reading applies it first. So the check of the amount
lets every instruction pass that was read, and an outcome with its code was given before there was
an instruction at all. -/

namespace Remit

structure Instruction.WellFormed (i : Instruction Int) (text : String) : Prop where
  positive : 1 ≤ i.amount
  bounded : i.amount < (Nat.pow 10 4300 : Nat)
  currency : i.currency ≠ ""
  debit : i.debit ∈ Text.words text ∧ IsAccountId i.debit
  credit : i.credit ∈ Text.words text ∧ IsAccountId i.credit
  date : ∀ d, i.executeBy = some d →
    1000 ≤ d.year ∧ d.year ≤ 9999 ∧ CalendarDay d.year d.month d.day

section Read

variable {ws : List String} {i : Instruction Int} {n : Int}

theorem IsAmount.bounded {token : String} (stated : IsAmount token n) :
    n < (Nat.pow 10 4300 : Nat) := by
  obtain ⟨m, -, rfl⟩ := isAmount_iff_read.mp stated
  obtain ⟨-, short, -, numeral⟩ := isAmount_iff_isNumeral.mp stated
  have below : ∀ width, token.length ≤ width → (m : Int) < (Nat.pow 10 width : Nat) := by
    intro width fits
    have grows : Nat.pow 10 token.length ≤ Nat.pow 10 width := Nat.pow_le_pow_right (by decide) fits
    exact Int.ofNat_lt.mpr (Nat.lt_of_lt_of_le numeral.lt_pow grows)
  apply below
  exact short

theorem States.sides_mem (stated : States ws i) :
    (i.debit ∈ ws ∧ IsAccountId i.debit) ∧ i.credit ∈ ws ∧ IsAccountId i.credit := by
  obtain ⟨a, first, second, -, -, one, two, hfirst, hsecond, sides⟩ := stated.sides
  have near : first ∈ ws ∧ IsAccountId first := ⟨List.mem_of_getElem? one, hfirst⟩
  have far : second ∈ ws ∧ IsAccountId second := ⟨List.mem_of_getElem? two, hsecond⟩
  unfold Instruction.SidesAre at sides
  cases kind : i.kind with
  | debit =>
    simp only [kind] at sides
    rw [sides.1, sides.2]
    exact ⟨near, far⟩
  | credit =>
    simp only [kind] at sides
    rw [sides.1, sides.2]
    exact ⟨far, near⟩

theorem Dated.real {d : Date} (dated : Dated ws (some d)) :
    1000 ≤ d.year ∧ d.year ≤ 9999 ∧ CalendarDay d.year d.month d.day := by
  obtain ⟨k, -, -, era⟩ := dated
  obtain ⟨-, last, real⟩ := exists_date_iff.mp ⟨d, rfl, rfl, rfl⟩
  exact ⟨era, last, real⟩

theorem States.wellFormed {text : String} (stated : States (Text.words text) i) :
    i.WellFormed text := by
  obtain ⟨m, -, amount⟩ := stated.amount
  obtain ⟨q, spelled, currency⟩ := stated.currency
  obtain ⟨debit, credit⟩ := stated.sides_mem
  constructor
  · exact amount.positive
  · exact amount.bounded
  · rw [currency]
    exact Text.upper_ne_empty (ne_empty_of_mem_words q (List.mem_of_getElem? spelled))
  · exact debit
  · exact credit
  · intro d named
    have dated := stated.date
    rw [named] at dated
    exact dated.real

end Read

section Amount

variable {text : Json} {accounts : Snapshot} {today : Date} {p : Processed} {i : Instruction Int}

theorem validate_ne_invalidAmount {refusal : Refusal} (read : Instruction.ofValue text = .ok i)
    (refused : validate (i.withAmount (.int i.amount)) accounts = .error refusal) :
    refusal.code.name ≠ "AM01" := by
  intro named
  have later := validate_code (positive_of_ofValue read) refused
  have code : refusal.code = .invalidAmount := StatusCode.name_injective named
  rw [code] at later
  cases later

theorem Ended.invalidAmount_iff (ended : Ended text accounts today p) :
    p.outcome.code.name = "AM01" ↔ Instruction.ofValue text = .error .invalidAmount := by
  constructor
  · intro named
    cases ended with
    | unrecognized unread => rw [unread, SyntaxFault.invalidAmount_iff.mpr named]
    | refused read refused => exact absurd named (validate_ne_invalidAmount read refused)
    | scheduled | executed => simp [StatusCode.name] at named
  · intro unread
    cases ended with
    | unrecognized other =>
      cases other.symm.trans unread
      rfl
    | refused read | scheduled read | executed read => cases read.symm.trans unread

/-- An instruction that is read has an amount from 1 up to 4300 digits, a currency, two identifiers
that are words of its text, and a real day if any. No check of it against a snapshot fails for the
amount. The code for that is given just to texts whose amount cannot be read, and then without any
field of an instruction and without views. -/
theorem read_instructions_well_formed :
    (∀ text i, Instruction.ofValue text = .ok i → (∃ s, text = .str s ∧ i.WellFormed s) ∧
      ∀ accounts refusal, validate (i.withAmount (.int i.amount)) accounts = .error refusal →
        refusal.code.name ≠ "AM01") ∧
    ∀ text accounts today p, process text accounts today = .ok p →
      (p.outcome.code.name = "AM01" ↔ Instruction.ofValue text = .error .invalidAmount) ∧
      (p.outcome.code.name = "AM01" →
        p.outcome.instruction = none ∧ p.outcome.Blank ∧ p.outcome.views = []) := by
  constructor
  · intro text i read
    refine ⟨?_, fun accounts refusal refused => validate_ne_invalidAmount read refused⟩
    cases text with
    | str s =>
      have stated : States (Text.words s) i := ofText_eq_ok.mp read
      exact ⟨s, rfl, stated.wellFormed⟩
    | _ => cases read
  · intro text accounts today p processed
    have ended := process_eq_ok.mp processed
    refine ⟨ended.invalidAmount_iff, fun named => ?_⟩
    obtain ⟨failed, none, views⟩ := ended.of_unread (ended.invalidAmount_iff.mp named)
    exact ⟨none, Outcome.blank_iff.mpr ⟨failed, none⟩, views⟩

/-- Zeros in front of an amount and identifiers in letters of both cases, and an amount of zero. -/
theorem read_instructions_well_formed_sample :
    (∃ i, Instruction.ofText "credit 007 usd to account B-1 for debit from account a.B@c" = .ok i ∧
      i.debit = "a.B@c" ∧ 1 ≤ i.amount ∧
      ∀ refusal, validate (i.withAmount (.int i.amount)) [] = .error refusal →
        refusal.code.name ≠ "AM01") ∧
    ∃ p, process (.str "DEBIT 000 USD FROM ACCOUNT A1 FOR CREDIT TO ACCOUNT B1") []
        ⟨2025, 6, 15, by decide⟩ = .ok p ∧
      p.outcome.code.name = "AM01" ∧ p.outcome.Blank ∧ p.outcome.views = [] := by
  obtain ⟨formed, refused⟩ := read_instructions_well_formed
  constructor
  · obtain ⟨⟨s, -, wellFormed⟩, checked⟩ := formed
      (.str "credit 007 usd to account B-1 for debit from account a.B@c")
      ⟨.credit, 7, "USD", "a.B@c", "B-1", none⟩ rfl
    exact ⟨_, rfl, rfl, wellFormed.positive, checked []⟩
  · have zero : process (.str "DEBIT 000 USD FROM ACCOUNT A1 FOR CREDIT TO ACCOUNT B1") []
        ⟨2025, 6, 15, by decide⟩ =
          .ok ⟨.unrecognized .invalidAmount, unrecognizedRecord .invalidAmount⟩ := by rfl
    obtain ⟨-, blank, views⟩ := (refused _ _ _ _ zero).2 rfl
    exact ⟨_, zero, rfl, blank, views⟩

end Amount

end Remit
