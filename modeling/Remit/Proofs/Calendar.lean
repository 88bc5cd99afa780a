import Remit.Proofs.Grammar.Reading
import Remit.Proofs.Text.FixedWidth
import Remit.Outcome

namespace Remit

def IsLeapYear (year : Nat) : Prop := 4 ∣ year ∧ (100 ∣ year → 400 ∣ year)

instance (year : Nat) : Decidable (IsLeapYear year) := inferInstanceAs (Decidable (_ ∧ _))

inductive CalendarDay (year month day : Nat) : Prop where
  | long (named : month ∈ [1, 3, 5, 7, 8, 10, 12]) (first : 1 ≤ day) (last : day ≤ 31)
  | short (named : month ∈ [4, 6, 9, 11]) (first : 1 ≤ day) (last : day ≤ 30)
  | february (named : month = 2) (first : 1 ≤ day) (last : day ≤ 28)
  | leap (named : month = 2) (last : day = 29) (leap : IsLeapYear year)

structure WritesDay (token : String) (year month day : Nat) : Prop where
  written : ∃ ys ms ds, token.toList = ys ++ '-' :: (ms ++ '-' :: ds) ∧
    Text.IsNumeral ys 4 year ∧ Text.IsNumeral ms 2 month ∧ Text.IsNumeral ds 2 day
  era : 1000 ≤ year ∧ year ≤ 9999
  real : CalendarDay year month day

section Calendar

variable {year month day : Nat}

theorem isLeap_iff : isLeap year = true ↔ IsLeapYear year := by
  simp only [isLeap, IsLeapYear, Bool.and_eq_true, Bool.or_eq_true, beq_iff_eq, bne_iff_ne,
    Nat.dvd_iff_mod_eq_zero]
  tauto

theorem daysIn_february : daysIn year 2 = if isLeap year then 29 else 28 := rfl

theorem daysIn_short (named : month ∈ [4, 6, 9, 11]) : daysIn year month = 30 := by
  simp only [List.mem_cons, List.not_mem_nil, or_false] at named
  rcases named with rfl | rfl | rfl | rfl <;> rfl

theorem daysIn_long (named : month ∈ [1, 3, 5, 7, 8, 10, 12]) : daysIn year month = 31 := by
  simp only [List.mem_cons, List.not_mem_nil, or_false] at named
  rcases named with rfl | rfl | rfl | rfl | rfl | rfl | rfl <;> rfl

theorem month_iff : 1 ≤ month ∧ month ≤ 12 ↔
    month ∈ [1, 3, 5, 7, 8, 10, 12] ∨ month ∈ [4, 6, 9, 11] ∨ month = 2 := by
  simp only [List.mem_cons, List.not_mem_nil, or_false]
  omega

theorem calendarDay_iff : CalendarDay year month day ↔
    1 ≤ month ∧ month ≤ 12 ∧ 1 ≤ day ∧ day ≤ daysIn year month := by
  constructor
  · intro real
    cases real with
    | long named first last =>
      obtain ⟨january, december⟩ := month_iff.mpr (.inl named)
      exact ⟨january, december, first, (daysIn_long named).symm ▸ last⟩
    | short named first last =>
      obtain ⟨january, december⟩ := month_iff.mpr (.inr (.inl named))
      exact ⟨january, december, first, (daysIn_short named).symm ▸ last⟩
    | february named first last =>
      subst named
      have least : 28 ≤ daysIn year 2 := by
        rw [daysIn_february]
        split <;> decide
      exact ⟨by decide, by decide, first, Nat.le_trans last least⟩
    | leap named last leap =>
      subst named last
      rw [daysIn_february, if_pos (isLeap_iff.mpr leap)]
      decide
  · rintro ⟨january, december, first, last⟩
    rcases month_iff.mp ⟨january, december⟩ with long | short | rfl
    · exact .long long first (daysIn_long long ▸ last)
    · exact .short short first (daysIn_short short ▸ last)
    · rw [daysIn_february] at last
      split at last
      · rename_i leap
        rcases Nat.lt_or_eq_of_le last with before | rfl
        · exact .february rfl first (Nat.le_of_lt_succ before)
        · exact .leap rfl rfl (isLeap_iff.mp leap)
      · exact .february rfl first last

theorem exists_date_iff : (∃ d : Date, d.year = year ∧ d.month = month ∧ d.day = day) ↔
    1 ≤ year ∧ year ≤ 9999 ∧ CalendarDay year month day := by
  rw [calendarDay_iff]
  constructor
  · rintro ⟨d, rfl, rfl, rfl⟩
    exact d.valid
  · exact fun valid => ⟨⟨year, month, day, valid⟩, rfl, rfl, rfl⟩

end Calendar

namespace Date

variable {d : Date} {token : String}

theorem isNumeral_digits (n width : Nat) : Text.IsNumeral
    ((List.range width).reverse.map fun k => digit (n / Nat.pow 10 k)) width
      (n % Nat.pow 10 width) := by
  induction width with
  | zero => exact Text.IsNumeral.nil_iff.mpr ⟨rfl, Nat.mod_one n⟩
  | succ width ih =>
    have next : n % Nat.pow 10 (width + 1) =
        n % Nat.pow 10 width + Nat.pow 10 width * (n / Nat.pow 10 width % 10) := Nat.mod_pow_succ
    rw [List.range_succ, List.reverse_append, List.reverse_singleton, List.singleton_append,
      List.map_cons, Text.IsNumeral.cons_iff]
    exact ⟨isDigit_digit _, _, ih, by rw [next, digitValue_digit]⟩

theorem isNumeral_of_lt {n width : Nat} (short : n < Nat.pow 10 width) : Text.IsNumeral
    ((List.range width).reverse.map fun k => digit (n / Nat.pow 10 k)) width n := by
  have numeral := isNumeral_digits n width
  rwa [Nat.mod_eq_of_lt short] at numeral

theorem isoChars_parts (d : Date) : ∃ ys ms ds, d.isoChars = ys ++ '-' :: (ms ++ '-' :: ds) ∧
    Text.IsNumeral ys 4 d.year ∧ Text.IsNumeral ms 2 d.month ∧ Text.IsNumeral ds 2 d.day := by
  obtain ⟨-, year, -, month, -, day⟩ := d.valid
  have last := Nat.le_trans day (daysIn_le d.year d.month)
  refine ⟨_, _, _, ?_, isNumeral_of_lt (Nat.lt_of_le_of_lt year (by decide)),
    isNumeral_of_lt (Nat.lt_of_le_of_lt month (by decide)),
    isNumeral_of_lt (Nat.lt_of_le_of_lt last (by decide))⟩
  simp [isoChars, List.range_succ]

theorem writesDay_iso (era : 1000 ≤ d.year) : WritesDay d.iso d.year d.month d.day := by
  obtain ⟨-, last, real⟩ := exists_date_iff.mp ⟨d, rfl, rfl, rfl⟩
  obtain ⟨ys, ms, ds, parts, year, month, day⟩ := d.isoChars_parts
  refine ⟨⟨ys, ms, ds, ?_, year, month, day⟩, ⟨era, last⟩, real⟩
  rw [iso, String.toList_ofList, parts]

theorem eq_iso_of_writesDay (writes : WritesDay token d.year d.month d.day) : token = d.iso := by
  obtain ⟨ys, ms, ds, parts, year, month, day⟩ := d.isoChars_parts
  obtain ⟨ys', ms', ds', written, year', month', day'⟩ := writes.written
  rw [← (year.eq_iff year').mpr rfl, ← (month.eq_iff month').mpr rfl,
    ← (day.eq_iff day').mpr rfl, ← parts] at written
  rw [iso, ← written, String.ofList_toList]

theorem writesDay_iff {year month day : Nat} : WritesDay token year month day ↔
    ∃ d, ofToken? token = some d ∧ d.year = year ∧ d.month = month ∧ d.day = day := by
  constructor
  · intro writes
    have first : 1 ≤ year := Nat.le_trans (by decide) writes.era.1
    obtain ⟨d, rfl, rfl, rfl⟩ := exists_date_iff.mpr ⟨first, writes.era.2, writes.real⟩
    exact ⟨d, ofToken?_eq_some.mpr ⟨eq_iso_of_writesDay writes, writes.era.1⟩, rfl, rfl, rfl⟩
  · rintro ⟨d, read, rfl, rfl, rfl⟩
    obtain ⟨rfl, era⟩ := ofToken?_eq_some.mp read
    exact writesDay_iso era

end Date

theorem States.date_reported {ws : List String} {i : Instruction Int} {k : Nat}
    (stated : States ws i) (on : IsFirst (capitalized ws) "ON" k) :
    ∃ token, ws[k + 1]? = some token ∧ i.fields.lookup "execute_by" = some (.str token) := by
  have dated := stated.date
  have reported : i.fields.lookup "execute_by" =
      some (Json.ofString? (i.executeBy.map Date.iso)) := rfl
  cases named : i.executeBy with
  | none =>
    rw [named] at dated
    exact absurd on.1 (dated k)
  | some d =>
    rw [named] at dated reported
    obtain ⟨j, first, follows, -⟩ := dated
    cases first.unique on
    exact ⟨d.iso, follows, reported⟩

/-- A word is read as a date just if it writes a day of the calendar in a year of four digits, and
then the date is written as that word. Every such date is read from its written form. What is
reported as the date of an instruction is the word after its first ON. -/
theorem dates_read_as_written :
    (∀ year month day, (∃ d : Date, d.year = year ∧ d.month = month ∧ d.day = day) ↔
      1 ≤ year ∧ year ≤ 9999 ∧ CalendarDay year month day) ∧
    (∀ token year month day, WritesDay token year month day ↔ ∃ d, Date.ofToken? token = some d ∧
      d.year = year ∧ d.month = month ∧ d.day = day) ∧
    (∀ token d, Date.ofToken? token = some d → d.iso = token) ∧
    (∀ d : Date, 1000 ≤ d.year → Date.ofToken? d.iso = some d) ∧
    ∀ text i, Instruction.ofText text = .ok i →
      ∀ k, IsFirst (capitalized (Text.words text)) "ON" k →
        ∃ token, (Text.words text)[k + 1]? = some token ∧
          i.fields.lookup "execute_by" = some (.str token) := by
  refine ⟨fun _ _ _ => exists_date_iff, fun _ _ _ _ => Date.writesDay_iff, ?_, ?_, ?_⟩
  · intro token d read
    exact (Date.ofToken?_eq_some.mp read).1.symm
  · intro d era
    exact Date.ofToken?_eq_some.mpr ⟨rfl, era⟩
  · intro text i read k on
    exact (ofText_eq_ok.mp read).date_reported on

def sampleDated : Instruction Int :=
  ⟨.credit, 7, "GHS", "A", "B", some ⟨2000, 2, 29, by decide⟩⟩

/-- The leap day of a year that 400 divides. -/
theorem dates_read_as_written_sample :
    WritesDay "2000-02-29" 2000 2 29 ∧
    (∃ d, Date.ofToken? "2000-02-29" = some d ∧ d.iso = "2000-02-29") ∧
    ∃ token, (Text.words "CREDIT 7 ghs TO ACCOUNT B FOR DEBIT FROM ACCOUNT A on 2000-02-29")[12]? =
        some token ∧ sampleDated.fields.lookup "execute_by" = some (.str token) := by
  have writes : WritesDay "2000-02-29" 2000 2 29 :=
    ⟨⟨['2', '0', '0', '0'], ['0', '2'], ['2', '9'], rfl, ⟨rfl, List.all_eq_true.mp rfl, rfl⟩,
      ⟨rfl, List.all_eq_true.mp rfl, rfl⟩, ⟨rfl, List.all_eq_true.mp rfl, rfl⟩⟩, by decide,
      .leap rfl rfl (by decide)⟩
  obtain ⟨-, reads, written, -, reported⟩ := dates_read_as_written
  obtain ⟨d, read, -⟩ := (reads _ _ _ _).mp writes
  have stated : Instruction.ofText
      "CREDIT 7 ghs TO ACCOUNT B FOR DEBIT FROM ACCOUNT A on 2000-02-29" = .ok sampleDated := by rfl
  have on : IsFirst (capitalized (Text.words
      "CREDIT 7 ghs TO ACCOUNT B FOR DEBIT FROM ACCOUNT A on 2000-02-29")) "ON" 11 := by
    unfold IsFirst
    decide +kernel
  exact ⟨writes, ⟨d, read, written _ d read⟩, reported _ _ stated 11 on⟩

end Remit
