import Remit.Json.Reader
import Remit.Proofs.Text.Numeral

/-! What a document holds once it is read. A reader with a bound on digits lets no integer through
that has no written form. The scans of values, items and fields call each other, and a call has
less fuel than its caller, so the proof is one induction on the fuel for all three. -/

namespace Remit.Json

theorem fits_int {n : Int} : fits (.int n) = true ↔ Text.Writable n := by
  rw [fits, decide_eq_true_eq]

theorem fits_arr {items : List Json} :
    fits (.arr items) = true ↔ ∀ j ∈ items, j.fits = true := by
  rw [fits]
  induction items with
  | nil => simp [itemsFit]
  | cons j js ih => simp [itemsFit, ih]

theorem fits_obj {fields : List (String × Json)} :
    fits (.obj fields) = true ↔ ∀ f ∈ fields, f.2.fits = true := by
  rw [fits]
  induction fields with
  | nil => simp [fieldsFit]
  | cons f rest ih => simp [fieldsFit, ih]

theorem mem_put {fields : List (String × Json)} {key : String} {value : Json}
    {f : String × Json} (member : f ∈ put fields key value) : f = (key, value) ∨ f ∈ fields := by
  unfold put at member
  split at member
  · obtain ⟨g, inside, same⟩ := List.mem_map.mp member
    split at same
    · exact .inl same.symm
    · exact .inr (same ▸ inside)
  · rcases List.mem_append.mp member with inside | last
    · exact .inr inside
    · exact .inl (List.mem_singleton.mp last)

theorem scanWhole_digits {cs whole rest : List Char} (scanned : scanWhole cs = some (whole, rest)) :
    ∀ c ∈ whole, c.isDigit = true := by
  unfold scanWhole at scanned
  split at scanned
  · cases scanned
    intro c member
    obtain rfl := List.mem_singleton.mp member
    rfl
  · split at scanned
    · cases scanned
    · cases scanned
      exact fun c member => List.all_eq_true.mp List.all_takeWhile c member

theorem scanNumeral_digits {cs rest : List Char} {n : Numeral}
    (scanned : scanNumeral cs = some (n, rest)) : ∀ c ∈ n.whole, c.isDigit = true := by
  simp only [scanNumeral, Option.bind_eq_bind, Option.bind_eq_some_iff, Option.pure_def,
    Option.some.injEq, Prod.mk.injEq] at scanned
  obtain ⟨⟨whole, left⟩, digits, rfl, -⟩ := scanned
  exact scanWhole_digits digits

def Fitting (scan : Scan Json) : Prop := ∀ j rest, scan = .ok (j, rest) → j.fits = true

theorem fitting_error (e : Fault) : Fitting (.error e) := nofun

theorem fitting_ok {j : Json} (fits : j.fits = true) (rest : List Char) :
    Fitting (.ok (j, rest)) := by
  rintro _ _ same
  cases same
  exact fits

/-- What the three scans keep at one amount of fuel. -/
structure Kept (limits : Limits) (fuel : Nat) : Prop where
  value : ∀ depth cs, Fitting (scanValue limits fuel depth cs)
  items : ∀ depth cs before, (∀ j ∈ before, j.fits = true) →
    Fitting (scanItems limits fuel depth cs before)
  fields : ∀ depth cs before, (∀ f ∈ before, f.2.fits = true) →
    Fitting (scanFields limits fuel depth cs before)

section Step

variable {limits : Limits} {fuel : Nat} (kept : Kept limits fuel)
include kept

theorem fitting_scanItems (depth : Nat) (cs : List Char) {before : List Json}
    (earlier : ∀ j ∈ before, j.fits = true) :
    Fitting (scanItems limits (fuel + 1) depth cs before) := by
  unfold scanItems
  split
  · exact fitting_error _
  · rename_i item rest scanned
    have read : ∀ j ∈ item :: before, j.fits = true :=
      List.forall_mem_cons.mpr ⟨kept.value depth cs item rest scanned, earlier⟩
    split
    · apply fitting_ok
      exact fits_arr.mpr fun j member => read j (List.mem_reverse.mp member)
    · exact kept.items _ _ _ read
    · exact fitting_error _

theorem fitting_scanFields (depth : Nat) (cs : List Char) {before : List (String × Json)}
    (earlier : ∀ f ∈ before, f.2.fits = true) :
    Fitting (scanFields limits (fuel + 1) depth cs before) := by
  unfold scanFields
  split
  · split
    · exact fitting_error _
    · rename_i key rest scanned
      split
      · split
        · exact fitting_error _
        · rename_i value rest scanned
          have read : ∀ f ∈ put before key value, f.2.fits = true := by
            intro f member
            rcases mem_put member with rfl | inside
            · exact kept.value _ _ value rest scanned
            · exact earlier f inside
          split
          · exact fitting_ok (fits_obj.mpr read) _
          · exact kept.fields _ _ _ read
          · exact fitting_error _
      · exact fitting_error _
  · exact fitting_error _

end Step

section Bounded

variable {limits : Limits} (bounded : limits.digits = some Text.maxDigits)
include bounded

theorem fits_value {n : Numeral} (digits : ∀ c ∈ n.whole, c.isDigit = true) {j : Json}
    (valued : n.value limits = .ok j) : j.fits = true := by
  unfold Numeral.value at valued
  split at valued
  · split at valued
    · cases valued
    · rename_i within
      have short : n.whole.length ≤ Text.maxDigits := by
        simpa only [bounded, Option.any_some, decide_eq_true_eq, Nat.not_lt] using within
      have written := Text.writable_digitsValue digits short
      cases valued
      apply fits_int.mpr
      split
      · exact written.neg
      · exact written
  · cases valued
    rfl

theorem fitting_scanScalar (cs : List Char) : Fitting (scanScalar limits cs) := by
  unfold scanScalar
  split
  case h_7 =>
    split
    · exact fitting_error _
    · rename_i n rest scanned
      cases valued : n.value limits with
      | error e => exact fitting_error e
      | ok j => exact fitting_ok (fits_value bounded (scanNumeral_digits scanned) valued) rest
  all_goals exact fitting_ok rfl _

theorem fitting_scanValue {fuel : Nat} (kept : Kept limits fuel) (depth : Nat) (cs : List Char) :
    Fitting (scanValue limits (fuel + 1) depth cs) := by
  unfold scanValue
  split
  · split
    · exact fitting_error _
    · exact fitting_ok rfl _
  · split
    · exact fitting_error _
    · split
      · exact fitting_ok rfl _
      · exact kept.items _ _ [] (by simp)
  · split
    · exact fitting_error _
    · split
      · exact fitting_ok rfl _
      · exact kept.fields _ _ [] (by simp)
  · exact fitting_scanScalar bounded _

theorem kept (fuel : Nat) : Kept limits fuel := by
  induction fuel with
  | zero =>
    exact ⟨fun _ _ => fitting_error _, fun _ _ _ _ => fitting_error _,
      fun _ _ _ _ => fitting_error _⟩
  | succ fuel ih =>
    exact ⟨fitting_scanValue bounded ih, fun depth cs _ => fitting_scanItems ih depth cs,
      fun depth cs _ => fitting_scanFields ih depth cs⟩

theorem fits_of_scanDocument {cs : List Char} {j : Json}
    (scanned : scanDocument limits cs = .ok j) : j.fits = true := by
  unfold scanDocument at scanned
  cases valued : scanValue limits (2 * cs.length + 2) 0 (skip cs) with
  | error e =>
    rw [valued] at scanned
    cases scanned
  | ok found =>
    obtain ⟨value, rest⟩ := found
    simp only [valued, bind, Except.bind] at scanned
    split at scanned
    · cases scanned
      exact (kept bounded _).value _ _ j rest valued
    · cases scanned

/-- Every integer that is read has a written form. -/
theorem fits_of_read {text : String} {j : Json} (read : Json.read limits text = .ok j) :
    j.fits = true := by
  unfold Json.read at read
  split at read
  · rename_i value scanned
    cases read
    exact fits_of_scanDocument bounded scanned
  all_goals cases read

end Bounded

end Remit.Json
