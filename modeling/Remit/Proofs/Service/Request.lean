import Mathlib.Data.List.TakeWhile
import Remit.Proofs.Json.Reading
import Remit.Proofs.Text.Half
import Remit.Service.Request

/-! What every request holds whose body was read and checked. Its integers have a written form,
however a field gives them: an integer was read within the bound on digits, a numeral is bounded by
the same number, and any other value by 64 bits. Its identifiers and currencies hold no half of a
surrogate pair. The text of the instruction may hold one. -/

namespace Remit

namespace Field

open Text (Writable)

theorem writable_of_le {n : Int} (small : n.natAbs ≤ maxInt64) : Writable n := by
  have grows : ∀ k, 19 ≤ k → Nat.pow 10 19 ≤ Nat.pow 10 k :=
    fun k => Nat.pow_le_pow_right (by decide)
  have nineteen : maxInt64 < Nat.pow 10 19 := by decide
  exact Nat.lt_of_le_of_lt small (Nat.lt_of_lt_of_le nineteen (grows Text.maxDigits (by decide)))

theorem writable_of_plainNat {cs : List Char} {n : Nat} (read : plainNat cs = .ok n) :
    Writable n := by
  unfold plainNat at read
  split at read
  · cases read
    exact writable_of_le (by decide)
  · cases read
  · split at read
    · cases read
    · rename_i short
      split at read
      · rename_i numeral
        have digits : ∀ c ∈ cs, c.isDigit = true :=
          List.all_eq_true.mp (Bool.and_eq_true_iff.mp numeral).2
        have whole : cs.takeWhile Char.isDigit = cs := List.takeWhile_eq_self_iff.mpr digits
        rw [whole] at short
        cases read
        exact Text.writable_digitsValue digits (Nat.not_lt.mp short)
      · cases read

theorem plainInteger_eq_ok {cs : List Char} {n : Int} (read : plainInteger cs = .ok n) :
    ∃ digits, ∃ m : Nat, plainNat digits = .ok m ∧ (n = m ∨ n = -m) := by
  unfold plainInteger at read
  split at read
  · rename_i digits
    cases plain : plainNat digits with
    | error e =>
      rw [plain] at read
      cases read
    | ok m =>
      rw [plain] at read
      cases read
      exact ⟨digits, m, plain, .inr rfl⟩
  · cases plain : plainNat cs with
    | error e =>
      rw [plain] at read
      cases read
    | ok m =>
      rw [plain] at read
      cases read
      exact ⟨cs, m, plain, .inl rfl⟩

theorem writable_of_plainInteger {cs : List Char} {n : Int} (read : plainInteger cs = .ok n) :
    Writable n := by
  obtain ⟨digits, m, plain, rfl | rfl⟩ := plainInteger_eq_ok read
  · exact writable_of_plainNat plain
  · exact (writable_of_plainNat plain).neg

theorem writable_of_integerOfNumeral {cs : List Char} {n : Int}
    (read : integerOfNumeral cs = .ok n) : Writable n := by
  unfold integerOfNumeral at read
  split at read
  · split at read
    · rename_i simplified
      cases read
      obtain ⟨plain, -, read⟩ := Option.map_eq_some_iff.mp simplified
      exact writable_of_plainInteger read
    · cases read
  · exact writable_of_plainInteger read

theorem writable_of_integer {j : Json} {n : Int} (fits : j.fits = true)
    (read : integer j = .ok n) : Writable n := by
  cases j with
  | int m =>
    cases read
    exact Json.fits_int.mp fits
  | bool b =>
    cases read
    apply writable_of_le
    cases b <;> decide
  | real x =>
    simp only [integer, integerOfReal] at read
    split at read
    · cases read
    · split at read
      · cases read
      · split at read
        · rename_i small
          cases read
          exact writable_of_le small
        · cases read
  | str s =>
    simp only [integer, integerOfText] at read
    split at read
    · cases read
    · exact writable_of_integerOfNumeral read
  | null | arr | obj => cases read

theorem whole_of_nonEmptyText {j : Json} {s : String} (read : nonEmptyText j = .ok s) :
    Text.hasHalf s = false := by
  unfold nonEmptyText at read
  split at read
  · cases read
  · split at read
    · cases read
    · rename_i whole
      split at read
      · cases read
      · cases read
        exact Bool.not_eq_true _ ▸ whole

end Field

namespace Checked

variable {α β : Type}

theorem both_eq_ok {x : Checked α} {y : Checked β} {a : α} {b : β} :
    both x y = .ok (a, b) ↔ x = .ok a ∧ y = .ok b := by
  cases x <;> cases y <;> simp [both]

theorem items_eq_ok {check : Nat → α → Checked β} {n : Nat} {as : List α} {bs : List β}
    (checked : items check n as = .ok bs) : ∀ b ∈ bs, ∃ k, ∃ a ∈ as, check k a = .ok b := by
  induction as generalizing n bs with
  | nil =>
    cases checked
    exact nofun
  | cons a as ih =>
    unfold items at checked
    split at checked
    · rename_i first others together
      cases checked
      obtain ⟨head, tail⟩ := both_eq_ok.mp together
      intro b member
      rcases List.mem_cons.mp member with rfl | later
      · exact ⟨n, a, List.mem_cons_self, head⟩
      · obtain ⟨k, c, inside, found⟩ := ih tail b later
        exact ⟨k, c, List.mem_cons_of_mem a inside, found⟩
    · cases checked

end Checked

theorem Json.fits_of_field? {j value : Json} {key : String} (fits : j.fits = true)
    (found : j.field? key = some value) : value.fits = true := by
  cases j with
  | obj fields =>
    obtain ⟨f, at_key, rfl⟩ := Option.map_eq_some_iff.mp found
    exact fits_obj.mp fits f (List.mem_of_find?_eq_some at_key)
  | _ => cases found

namespace Service

theorem required_eq_ok {α : Type} {path : List String} {j : Json} {key : String}
    {check : Json → Except FieldFault α} {a : α} :
    required path j key check = .ok a ↔
      ∃ value, j.field? key = some value ∧ check value = .ok a := by
  unfold required
  split
  · simp_all
  · rename_i value found
    cases checked : check value <;> simp_all [Checked.ofField]

structure Carried (a : Account) : Prop where
  balance : Text.Writable a.balance
  id : Text.hasHalf a.id = false
  currency : Text.hasHalf a.currency = false

theorem carried_of_accountOfJson {path : List String} {j : Json} {a : Account}
    (fits : j.fits = true) (read : accountOfJson path j = .ok a) : Carried a := by
  unfold accountOfJson at read
  split at read
  · cases read
  · split at read
    · cases read
    · rename_i id balance currency together
      cases read
      obtain ⟨named, others⟩ := Checked.both_eq_ok.mp together
      obtain ⟨held, stated⟩ := Checked.both_eq_ok.mp others
      obtain ⟨_, -, named⟩ := required_eq_ok.mp named
      obtain ⟨value, found, held⟩ := required_eq_ok.mp held
      obtain ⟨_, -, stated⟩ := required_eq_ok.mp stated
      exact ⟨Field.writable_of_integer (Json.fits_of_field? fits found) held,
        Field.whole_of_nonEmptyText named, Field.whole_of_nonEmptyText stated⟩

theorem carried_of_ofJson {j : Json} {r : Request} (fits : j.fits = true)
    (read : Request.ofJson j = .ok r) : ∀ a ∈ r.accounts, Carried a := by
  unfold Request.ofJson at read
  split at read
  · cases read
  · split at read
    · cases read
    · rename_i instruction accounts together
      cases read
      obtain ⟨-, listed⟩ := Checked.both_eq_ok.mp together
      unfold accountsOfJson at listed
      split at listed
      · cases listed
        exact nofun
      · rename_i items found
        -- the items fit because the whole document does
        have inside := Json.fits_arr.mp (Json.fits_of_field? fits found)
        intro a member
        obtain ⟨n, item, at_item, checked⟩ := Checked.items_eq_ok listed a member
        exact carried_of_accountOfJson (inside item at_item) checked
      · cases listed

theorem carried_of_ofBody {contentType : Option String} {body : String} {r : Request}
    (read : Request.ofBody contentType body = .ok r) : ∀ a ∈ r.accounts, Carried a := by
  unfold Request.ofBody at read
  split at read
  · cases read
  · split at read
    · split at read
      · cases read
      · unfold Request.ofDocument at read
        split at read
        · cases read
        · cases read
        · rename_i j document
          split at read
          · cases read
          · rename_i checked
            cases read
            exact carried_of_ofJson (Json.fits_of_read rfl document) checked
    · cases read

end Service

end Remit
