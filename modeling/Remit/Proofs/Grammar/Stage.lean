import Remit.Proofs.Date
import Remit.Proofs.Grammar.Anchor
import Remit.Proofs.Text.Numeral

namespace Remit

theorem amountOfToken?_eq_some {token : String} {n : Nat} :
    amountOfToken? token = some n ↔ IsAmount token n := by
  simp only [amountOfToken?, Option.filter_eq_some_iff, Text.natOfDigits?_eq_some,
    ← Text.digitsValue_eq_ofDigits, Text.digitsValue_eq_ofDigitChars, decide_eq_true_eq,
    Text.maxDigits, String.length_toList]
  constructor
  · rintro ⟨⟨nonempty, digits, short, rfl⟩, positive⟩
    exact ⟨by simpa using nonempty, digits, short, rfl, by exact_mod_cast positive⟩
  · rintro ⟨nonempty, digits, short, value, positive⟩
    exact ⟨⟨by simpa using nonempty, digits, short, by exact_mod_cast value.symm⟩,
      by exact_mod_cast positive⟩

theorem isAccountId_iff {token : String} : isAccountId token = true ↔ IsAccountId token := by
  simp [isAccountId, IsAccountId, isAccountIdChar, or_assoc]

instance (token : String) : Decidable (IsAccountId token) := decidable_of_iff _ isAccountId_iff

namespace Sentence

variable {ws : List String} {k : Kind} {fault : SyntaxFault}

theorem kind_eq_ok : (mk ws).kind = .ok k ↔ Opens ws k := by
  rw [kind, List.head?_eq_getElem?]
  constructor
  · intro read
    split at read
    · cases read
    · rename_i j named
      cases read
      obtain ⟨w, found, spelled⟩ := Option.bind_eq_some_iff.mp named
      have same : w = k.name := by
        unfold Kind.ofName? at spelled
        split at spelled <;> cases spelled <;> rfl
      rw [same] at found
      exact found
  · intro opening
    have found : (mk ws).capitals[0]? = some k.name := opening
    rw [found, Option.bind_some, Kind.ofName?_name]

theorem kind_eq_error (failed : (mk ws).kind = .error fault) :
    fault = .missingKeyword ∧ ¬ ∃ k, Opens ws k := by
  constructor
  · unfold kind at failed
    split at failed <;> cases failed
    rfl
  · rintro ⟨k, opening⟩
    rw [kind_eq_ok.mpr opening] at failed
    cases failed

theorem located_other {i : Nat} :
    ((mk ws).located k.other)[0]? = some i ↔ OppositeAt ws k i := by
  cases k
  · exact located_zero (by decide)
  · exact located_debit

theorem anchors?_of_anchored {a : Anchors} (anchored : Anchored ws k a) :
    (mk ws).anchors? k = some (a.inOrder k) := by
  have near := (located_zero (s := mk ws) k.near_ne_debit).mpr anchored.near
  have far := (located_zero (s := mk ws) k.far_ne_debit).mpr anchored.far
  have opposite := located_other.mpr anchored.opposite
  have link : ((mk ws).located .forWord)[0]? = some a.link :=
    (located_zero (by decide)).mpr anchored.link
  have first : ((mk ws).located .accountWord)[0]? = some a.first :=
    (located_zero (by decide)).mpr anchored.first
  have second : ((mk ws).located .accountWord)[1]? = some a.second :=
    (located_account_one anchored.first).mpr anchored.second
  rw [anchors?, k.shape_eq]
  simp [Anchors.inOrder, near, far, link, first, second, opposite]

theorem anchored_of_anchors? {l : List Nat} (found : (mk ws).anchors? k = some l) :
    ∃ a, Anchored ws k a := by
  rw [anchors?, k.shape_eq] at found
  simp only [List.mapM_cons, List.mapM_nil, Option.bind_eq_bind, Option.bind_eq_some_iff] at found
  obtain ⟨n, near, _, ⟨one, first, _, ⟨l, link, _, ⟨o, opposite, _, ⟨f, far, _,
    ⟨two, second, -⟩, -⟩, -⟩, -⟩, -⟩, -⟩ := found
  have least := (located_zero (by decide)).mp first
  exact ⟨_, anchored_ofShape ((located_zero k.near_ne_debit).mp near) least
    ((located_zero (by decide)).mp link) (located_other.mp opposite)
    ((located_zero k.far_ne_debit).mp far) ((located_account_one least).mp second)⟩

section Full

variable (full : ∀ w ∈ ws, w ≠ "")
include full

theorem word?_eq (i : Nat) : (mk ws).word? i = ws[i]? := by
  unfold word?
  cases found : ws[i]? with
  | none => rfl
  | some w => simp [Option.filter, full w (List.mem_of_getElem? found)]

theorem amount_eq_ok {n : Int} (read : (mk ws).amount = .ok n) :
    ∃ m, ws[1]? = some m ∧ IsAmount m n := by
  rw [amount, word?_eq full] at read
  split at read
  · cases read
  · rename_i token found
    split at read
    · cases read
    · rename_i value valued
      cases read
      exact ⟨token, found, amountOfToken?_eq_some.mp valued⟩

theorem amount_eq_error (failed : (mk ws).amount = .error fault) :
    (¬ 1 < ws.length ∧ fault = .malformed) ∨
      1 < ws.length ∧ (¬ ∃ m n, ws[1]? = some m ∧ IsAmount m n) ∧ fault = .invalidAmount := by
  rw [amount, word?_eq full] at failed
  split at failed
  · rename_i missing
    cases failed
    exact Or.inl ⟨Nat.not_lt.mpr (List.getElem?_eq_none_iff.mp missing), rfl⟩
  · rename_i token found
    split at failed
    · rename_i invalid
      cases failed
      refine Or.inr ⟨(List.getElem?_eq_some_iff.mp found).1, ?_, rfl⟩
      rintro ⟨m, n, same, valid⟩
      cases found.symm.trans same
      have nat : (n.toNat : Int) = n := Int.toNat_of_nonneg (Int.le_of_lt valid.positive)
      rw [amountOfToken?_eq_some.mpr (nat ▸ valid)] at invalid
      cases invalid
    · cases failed

theorem currency_eq_ok {q : String} (read : (mk ws).currency = .ok q) :
    ∃ w, ws[2]? = some w ∧ q = Text.upper w := by
  rw [currency, word?_eq full] at read
  split at read
  · cases read
  · rename_i token found
    cases read
    exact ⟨token, found, rfl⟩

theorem currency_eq_error (failed : (mk ws).currency = .error fault) :
    ¬ 2 < ws.length ∧ fault = .malformed := by
  rw [currency, word?_eq full] at failed
  split at failed
  · rename_i missing
    cases failed
    exact ⟨Nat.not_lt.mpr (List.getElem?_eq_none_iff.mp missing), rfl⟩
  · cases failed

theorem accountId?_zero {a : Anchors} (anchored : Anchored ws k a) :
    (mk ws).accountId? 0 = ws[a.first + 1]? := by
  have first : ((mk ws).located .accountWord)[0]? = some a.first :=
    (located_zero (by decide)).mpr anchored.first
  rw [accountId?, first, Option.bind_some, word?_eq full]

theorem accountId?_one {a : Anchors} (anchored : Anchored ws k a) :
    (mk ws).accountId? 1 = ws[a.second + 1]? := by
  have second : ((mk ws).located .accountWord)[1]? = some a.second :=
    (located_account_one anchored.first).mpr anchored.second
  rw [accountId?, second, Option.bind_some, word?_eq full]

theorem sides_eq_ok {ids : Sides} (read : (mk ws).sides k = .ok ids) :
    ∃ a first second, Anchored ws k a ∧ a.Ordered k ∧ ws[a.first + 1]? = some first ∧
      ws[a.second + 1]? = some second ∧ ids = k.sides first second := by
  unfold sides at read
  split at read
  · cases read
  · rename_i anchors found
    obtain ⟨a, anchored⟩ := anchored_of_anchors? found
    cases found.symm.trans (anchors?_of_anchored anchored)
    split at read
    · rename_i ordered
      rw [accountId?_zero full anchored, accountId?_one full anchored] at read
      split at read
      · rename_i first second one two
        cases read
        exact ⟨a, first, second, anchored, Anchors.ordered_iff.mp ordered, one, two, rfl⟩
      · cases read
    · cases read

theorem sides_eq_error (failed : (mk ws).sides k = .error fault) :
    ((¬ ∃ a, Anchored ws k a) ∧ fault = .missingKeyword) ∨
      ∃ a, Anchored ws k a ∧ ((¬ a.Ordered k ∧ fault = .wrongKeywordOrder) ∨
        a.Ordered k ∧ ¬ a.second + 1 < ws.length ∧ fault = .malformed) := by
  unfold sides at failed
  split at failed
  · rename_i missing
    cases failed
    refine Or.inl ⟨?_, rfl⟩
    rintro ⟨a, anchored⟩
    cases missing.symm.trans (anchors?_of_anchored anchored)
  · rename_i anchors found
    obtain ⟨a, anchored⟩ := anchored_of_anchors? found
    cases found.symm.trans (anchors?_of_anchored anchored)
    refine Or.inr ⟨a, anchored, ?_⟩
    split at failed
    · rename_i ordered
      have order := Anchors.ordered_iff.mp ordered
      rw [accountId?_zero full anchored, accountId?_one full anchored] at failed
      split at failed
      · cases failed
      · rename_i absent
        cases failed
        refine Or.inr ⟨order, fun inside => ?_, rfl⟩
        -- the word after the first ACCOUNT comes before the one after the second
        have before := order.first_lt_second
        have one := List.getElem?_eq_getElem (l := ws) (i := a.first + 1) (by omega)
        exact absent _ _ one (List.getElem?_eq_getElem inside)
    · rename_i disordered
      cases failed
      exact Or.inl ⟨fun ordered => disordered (Anchors.ordered_iff.mpr ordered), rfl⟩

theorem checkedSides_eq_ok {ids : Sides} (read : (mk ws).checkedSides k = .ok ids) :
    ∃ a first second, Anchored ws k a ∧ a.Ordered k ∧ ws[a.first + 1]? = some first ∧
      ws[a.second + 1]? = some second ∧ IsAccountId first ∧ IsAccountId second ∧
      ids = k.sides first second := by
  unfold checkedSides at read
  split at read
  · cases read
  · rename_i named found
    obtain ⟨a, first, second, anchored, ordered, one, two, rfl⟩ := sides_eq_ok full found
    split at read
    · rename_i valid
      cases read
      simp only [Bool.and_eq_true, isAccountId_iff] at valid
      obtain ⟨hfirst, hsecond⟩ : IsAccountId first ∧ IsAccountId second := by
        cases k with
        | debit => exact valid
        | credit => exact valid.symm
      exact ⟨a, first, second, anchored, ordered, one, two, hfirst, hsecond, rfl⟩
    · cases read

theorem checkedSides_eq_error (failed : (mk ws).checkedSides k = .error fault) :
    (mk ws).sides k = .error fault ∨ ∃ a first second, Anchored ws k a ∧ a.Ordered k ∧
      ws[a.first + 1]? = some first ∧ ws[a.second + 1]? = some second ∧
      ¬ (IsAccountId first ∧ IsAccountId second) ∧ fault = .invalidAccountId := by
  unfold checkedSides at failed
  split at failed
  · rename_i e refused
    cases failed
    exact Or.inl refused
  · rename_i named found
    obtain ⟨a, first, second, anchored, ordered, one, two, rfl⟩ := sides_eq_ok full found
    split at failed
    · cases failed
    · rename_i invalid
      cases failed
      refine Or.inr ⟨a, first, second, anchored, ordered, one, two, ?_, rfl⟩
      rintro ⟨hfirst, hsecond⟩
      simp only [Bool.and_eq_true, isAccountId_iff] at invalid
      cases k with
      | debit => exact invalid ⟨hfirst, hsecond⟩
      | credit => exact invalid ⟨hsecond, hfirst⟩

theorem executeBy_eq_ok {date : Option Date} (read : (mk ws).executeBy = .ok date) :
    Dated ws date := by
  rw [executeBy, List.head?_eq_getElem?] at read
  split at read
  · rename_i missing
    cases read
    exact (located_none (by decide)).mp missing
  · rename_i i found
    rw [word?_eq full] at read
    split at read
    · cases read
    · rename_i d named
      cases read
      obtain ⟨token, stated, valued⟩ := Option.bind_eq_some_iff.mp named
      obtain ⟨rfl, year⟩ := Date.ofToken?_eq_some.mp valued
      exact ⟨i, (located_zero (by decide)).mp found, stated, year⟩

theorem executeBy_eq_error (failed : (mk ws).executeBy = .error fault) :
    (¬ ∃ date, Dated ws date) ∧ fault = .invalidDate := by
  rw [executeBy, List.head?_eq_getElem?] at failed
  split at failed
  · cases failed
  · rename_i i found
    have on := (located_zero (by decide)).mp found
    rw [word?_eq full] at failed
    split at failed
    · rename_i unnamed
      cases failed
      refine ⟨?_, rfl⟩
      rintro ⟨_ | d, dated⟩
      · exact dated i on.1
      · obtain ⟨j, first, stated, year⟩ := dated
        cases first.unique on
        rw [stated, Option.bind_some, Date.ofToken?_eq_some.mpr ⟨rfl, year⟩] at unnamed
        cases unnamed
    · cases failed

end Full

end Sentence

end Remit
