import Remit.Validation
import Remit.Proofs.Settlement

namespace Remit

structure Instruction.Authorized (i : Instruction Int) (accounts : Snapshot)
    (debit credit : Account) : Prop where
  debited : accounts.resolve i.debit = some debit
  credited : accounts.resolve i.credit = some credit
  positive : 0 < i.amount
  distinct : debit.id ≠ credit.id
  supported : i.currency ∈ supportedCurrencies
  debitCurrency : debit.currency = i.currency
  creditCurrency : credit.currency = i.currency
  funded : i.amount ≤ debit.balance

theorem Instruction.Authorized.sides_differ {i : Instruction Int} {accounts : Snapshot}
    {debit credit : Account} (authorized : i.Authorized accounts debit credit) :
    i.debit ≠ i.credit :=
  (Snapshot.ids_differ_iff authorized.debited authorized.credited).mp authorized.distinct

theorem checkAmount_eq_ok {amount : Json} {n : Int} :
    checkAmount amount = .ok n ↔ amount = .int n ∧ 0 < n := by
  cases amount with
  | int m =>
    by_cases positive : 0 < m
    · simp only [checkAmount, positiveInt?, if_pos positive, Except.ok.injEq, Json.int.injEq]
      exact ⟨fun equal => ⟨equal, equal ▸ positive⟩, fun h => h.1⟩
    · simp only [checkAmount, positiveInt?, if_neg positive, reduceCtorEq, Json.int.injEq,
        false_iff]
      rintro ⟨rfl, above⟩
      exact positive above
  | _ => simp [checkAmount, positiveInt?]

theorem checkAccounts_eq_ok {i : Instruction Int} {debit credit : Account} :
    checkAccounts i debit credit = .ok () ↔ debit.id ≠ credit.id ∧
      i.currency ∈ supportedCurrencies ∧ debit.currency = i.currency ∧
      credit.currency = i.currency ∧ i.amount ≤ debit.balance := by
  unfold checkAccounts
  constructor
  · intro valid
    split at valid
    · cases valid
    · rename_i distinct
      split at valid
      · cases valid
      · rename_i supported
        split at valid
        · cases valid
        · rename_i agree
          split at valid
          · cases valid
          · rename_i stated
            split at valid
            · cases valid
            · rename_i funded
              have debited := Decidable.not_not.mp stated
              have credited := (Decidable.not_not.mp agree).symm.trans debited
              exact ⟨distinct, Decidable.not_not.mp supported, debited, credited,
                Int.not_lt.mp funded⟩
  · rintro ⟨distinct, supported, debited, credited, funded⟩
    rw [if_neg distinct, if_neg (not_not_intro supported),
      if_neg (not_not_intro (debited.trans credited.symm)), if_neg (not_not_intro debited),
      if_neg (Int.not_lt.mpr funded)]

theorem validate_eq_ok {i : Instruction Json} {accounts : Snapshot} :
    validate i accounts = .ok () ↔ ∃ amount debit credit, i.amount = .int amount ∧
      (i.withAmount amount).Authorized accounts debit credit := by
  unfold validate
  constructor
  · intro valid
    split at valid
    · cases valid
    · rename_i amount checked
      obtain ⟨read, positive⟩ := checkAmount_eq_ok.mp checked
      split at valid
      · cases valid
      · rename_i debit debited
        split at valid
        · cases valid
        · rename_i credit credited
          obtain ⟨distinct, supported, debitCurrency, creditCurrency, funded⟩ :=
            checkAccounts_eq_ok.mp valid
          exact ⟨amount, debit, credit, read, debited, credited, positive, distinct, supported,
            debitCurrency, creditCurrency, funded⟩
  · rintro ⟨amount, debit, credit, read, authorized⟩
    rw [checkAmount_eq_ok.mpr ⟨read, authorized.positive⟩]
    have debited : accounts.resolve i.debit = some debit := authorized.debited
    have credited : accounts.resolve i.credit = some credit := authorized.credited
    simp only [debited, credited]
    exact checkAccounts_eq_ok.mpr ⟨authorized.distinct, authorized.supported,
      authorized.debitCurrency, authorized.creditCurrency, authorized.funded⟩

theorem validate_int_eq_ok {i : Instruction Int} {accounts : Snapshot} :
    validate (i.withAmount (.int i.amount)) accounts = .ok () ↔
      ∃ debit credit, i.Authorized accounts debit credit := by
  rw [validate_eq_ok]
  constructor
  · rintro ⟨amount, debit, credit, read, authorized⟩
    cases read
    exact ⟨debit, credit, authorized⟩
  · rintro ⟨debit, credit, authorized⟩
    exact ⟨i.amount, debit, credit, rfl, authorized⟩

end Remit
