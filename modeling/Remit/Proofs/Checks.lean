import Remit.Proofs.Authorization
import Remit.Proofs.Grammar.Rule

namespace Remit

def IsFirstEntry (accounts : Snapshot) (id : String) (a : Account) : Prop :=
  ∃ before after, accounts = before ++ a :: after ∧ a.id = id ∧ ∀ b ∈ before, b.id ≠ id

section Entry

variable {accounts : Snapshot} {id : String} {a : Account}

theorem isFirstEntry_iff : IsFirstEntry accounts id a ↔ accounts.resolve id = some a := by
  simp only [IsFirstEntry, Snapshot.resolve, List.find?_eq_some_iff_append, beq_iff_eq,
    Bool.not_eq_true', beq_eq_false_iff_ne]
  constructor
  · rintro ⟨before, after, split, bears, others⟩
    exact ⟨bears, before, after, split, others⟩
  · rintro ⟨bears, before, after, split, others⟩
    exact ⟨before, after, split, bears, others⟩

theorem listed_iff : (∃ a ∈ accounts, a.id = id) ↔ ∃ a, accounts.resolve id = some a := by
  constructor
  · rintro ⟨a, member, rfl⟩
    exact Snapshot.resolve_of_mem member
  · rintro ⟨a, resolved⟩
    exact ⟨a, Snapshot.resolve_some resolved⟩

end Entry

def standing (currency debit credit : String) (accounts : Snapshot) : List (Prop × String) :=
  [(∃ a ∈ accounts, a.id = debit, "AC03"),
    (∃ a ∈ accounts, a.id = credit, "AC03"),
    (debit ≠ credit, "AC02"),
    (currency ∈ ["NGN", "USD", "GBP", "GHS"], "CU02"),
    (∃ a b, IsFirstEntry accounts debit a ∧ IsFirstEntry accounts credit b ∧
      a.currency = currency ∧ b.currency = currency, "CU01")]

/-- The checks in their order, each with the code for failing it. -/
def checks (i : Instruction Json) (accounts : Snapshot) : List (Prop × String) :=
  (∃ n, i.amount = .int n ∧ 0 < n, "AM01") :: (standing i.currency i.debit i.credit accounts ++
    [(∃ a n, IsFirstEntry accounts i.debit a ∧ i.amount = .int n ∧ n ≤ a.balance, "AC01")])

theorem standing_kept_iff {currency debit credit : String} {accounts : Snapshot} :
    (∀ entry ∈ standing currency debit credit accounts, entry.1) ↔ ∃ a b,
      accounts.resolve debit = some a ∧ accounts.resolve credit = some b ∧ debit ≠ credit ∧
        currency ∈ supportedCurrencies ∧ a.currency = currency ∧ b.currency = currency := by
  simp only [standing, List.forall_mem_cons, List.not_mem_nil, false_implies, implies_true,
    and_true, listed_iff, isFirstEntry_iff]
  constructor
  · rintro ⟨-, -, differ, supported, a, b, debited, credited, one, other⟩
    exact ⟨a, b, debited, credited, differ, supported, one, other⟩
  · rintro ⟨a, b, debited, credited, differ, supported, one, other⟩
    exact ⟨⟨a, debited⟩, ⟨b, credited⟩, differ, supported, a, b, debited, credited, one, other⟩

theorem Instruction.Authorized.standing_kept {i : Instruction Int} {accounts : Snapshot}
    {debit credit : Account} (authorized : i.Authorized accounts debit credit) :
    ∀ entry ∈ standing i.currency i.debit i.credit accounts, entry.1 :=
  standing_kept_iff.mpr ⟨debit, credit, authorized.debited, authorized.credited,
    authorized.sides_differ, authorized.supported, authorized.debitCurrency,
    authorized.creditCurrency⟩

section Validate

variable {i : Instruction Json} {accounts : Snapshot} {debit credit : Account} {amount : Int}
  {refusal : Refusal}

theorem checkAmount_eq_error (refused : checkAmount i.amount = .error refusal) :
    refusal = .invalidAmount ∧ ¬ ∃ n, i.amount = .int n ∧ 0 < n := by
  constructor
  · unfold checkAmount at refused
    split at refused <;> cases refused
    rfl
  · rintro ⟨n, read, positive⟩
    cases (checkAmount_eq_ok.mpr ⟨read, positive⟩).symm.trans refused

theorem checkAccounts_eq_error (debited : accounts.resolve i.debit = some debit)
    (credited : accounts.resolve i.credit = some credit) (read : i.amount = .int amount)
    (refused : checkAccounts (i.withAmount amount) debit credit = .error refusal) :
    FirstBroken (standing i.currency i.debit i.credit accounts ++
      [(∃ a n, IsFirstEntry accounts i.debit a ∧ i.amount = .int n ∧ n ≤ a.balance, "AC01")])
      refusal.code.name := by
  have first : ∃ a ∈ accounts, a.id = i.debit := listed_iff.mpr ⟨debit, debited⟩
  have second : ∃ a ∈ accounts, a.id = i.credit := listed_iff.mpr ⟨credit, credited⟩
  refine .inr ⟨first, .inr ⟨second, ?_⟩⟩
  have differ := Snapshot.ids_differ_iff debited credited
  have agree : (∃ a b, IsFirstEntry accounts i.debit a ∧ IsFirstEntry accounts i.credit b ∧
      a.currency = i.currency ∧ b.currency = i.currency) ↔
        debit.currency = i.currency ∧ credit.currency = i.currency := by
    simp [isFirstEntry_iff, debited, credited]
  have funded : (∃ a n, IsFirstEntry accounts i.debit a ∧ i.amount = .int n ∧ n ≤ a.balance) ↔
      amount ≤ debit.balance := by
    simp [isFirstEntry_iff, debited, read]
  -- one branch for each check, and what is left of the list after it
  unfold checkAccounts at refused
  split at refused
  · rename_i same
    cases refused
    exact .inl ⟨mt differ.mpr (not_not_intro same), rfl⟩
  rename_i distinct
  refine .inr ⟨differ.mp distinct, ?_⟩
  split at refused
  · rename_i unsupported
    cases refused
    exact .inl ⟨unsupported, rfl⟩
  rename_i supported
  refine .inr ⟨Decidable.not_not.mp supported, ?_⟩
  split at refused
  · rename_i apart
    cases refused
    refine .inl ⟨fun both => apart ?_, rfl⟩
    obtain ⟨one, other⟩ := agree.mp both
    exact one.trans other.symm
  rename_i alike
  split at refused
  · rename_i foreign
    cases refused
    exact .inl ⟨fun both => foreign (agree.mp both).1, rfl⟩
  rename_i stated
  have one := Decidable.not_not.mp stated
  have other := (Decidable.not_not.mp alike).symm.trans one
  refine .inr ⟨agree.mpr ⟨one, other⟩, ?_⟩
  split at refused
  · rename_i short
    cases refused
    exact .inl ⟨fun held => Int.not_le.mpr short (funded.mp held), rfl⟩
  · cases refused

theorem validate_eq_error (refused : validate i accounts = .error refusal) :
    FirstBroken (checks i accounts) refusal.code.name := by
  unfold validate at refused
  split at refused
  · rename_i checked
    cases refused
    obtain ⟨rfl, unread⟩ := checkAmount_eq_error checked
    exact .inl ⟨unread, rfl⟩
  rename_i amount checked
  obtain ⟨read, positive⟩ := checkAmount_eq_ok.mp checked
  refine .inr ⟨⟨amount, read, positive⟩, ?_⟩
  split at refused
  · rename_i missing
    cases refused
    refine .inl ⟨?_, rfl⟩
    simp [listed_iff, missing]
  rename_i debit debited
  split at refused
  · rename_i missing
    cases refused
    refine .inr ⟨listed_iff.mpr ⟨debit, debited⟩, .inl ⟨?_, rfl⟩⟩
    simp [listed_iff, missing]
  · rename_i credit credited
    exact checkAccounts_eq_error debited credited read refused

theorem validate_eq_ok_iff_checks :
    validate i accounts = .ok () ↔ ∀ entry ∈ checks i accounts, entry.1 := by
  constructor
  · intro valid
    obtain ⟨amount, debit, credit, read, authorized⟩ := validate_eq_ok.mp valid
    have first : IsFirstEntry accounts i.debit debit := isFirstEntry_iff.mpr authorized.debited
    simp only [checks, List.forall_mem_cons, List.forall_mem_append, List.not_mem_nil,
      false_implies, implies_true, and_true]
    exact ⟨⟨amount, read, authorized.positive⟩, authorized.standing_kept, debit, amount, first,
      read, authorized.funded⟩
  · intro kept
    cases checked : validate i accounts with
    | ok => rfl
    | error refusal => exact absurd kept (validate_eq_error checked).exists_broken

theorem checkAccounts_ne_accountNotFound {i : Instruction Int} {id : String} :
    checkAccounts i debit credit ≠ .error (.accountNotFound id) := by
  intro refused
  unfold checkAccounts at refused
  repeat' split at refused
  all_goals cases refused

theorem validate_accountNotFound {id : String}
    (refused : validate i accounts = .error (.accountNotFound id)) :
    id = if ∃ a ∈ accounts, a.id = i.debit then i.credit else i.debit := by
  unfold validate at refused
  split at refused
  · rename_i checked
    cases refused
    cases (checkAmount_eq_error checked).1
  split at refused
  · rename_i missing
    cases refused
    rw [if_neg (by simp [listed_iff, missing])]
  rename_i debit debited
  rw [if_pos (listed_iff.mpr ⟨debit, debited⟩)]
  split at refused
  · cases refused
    rfl
  · exact absurd refused checkAccounts_ne_accountNotFound

/-- An instruction passes just if it meets every check, and is refused with a code just if that is
the code of the first check it fails. A refusal for an account that is not listed names it, and
names the debit account if neither is. -/
theorem validate_in_order (i : Instruction Json) (accounts : Snapshot) :
    (validate i accounts = .ok () ↔ ∀ entry ∈ checks i accounts, entry.1) ∧
    (∀ code, (∃ refusal, validate i accounts = .error refusal ∧ refusal.code.name = code) ↔
      FirstBroken (checks i accounts) code) ∧
    ∀ refusal, validate i accounts = .error refusal → refusal.code.name = "AC03" →
      refusal.reason = .ok ("Account not found: " ++
        if ∃ a ∈ accounts, a.id = i.debit then i.credit else i.debit) := by
  refine ⟨validate_eq_ok_iff_checks, fun code => ⟨?_, ?_⟩, ?_⟩
  · rintro ⟨refusal, refused, rfl⟩
    exact validate_eq_error refused
  · intro broken
    cases checked : validate i accounts with
    | ok => exact absurd (validate_eq_ok_iff_checks.mp checked) broken.exists_broken
    | error refusal => exact ⟨refusal, rfl, (validate_eq_error checked).unique broken⟩
  · intro refusal refused named
    cases refusal with
    | accountNotFound id =>
      rw [← validate_accountNotFound refused]
      rfl
    | _ => simp [Refusal.code, StatusCode.name] at named

end Validate

/-- Two sides that are one, without funds and in another currency, and a credit account that is not
listed. -/
theorem validate_in_order_sample :
    FirstBroken (checks ⟨.debit, .int 5, "EUR", "A1", "A1", none⟩ [⟨"A1", 0, "USD"⟩]) "AC02" ∧
    (Refusal.accountNotFound "B1").reason = .ok "Account not found: B1" := by
  obtain ⟨-, code, -⟩ :=
    validate_in_order ⟨.debit, .int 5, "EUR", "A1", "A1", none⟩ [⟨"A1", 0, "USD"⟩]
  obtain ⟨-, -, named⟩ :=
    validate_in_order ⟨.debit, .int 5, "EUR", "A1", "B1", none⟩ [⟨"A1", 0, "USD"⟩]
  refine ⟨(code "AC02").mp ⟨.sameAccount, by decide, rfl⟩, ?_⟩
  exact named (.accountNotFound "B1") (by decide) rfl

end Remit
