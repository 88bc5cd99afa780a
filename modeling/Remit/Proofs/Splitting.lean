import Remit.Proofs.Checks
import Remit.Proofs.Session.Posting
import Remit.Proofs.Stopping

/-! A transfer in two parts. The second part is checked against what the first has left, and the
funds suffice for both just if they suffice for the whole. No other check looks at the amount, so
what stops the whole stops one of the parts with the same code. -/

namespace Remit

structure Instruction.Splits (whole one other : Instruction Int) : Prop where
  amount : whole.amount = one.amount + other.amount
  currency : one.currency = whole.currency ∧ other.currency = whole.currency
  debit : one.debit = whole.debit ∧ other.debit = whole.debit
  credit : one.credit = whole.credit ∧ other.credit = whole.credit
  executeBy : one.executeBy = whole.executeBy ∧ other.executeBy = whole.executeBy

/-- The snapshot after the transfer of an instruction, whether it is allowed or not. -/
def Instruction.carriedOut (i : Instruction Int) (s : Snapshot) : Snapshot :=
  s.settle (i.views s true)

def Account.plus (a : Account) (amount : Int) : Account :=
  { a with balance := a.balance + amount }

namespace Instruction

variable {i whole one other : Instruction Int} {s : Snapshot} {debit credit : Account}

theorem carriedOut_eq (i : Instruction Int) (s : Snapshot) :
    i.carriedOut s = s.map fun a => a.leveled s (i.Names a.id) ((i.change? a.id).getD 0) :=
  List.map_congr_left fun _ member => settle_views i true member

theorem change?_of_unnamed (i : Instruction Int) (id : String) (unnamed : ¬ i.Names id) :
    (i.change? id).getD 0 = 0 := by
  cases changed : i.change? id with
  | none => rfl
  | some change => exact absurd (names_iff.mpr ⟨change, changed⟩) unnamed

theorem resolve_carriedOut (i : Instruction Int) (s : Snapshot) (id : String) :
    (i.carriedOut s).resolve id = (s.resolve id).map (·.plus ((i.change? id).getD 0)) := by
  rw [carriedOut_eq]
  exact s.resolve_leveled i.change?_of_unnamed id

theorem balanceOf_carriedOut {a : Account} (member : a ∈ s) :
    (i.carriedOut s).balanceOf a.id = s.balanceOf a.id + (i.change? a.id).getD 0 := by
  rw [carriedOut_eq]
  exact Snapshot.balanceOf_leveled i.change?_of_unnamed member

theorem Splits.change? (splits : whole.Splits one other) (id : String) :
    (one.change? id).getD 0 + (other.change? id).getD 0 = (whole.change? id).getD 0 := by
  simp only [Instruction.change?, splits.credit, splits.debit, splits.amount]
  by_cases credited : id = whole.credit
  · simp [credited]
  · by_cases debited : id = whole.debit
    · simp only [if_neg credited, if_pos debited, Option.getD_some]
      omega
    · simp [credited, debited]

theorem Splits.carriedOut (splits : whole.Splits one other) (s : Snapshot) :
    other.carriedOut (one.carriedOut s) = whole.carriedOut s := by
  have names : ∀ id, (one.Names id ↔ whole.Names id) ∧ (other.Names id ↔ whole.Names id) := by
    intro id
    simp [Names, splits.debit, splits.credit]
  rw [carriedOut_eq other, carriedOut_eq whole]
  conv =>
    lhs
    rhs
    rw [carriedOut_eq one]
  rw [List.map_map]
  refine List.map_congr_left fun a member => ?_
  simp only [Function.comp_apply, Account.leveled_id]
  rw [Account.leveled_leveled (balanceOf_carriedOut member) (other.change?_of_unnamed a.id),
    splits.change?]
  simp [Account.leveled, names]

theorem Authorized.resolve_debit (authorized : i.Authorized s debit credit) :
    (i.carriedOut s).resolve i.debit = some (debit.plus (-i.amount)) := by
  have change : i.change? i.debit = some (-i.amount) := by
    rw [change?, if_neg authorized.sides_differ, if_pos rfl]
  rw [resolve_carriedOut, authorized.debited, change]
  rfl

theorem Authorized.resolve_credit (authorized : i.Authorized s debit credit) :
    (i.carriedOut s).resolve i.credit = some (credit.plus i.amount) := by
  rw [resolve_carriedOut, authorized.credited, change?, if_pos rfl]
  rfl

theorem Splits.authorized_iff (splits : whole.Splits one other) (first : 0 < one.amount)
    (second : 0 < other.amount) : whole.Authorized s debit credit ↔
      one.Authorized s debit credit ∧ other.Authorized (one.carriedOut s)
        (debit.plus (-one.amount)) (credit.plus one.amount) := by
  obtain ⟨sum, ⟨oneCurrency, otherCurrency⟩, ⟨oneDebit, otherDebit⟩, ⟨oneCredit, otherCredit⟩, -⟩ :=
    splits
  constructor
  · intro authorized
    have funded := authorized.funded
    have start : one.Authorized s debit credit :=
      { authorized with
        debited := oneDebit ▸ authorized.debited
        credited := oneCredit ▸ authorized.credited
        positive := first
        supported := oneCurrency ▸ authorized.supported
        debitCurrency := oneCurrency ▸ authorized.debitCurrency
        creditCurrency := oneCurrency ▸ authorized.creditCurrency
        funded := by omega }
    have left : other.amount ≤ debit.balance + -one.amount := by omega
    refine ⟨start, ?_, ?_, second, start.distinct, ?_, ?_, ?_, left⟩
    · rw [otherDebit, ← oneDebit]
      exact start.resolve_debit
    · rw [otherCredit, ← oneCredit]
      exact start.resolve_credit
    all_goals rw [otherCurrency, ← oneCurrency]
    · exact start.supported
    · exact start.debitCurrency
    · exact start.creditCurrency
  · rintro ⟨start, rest⟩
    have left : other.amount ≤ debit.balance + -one.amount := rest.funded
    exact { start with
      debited := oneDebit ▸ start.debited
      credited := oneCredit ▸ start.credited
      positive := by omega
      supported := oneCurrency ▸ start.supported
      debitCurrency := oneCurrency ▸ start.debitCurrency
      creditCurrency := oneCurrency ▸ start.creditCurrency
      funded := by omega }

/-- For a positive amount the last check is the only one that counts how much is asked for. An
instruction that is stopped is stopped by one of the others, or else by this one. -/
theorem stopped_by {code : String} (positive : 0 < i.amount)
    (broken : FirstBroken (checks (i.withAmount (.int i.amount)) s) code) :
    FirstBroken (standing i.currency i.debit i.credit s ++ [(False, "AC01")]) code := by
  rcases broken with ⟨unread, -⟩ | ⟨-, broken⟩
  · exact absurd ⟨i.amount, rfl, positive⟩ unread
  · rw [FirstBroken.append_iff] at broken ⊢
    refine broken.imp_right fun ⟨kept, funds⟩ => ⟨kept, .inl ⟨not_false, ?_⟩⟩
    rcases funds with ⟨-, code⟩ | ⟨-, none⟩
    · exact code
    · exact none.elim

end Instruction

inductive Due (i : Instruction Int) (s : Snapshot) (o : Outcome) : Prop where
  | carried {debit credit : Account} (status : o.status = .successful)
      (settled : s.settle o.views = i.carriedOut s) (authorized : i.Authorized s debit credit)
  | stopped (status : o.status = .failed)
      (broken : FirstBroken (checks (i.withAmount (.int i.amount)) s) o.code.name)

theorem Ended.due {text : Json} {s : Snapshot} {today : Date} {p : Processed}
    {i : Instruction Int} (ended : Ended text s today p)
    (read : Instruction.ofValue text = .ok i) (come : ¬ i.Early today) : Due i s p.outcome := by
  cases ended with
  | unrecognized unread => cases unread.symm.trans read
  | refused same invalid =>
    cases same.symm.trans read
    exact .stopped rfl (validate_eq_error invalid)
  | scheduled same authorized early =>
    cases same.symm.trans read
    exact absurd (isPending_iff.mp early) come
  | executed same authorized =>
    cases same.symm.trans read
    exact .carried rfl rfl authorized

namespace Due

variable {i whole one other : Instruction Int} {s : Snapshot} {o p q r : Outcome}

theorem successful_iff (due : Due i s o) :
    o.status = .successful ↔ ∃ debit credit, i.Authorized s debit credit := by
  cases due with
  | carried status _ authorized => exact iff_of_true status ⟨_, _, authorized⟩
  | stopped status broken =>
    refine iff_of_false (by simp [status]) fun authorized => broken.exists_broken ?_
    exact validate_eq_ok_iff_checks.mp (validate_int_eq_ok.mpr authorized)

theorem failed_iff (due : Due i s o) : o.status = .failed ↔ ¬ o.status = .successful := by
  cases due with
  | carried status => simp [status]
  | stopped status => simp [status]

theorem settled (due : Due i s o) (successful : o.status = .successful) :
    s.settle o.views = i.carriedOut s := by
  cases due with
  | carried _ settled => exact settled
  | stopped status => cases status.symm.trans successful

theorem broken (due : Due i s o) (failed : o.status = .failed) :
    FirstBroken (checks (i.withAmount (.int i.amount)) s) o.code.name := by
  cases due with
  | carried status => cases status.symm.trans failed
  | stopped _ broken => exact broken

/-- The second part is checked against the snapshot that the first has left. -/
structure Parts (whole one other : Instruction Int) (s : Snapshot) (p q r : Outcome) : Prop where
  splits : whole.Splits one other
  positiveOne : 0 < one.amount
  positiveOther : 0 < other.amount
  first : Due one s p
  second : Due other (s.settle p.views) q
  atOnce : Due whole s r

namespace Parts

variable (parts : Parts whole one other s p q r)
include parts

theorem successful_iff : p.status = .successful ∧ q.status = .successful ↔
    r.status = .successful := by
  constructor
  · rintro ⟨first, second⟩
    obtain ⟨debit, credit, start⟩ := parts.first.successful_iff.mp first
    obtain ⟨debitLeft, creditLeft, rest⟩ := parts.second.successful_iff.mp second
    rw [parts.first.settled first] at rest
    have debited := rest.debited
    have credited := rest.credited
    rw [parts.splits.debit.2, ← parts.splits.debit.1, start.resolve_debit] at debited
    rw [parts.splits.credit.2, ← parts.splits.credit.1, start.resolve_credit] at credited
    cases debited
    cases credited
    have both := (parts.splits.authorized_iff parts.positiveOne parts.positiveOther).mpr
      ⟨start, rest⟩
    exact parts.atOnce.successful_iff.mpr ⟨debit, credit, both⟩
  · intro successful
    obtain ⟨debit, credit, authorized⟩ := parts.atOnce.successful_iff.mp successful
    obtain ⟨start, rest⟩ :=
      (parts.splits.authorized_iff parts.positiveOne parts.positiveOther).mp authorized
    have first := parts.first.successful_iff.mpr ⟨debit, credit, start⟩
    rw [← parts.first.settled first] at rest
    exact ⟨first, parts.second.successful_iff.mpr ⟨_, _, rest⟩⟩

theorem settle_eq (successful : r.status = .successful) :
    (s.settle p.views).settle q.views = s.settle r.views := by
  obtain ⟨first, second⟩ := parts.successful_iff.mpr successful
  rw [parts.second.settled second, parts.first.settled first, parts.atOnce.settled successful]
  exact parts.splits.carriedOut s

theorem code_eq (failed : r.status = .failed) :
    p.status = .failed ∧ p.code = r.code ∨
      p.status ≠ .failed ∧ q.status = .failed ∧ q.code = r.code := by
  have positive : 0 < whole.amount := by
    have sum := parts.splits.amount
    have one := parts.positiveOne
    have other := parts.positiveOther
    omega
  have atOnce := Instruction.stopped_by positive (parts.atOnce.broken failed)
  obtain ⟨-, currency, debit, credit, -⟩ := parts.splits
  by_cases first : p.status = .failed
  · have stopped := Instruction.stopped_by parts.positiveOne (parts.first.broken first)
    rw [currency.1, debit.1, credit.1] at stopped
    exact .inl ⟨first, StatusCode.name_injective (stopped.unique atOnce)⟩
  · have carried : p.status = .successful :=
      Decidable.not_not.mp (mt parts.first.failed_iff.mpr first)
    have second : q.status = .failed := by
      refine parts.second.failed_iff.mpr fun successful => ?_
      exact parts.atOnce.failed_iff.mp failed (parts.successful_iff.mp ⟨carried, successful⟩)
    have stopped := Instruction.stopped_by parts.positiveOther (parts.second.broken second)
    -- the accounts are in order before the first part and after it, so only funds are lacking
    obtain ⟨a, b, start⟩ := parts.first.successful_iff.mp carried
    have before := start.standing_kept
    have after : ∀ entry ∈ standing one.currency one.debit one.credit (one.carriedOut s), entry.1 :=
      standing_kept_iff.mpr ⟨_, _, start.resolve_debit, start.resolve_credit, start.sides_differ,
        start.supported, start.debitCurrency, start.creditCurrency⟩
    rw [parts.first.settled carried, currency.2, debit.2, credit.2] at stopped
    rw [currency.1, debit.1, credit.1] at before after
    have funds := (stopped.after_kept after).unique (atOnce.after_kept before)
    exact .inr ⟨first, second, StatusCode.name_injective funds⟩

end Parts

end Due

/-- A transfer in two parts on a day on which it is due. Both parts succeed just if the whole does,
and leave the same snapshot. What fails as a whole fails in parts, and the first part to fail has
the code of the whole. -/
theorem transfer_in_parts {first second atOnce : Json} {one other whole : Instruction Int}
    {s : Snapshot} {today : Date} {p q r : Processed}
    (readOne : Instruction.ofValue first = .ok one)
    (readOther : Instruction.ofValue second = .ok other)
    (readWhole : Instruction.ofValue atOnce = .ok whole) (splits : whole.Splits one other)
    (come : ¬ whole.Early today) (processedOne : process first s today = .ok p)
    (processedOther : process second (s.settle p.outcome.views) today = .ok q)
    (processedWhole : process atOnce s today = .ok r) :
    (p.outcome.status = .successful ∧ q.outcome.status = .successful ↔
      r.outcome.status = .successful) ∧
    (r.outcome.status = .successful →
      (s.settle p.outcome.views).settle q.outcome.views = s.settle r.outcome.views) ∧
    (r.outcome.status = .failed →
      p.outcome.status = .failed ∧ p.outcome.code = r.outcome.code ∨
        p.outcome.status ≠ .failed ∧ q.outcome.status = .failed ∧
          q.outcome.code = r.outcome.code) := by
  have comeOne : ¬ one.Early today := by
    rw [Instruction.Early, splits.executeBy.1]
    exact come
  have comeOther : ¬ other.Early today := by
    rw [Instruction.Early, splits.executeBy.2]
    exact come
  have parts : Due.Parts whole one other s p.outcome q.outcome r.outcome :=
    { splits
      positiveOne := positive_of_ofValue readOne
      positiveOther := positive_of_ofValue readOther
      first := (process_eq_ok.mp processedOne).due readOne comeOne
      second := (process_eq_ok.mp processedOther).due readOther comeOther
      atOnce := (process_eq_ok.mp processedWhole).due readWhole come }
  exact ⟨parts.successful_iff, parts.settle_eq, parts.code_eq⟩

def sampleSum (amount : Int) (views : List View) : Processed :=
  let outcome : Outcome :=
    ⟨.successful, .executed, some ⟨.debit, amount, "USD", "A1", "B1", none⟩, views⟩
  ⟨outcome, executedRecord .debit outcome⟩

/-- The debit account is listed twice, and of its 9 first 3 and then 4 are asked for. -/
theorem transfer_in_parts_sample :
    process (.str "DEBIT 3 USD FROM ACCOUNT A1 FOR CREDIT TO ACCOUNT B1")
      [⟨"A1", 9, "USD"⟩, ⟨"A1", 2, "USD"⟩, ⟨"B1", 0, "USD"⟩] ⟨2025, 6, 15, by decide⟩ =
        .ok (sampleSum 3 [⟨"A1", 6, 9, "USD"⟩, ⟨"A1", 6, 9, "USD"⟩, ⟨"B1", 3, 0, "USD"⟩]) ∧
    Snapshot.settle [⟨"A1", 6, "USD"⟩, ⟨"A1", 6, "USD"⟩, ⟨"B1", 3, "USD"⟩]
        [⟨"A1", 2, 6, "USD"⟩, ⟨"A1", 2, 6, "USD"⟩, ⟨"B1", 7, 3, "USD"⟩] =
      Snapshot.settle [⟨"A1", 9, "USD"⟩, ⟨"A1", 2, "USD"⟩, ⟨"B1", 0, "USD"⟩]
        [⟨"A1", 2, 9, "USD"⟩, ⟨"A1", 2, 9, "USD"⟩, ⟨"B1", 7, 0, "USD"⟩] := by
  have readOne : Instruction.ofValue
      (.str "DEBIT 3 USD FROM ACCOUNT A1 FOR CREDIT TO ACCOUNT B1") =
        .ok ⟨.debit, 3, "USD", "A1", "B1", none⟩ := by rfl
  have readOther : Instruction.ofValue
      (.str "DEBIT 4 USD FROM ACCOUNT A1 FOR CREDIT TO ACCOUNT B1") =
        .ok ⟨.debit, 4, "USD", "A1", "B1", none⟩ := by rfl
  have readWhole : Instruction.ofValue
      (.str "DEBIT 7 USD FROM ACCOUNT A1 FOR CREDIT TO ACCOUNT B1") =
        .ok ⟨.debit, 7, "USD", "A1", "B1", none⟩ := by rfl
  have one : process (.str "DEBIT 3 USD FROM ACCOUNT A1 FOR CREDIT TO ACCOUNT B1")
      [⟨"A1", 9, "USD"⟩, ⟨"A1", 2, "USD"⟩, ⟨"B1", 0, "USD"⟩] ⟨2025, 6, 15, by decide⟩ =
        .ok (sampleSum 3 [⟨"A1", 6, 9, "USD"⟩, ⟨"A1", 6, 9, "USD"⟩, ⟨"B1", 3, 0, "USD"⟩]) := by
    rfl
  have other : process (.str "DEBIT 4 USD FROM ACCOUNT A1 FOR CREDIT TO ACCOUNT B1")
      [⟨"A1", 6, "USD"⟩, ⟨"A1", 6, "USD"⟩, ⟨"B1", 3, "USD"⟩] ⟨2025, 6, 15, by decide⟩ =
        .ok (sampleSum 4 [⟨"A1", 2, 6, "USD"⟩, ⟨"A1", 2, 6, "USD"⟩, ⟨"B1", 7, 3, "USD"⟩]) := by
    rfl
  have whole : process (.str "DEBIT 7 USD FROM ACCOUNT A1 FOR CREDIT TO ACCOUNT B1")
      [⟨"A1", 9, "USD"⟩, ⟨"A1", 2, "USD"⟩, ⟨"B1", 0, "USD"⟩] ⟨2025, 6, 15, by decide⟩ =
        .ok (sampleSum 7 [⟨"A1", 2, 9, "USD"⟩, ⟨"A1", 2, 9, "USD"⟩, ⟨"B1", 7, 0, "USD"⟩]) := by
    rfl
  have splits : Instruction.Splits ⟨.debit, 7, "USD", "A1", "B1", none⟩
      ⟨.debit, 3, "USD", "A1", "B1", none⟩ ⟨.debit, 4, "USD", "A1", "B1", none⟩ :=
    ⟨rfl, ⟨rfl, rfl⟩, ⟨rfl, rfl⟩, ⟨rfl, rfl⟩, ⟨rfl, rfl⟩⟩
  obtain ⟨-, same, -⟩ := transfer_in_parts readOne readOther readWhole splits
    (by simp [Instruction.Early]) one other whole
  exact ⟨one, same rfl⟩

end Remit
