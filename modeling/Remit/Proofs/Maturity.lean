import Remit.Proofs.Calendar
import Remit.Proofs.Decision
import Remit.Proofs.Dependence

namespace Remit

theorem Date.iso_lt_iso_iff (a b : Date) : a.iso < b.iso ↔ a < b := by
  obtain ⟨ys, ms, ds, parts, year, month, day⟩ := a.isoChars_parts
  obtain ⟨ys', ms', ds', parts', year', month', day'⟩ := b.isoChars_parts
  have order : a.iso < b.iso ↔ a.isoChars < b.isoChars := by
    change a.iso.toList < b.iso.toList ↔ _
    rw [iso, iso, String.toList_ofList, String.toList_ofList]
  have years := year.width.trans year'.width.symm
  have months := month.width.trans month'.width.symm
  rw [order, parts, parts', Text.append_lt_append_iff years, year.lt_iff year', year.eq_iff year',
    List.cons_lt_cons_self, Text.append_lt_append_iff months, month.lt_iff month',
    month.eq_iff month', List.cons_lt_cons_self, day.lt_iff day']
  rfl

theorem isPending_some_iff (e t : Date) : isPending (some e) t = true ↔ t.iso < e.iso := by
  rw [Date.iso_lt_iso_iff]
  exact decide_eq_true_iff

def View.start (v : View) : String × Int × String := (v.id, v.balanceBefore, v.currency)

theorem Instruction.views_start (i : Instruction Int) (accounts : Snapshot) :
    (i.views accounts true).map View.start = (i.views accounts false).map View.start := by
  simp only [views_eq, List.map_filterMap, Option.map_map]
  rfl

/-- What the days have in common on which a text is processed on a snapshot. -/
inductive Course (text : Json) (accounts : Snapshot) : Prop where
  | failed {p : Processed} (status : p.outcome.status = .failed)
      (always : ∀ today, process text accounts today = .ok p)
  | successful {i : Instruction Int} {p : Processed} (read : Instruction.ofValue text = .ok i)
      (undated : i.executeBy = none) (status : p.outcome.status = .successful)
      (always : ∀ today, process text accounts today = .ok p)
  | dated {i : Instruction Int} {d : Date} {early late : Processed}
      (read : Instruction.ofValue text = .ok i) (named : i.executeBy = some d)
      (pending : early.outcome.status = .pending)
      (successful : late.outcome.status = .successful)
      (same : early.outcome.instruction = some i ∧ late.outcome.instruction = some i)
      (views : late.outcome.views.map View.start = early.outcome.views.map View.start)
      (before : ∀ today, today < d → process text accounts today = .ok early)
      (since : ∀ today, ¬ today < d → process text accounts today = .ok late)

section Course

variable {text : Json} {accounts : Snapshot} {today : Date} {p : Processed}

theorem Instruction.Authorized.course {i : Instruction Int} {debit credit : Account}
    (authorized : i.Authorized accounts debit credit)
    (read : Instruction.ofValue text = .ok i) : Course text accounts := by
  cases named : i.executeBy with
  | none =>
    have due : ∀ today, isPending i.executeBy today = false := by simp [named, isPending]
    exact .successful read named rfl fun today =>
      process_eq_ok.mpr (.executed read authorized (due today))
  | some d =>
    have waits : ∀ today, isPending i.executeBy today = decide (today < d) := by
      simp [named, isPending]
    have before := fun today (early : today < d) =>
      process_eq_ok.mpr (.scheduled read authorized ((waits today).trans (decide_eq_true early)))
    have since := fun today (due : ¬ today < d) =>
      process_eq_ok.mpr (.executed read authorized ((waits today).trans (decide_eq_false due)))
    refine .dated read named ?_ ?_ ?_ ?_ before since
    · rfl
    · rfl
    · exact ⟨rfl, rfl⟩
    · exact i.views_start accounts

theorem Ended.course (ended : Ended text accounts today p) : Course text accounts := by
  cases ended with
  | unrecognized read => exact .failed rfl fun _ => process_eq_ok.mpr (.unrecognized read)
  | refused read invalid written =>
    exact .failed rfl fun _ => process_eq_ok.mpr (.refused read invalid written)
  | scheduled read authorized | executed read authorized => exact authorized.course read

/-- A date is to come just if its written form is greater than that of the day. What is processed
on one day is processed on every day: it fails on all of them, or it is carried out on all of them,
or it waits before its date and is carried out in one way from then on. -/
theorem pending_until_date :
    (∀ e t : Date, isPending (some e) t = true ↔ t.iso < e.iso) ∧
    ∀ text accounts today p, process text accounts today = .ok p → Course text accounts :=
  ⟨isPending_some_iff, fun _ _ _ _ processed => (process_eq_ok.mp processed).course⟩

end Course

def sampleAwaited : Outcome :=
  ⟨.pending, .scheduled, some ⟨.debit, 500, "USD", "A1", "B1", some ⟨2027, 3, 1, by decide⟩⟩,
    [⟨"A1", 500, 500, "USD"⟩, ⟨"B1", -7, -7, "USD"⟩]⟩

/-- The day before the first of a month, and every day from that on. -/
theorem pending_until_date_sample :
    process (.str "DEBIT 500 USD FROM ACCOUNT A1 FOR CREDIT TO ACCOUNT B1 ON 2027-03-01")
      [⟨"A1", 500, "USD"⟩, ⟨"B1", -7, "USD"⟩] ⟨2027, 2, 28, by decide⟩ =
        .ok ⟨sampleAwaited, executedRecord .debit sampleAwaited⟩ ∧
    ∃ late : Processed, late.outcome.status = .successful ∧
      ∀ today, ¬ today < ⟨2027, 3, 1, by decide⟩ → process
        (.str "DEBIT 500 USD FROM ACCOUNT A1 FOR CREDIT TO ACCOUNT B1 ON 2027-03-01")
        [⟨"A1", 500, "USD"⟩, ⟨"B1", -7, "USD"⟩] today = .ok late := by
  have processed : process
      (.str "DEBIT 500 USD FROM ACCOUNT A1 FOR CREDIT TO ACCOUNT B1 ON 2027-03-01")
      [⟨"A1", 500, "USD"⟩, ⟨"B1", -7, "USD"⟩] ⟨2027, 2, 28, by decide⟩ =
        .ok ⟨sampleAwaited, executedRecord .debit sampleAwaited⟩ := by rfl
  have read : Instruction.ofValue
      (.str "DEBIT 500 USD FROM ACCOUNT A1 FOR CREDIT TO ACCOUNT B1 ON 2027-03-01") =
        .ok ⟨.debit, 500, "USD", "A1", "B1", some ⟨2027, 3, 1, by decide⟩⟩ := by rfl
  refine ⟨processed, ?_⟩
  cases pending_until_date.2 _ _ _ _ processed with
  | failed status always =>
    cases (always _).symm.trans processed
    cases status
  | successful other undated status always =>
    cases (always _).symm.trans processed
    cases status
  | dated other named pending successful same views before since =>
    cases other.symm.trans read
    cases named
    exact ⟨_, successful, since⟩

end Remit
