import Remit.Proofs.Grammar.Refusal

namespace Remit

section Position

variable {α : Type} {us vs : List α} {u : α} {i j : Nat}

theorem getElem?_append_iff : (us ++ vs)[j]? = some u ↔
    us[j]? = some u ∨ ∃ n, j = us.length + n ∧ vs[n]? = some u := by
  constructor
  · intro found
    rw [List.getElem?_append] at found
    split at found
    · exact .inl found
    · exact .inr ⟨j - us.length, by omega, found⟩
  · rintro (front | ⟨n, rfl, back⟩)
    · rw [List.getElem?_append_left (List.getElem?_eq_some_iff.mp front).1, front]
    · rw [List.getElem?_append_right (by omega), Nat.add_sub_cancel_left, back]

theorem getElem?_append_of_found (found : us[i]? = some u) : (us ++ vs)[i]? = some u :=
  getElem?_append_iff.mpr (.inl found)

theorem IsFirst.append (first : IsFirst us u i) : IsFirst (us ++ vs) u i := by
  refine ⟨getElem?_append_of_found first.1, fun j before found => ?_⟩
  have inside := (List.getElem?_eq_some_iff.mp first.1).1
  rcases getElem?_append_iff.mp found with front | ⟨n, rfl, -⟩
  · exact first.2 j before front
  · omega

theorem isFirst_append_iff (absent : u ∉ us) :
    IsFirst (us ++ vs) u j ↔ ∃ n, j = us.length + n ∧ IsFirst vs u n := by
  constructor
  · rintro ⟨found, least⟩
    rcases getElem?_append_iff.mp found with front | ⟨n, rfl, back⟩
    · exact absurd (List.mem_of_getElem? front) absent
    · refine ⟨n, rfl, back, fun m before same => ?_⟩
      exact least (us.length + m) (by omega) (getElem?_append_iff.mpr (.inr ⟨m, rfl, same⟩))
  · rintro ⟨n, rfl, back, least⟩
    refine ⟨getElem?_append_iff.mpr (.inr ⟨n, rfl, back⟩), fun m before found => ?_⟩
    rcases getElem?_append_iff.mp found with front | ⟨n, rfl, same⟩
    · exact absent (List.mem_of_getElem? front)
    · exact least n (by omega) same

theorem IsLast.append (last : IsLast us u i) (absent : u ∉ vs) : IsLast (us ++ vs) u i := by
  refine ⟨getElem?_append_of_found last.1, fun j after found => ?_⟩
  rcases getElem?_append_iff.mp found with front | ⟨n, rfl, back⟩
  · exact last.2 j after front
  · exact absent (List.mem_of_getElem? back)

theorem IsLast.append_right (last : IsLast vs u i) : IsLast (us ++ vs) u (us.length + i) := by
  refine ⟨getElem?_append_iff.mpr (.inr ⟨i, rfl, last.1⟩), fun j after found => ?_⟩
  rcases getElem?_append_iff.mp found with front | ⟨n, rfl, back⟩
  · have inside := (List.getElem?_eq_some_iff.mp front).1
    omega
  · exact last.2 n (by omega) back

theorem IsNext.append (next : IsNext us u i j) : IsNext (us ++ vs) u i j := by
  refine ⟨getElem?_append_of_found next.1, next.2.1, fun m after before found => ?_⟩
  have inside := (List.getElem?_eq_some_iff.mp next.1).1
  rcases getElem?_append_iff.mp found with front | ⟨n, rfl, -⟩
  · exact next.2.2 m after before front
  · omega

end Position

def Displaces (vs : List String) (k : Kind) : Prop := k = .credit ∧ "DEBIT" ∈ capitalized vs

def TakesDate (ws vs : List String) : Prop := "ON" ∉ capitalized ws ∧ "ON" ∈ capitalized vs

section Anchored

variable {ws vs : List String} {k : Kind} {a : Anchors} {o : Nat} {date : Option Date}

theorem capitalized_append : capitalized (ws ++ vs) = capitalized ws ++ capitalized vs :=
  List.map_append

theorem length_capitalized : (capitalized ws).length = ws.length := List.length_map ..

theorem Opens.append (opening : Opens ws k) : Opens (ws ++ vs) k := by
  rw [Opens, capitalized_append]
  exact getElem?_append_of_found opening

theorem OppositeAt.append (placed : OppositeAt ws k o) (clear : ¬ Displaces vs k) :
    OppositeAt (ws ++ vs) k o := by
  cases k with
  | debit =>
    have first : IsFirst (capitalized (ws ++ vs)) "CREDIT" o := by
      rw [capitalized_append]
      exact IsFirst.append placed
    exact first
  | credit =>
    have last : IsLast (capitalized (ws ++ vs)) "DEBIT" o := by
      rw [capitalized_append]
      exact IsLast.append placed fun member => clear ⟨rfl, member⟩
    exact last

theorem Displaces.oppositeAt (displaced : Displaces vs k) (ws : List String) :
    ∃ n, OppositeAt (ws ++ vs) k (ws.length + n) := by
  obtain ⟨rfl, member⟩ := displaced
  obtain ⟨_, found⟩ := List.mem_iff_getElem?.mp member
  obtain ⟨n, last⟩ := exists_isLast found
  have placed : IsLast (capitalized (ws ++ vs)) "DEBIT" ((capitalized ws).length + n) := by
    rw [capitalized_append]
    exact last.append_right
  rw [length_capitalized] at placed
  exact ⟨n, placed⟩

theorem Anchored.append (anchored : Anchored ws k a) (opposite : OppositeAt (ws ++ vs) k o) :
    Anchored (ws ++ vs) k { a with opposite := o } := by
  constructor
  case opposite => exact opposite
  all_goals rw [capitalized_append]
  · exact anchored.source.append
  · exact anchored.target.append
  · exact anchored.link.append
  · exact anchored.first.append
  · exact anchored.second.append

theorem dated_none : Dated ws none ↔ "ON" ∉ capitalized ws := by
  rw [List.mem_iff_getElem?, not_exists]
  exact Iff.rfl

theorem Dated.append (dated : Dated ws date) (keeps : ¬ TakesDate ws vs) :
    Dated (ws ++ vs) date := by
  cases date with
  | none =>
    have absent := dated_none.mp dated
    rw [dated_none, capitalized_append, List.mem_append, not_or]
    exact ⟨absent, fun member => keeps ⟨absent, member⟩⟩
  | some d =>
    obtain ⟨i, on, stated, late⟩ := dated
    refine ⟨i, ?_, getElem?_append_of_found stated, late⟩
    rw [capitalized_append]
    exact on.append

theorem dated_append_iff (takes : TakesDate ws vs) :
    Dated (ws ++ vs) date ↔ ∃ d, date = some d ∧ Dated vs date := by
  obtain ⟨absent, occurs⟩ := takes
  cases date with
  | none => simp [dated_none, capitalized_append, occurs]
  | some d =>
    have after (n : Nat) : (ws ++ vs)[ws.length + n + 1]? = vs[n + 1]? := by
      rw [Nat.add_assoc, List.getElem?_append_right (by omega), Nat.add_sub_cancel_left]
    simp only [Dated, capitalized_append, isFirst_append_iff absent, length_capitalized]
    constructor
    · rintro ⟨_, ⟨n, rfl, on⟩, stated, late⟩
      exact ⟨d, rfl, n, on, (after n).symm.trans stated, late⟩
    · rintro ⟨_, _, n, on, stated, late⟩
      exact ⟨_, ⟨n, rfl, on⟩, (after n).trans stated, late⟩

end Anchored

section Text

variable {text more : String} {i : Instruction Int} {a : Anchors} {o : Nat} {code : String}

theorem States.append {ws vs : List String} {date : Option Date} (stated : States ws i)
    (clear : ¬ Displaces vs i.kind) (dated : Dated (ws ++ vs) date) :
    States (ws ++ vs) { i with executeBy := date } := by
  obtain ⟨opening, ⟨m, numeral, amount⟩, ⟨q, spelled, currency⟩,
    ⟨a, first, second, anchored, ordered, one, two, hfirst, hsecond, sides⟩, -⟩ := stated
  exact ⟨opening.append, ⟨m, getElem?_append_of_found numeral, amount⟩,
    ⟨q, getElem?_append_of_found spelled, currency⟩,
    ⟨a, first, second, anchored.append (anchored.opposite.append clear), ordered,
      getElem?_append_of_found one, getElem?_append_of_found two, hfirst, hsecond, sides⟩, dated⟩

/-- The rules that come before the order of the keywords are kept. -/
theorem States.firstBroken_append (stated : States (Text.words text) i)
    (anchored : Anchored (Text.words text) i.kind a)
    (opposite : OppositeAt (Text.words text ++ Text.words more) i.kind o) :
    FirstBroken (rules (Text.words (text ++ " " ++ more)) (text ++ " " ++ more)) code ↔
      FirstBroken (lateRules (Text.words text ++ Text.words more) i.kind
        { a with opposite := o }) code := by
  obtain ⟨opening, ⟨m, numeral, amount⟩, ⟨q, spelled, -⟩, -, -⟩ := stated
  have third : (Text.words text ++ Text.words more)[2]? = some q :=
    getElem?_append_of_found spelled
  have long := (List.getElem?_eq_some_iff.mp third).1
  rw [Text.words_append]
  exact firstBroken_of_anchored (by simp) opening.append
    ⟨m, _, getElem?_append_of_found numeral, amount⟩ long (anchored.append opposite)

theorem States.displaced (stated : States (Text.words text) i)
    (displaced : Displaces (Text.words more) i.kind) :
    Instruction.ofText (text ++ " " ++ more) = .error .wrongKeywordOrder := by
  obtain ⟨a, first, second, anchored, -, -, two, -⟩ := stated.sides
  obtain ⟨n, opposite⟩ := displaced.oppositeAt (Text.words text)
  rw [ofText_eq_error, stated.firstBroken_append anchored opposite]
  refine .inl ⟨fun ordered => ?_, rfl⟩
  -- DEBIT would stand in front of the second ACCOUNT
  obtain ⟨-, -, -, -, between, before⟩ := Anchors.ordered_iff_near.mp ordered
  have inside := (List.getElem?_eq_some_iff.mp two).1
  simp only at between before
  omega

theorem States.undated (stated : States (Text.words text) i)
    (clear : ¬ Displaces (Text.words more) i.kind)
    (undated : ¬ ∃ date, Dated (Text.words text ++ Text.words more) date) :
    Instruction.ofText (text ++ " " ++ more) = .error .invalidDate := by
  obtain ⟨a, first, second, anchored, ordered, one, two, hfirst, hsecond, -⟩ := stated.sides
  have two : (Text.words text ++ Text.words more)[a.second + 1]? = some second :=
    getElem?_append_of_found two
  rw [ofText_eq_error, stated.firstBroken_append anchored (anchored.opposite.append clear)]
  exact .inr ⟨ordered, .inr ⟨(List.getElem?_eq_some_iff.mp two).1,
    .inr ⟨⟨first, second, getElem?_append_of_found one, two, hfirst, hsecond⟩,
      .inl ⟨undated, rfl⟩⟩⟩⟩

inductive Continued (i : Instruction Int) (ws vs : List String) :
    Except SyntaxFault (Instruction Int) → Prop where
  | displaced (displaced : Displaces vs i.kind) : Continued i ws vs (.error .wrongKeywordOrder)
  | undated (clear : ¬ Displaces vs i.kind) (takes : TakesDate ws vs)
      (undated : ¬ ∃ d, Dated vs (some d)) : Continued i ws vs (.error .invalidDate)
  | dated {d : Date} (clear : ¬ Displaces vs i.kind) (takes : TakesDate ws vs)
      (dated : Dated vs (some d)) : Continued i ws vs (.ok { i with executeBy := some d })
  | same (clear : ¬ Displaces vs i.kind) (keeps : ¬ TakesDate ws vs) : Continued i ws vs (.ok i)

theorem States.continued (stated : States (Text.words text) i) (more : String) :
    Continued i (Text.words text) (Text.words more) (Instruction.ofText (text ++ " " ++ more)) := by
  by_cases displaced : Displaces (Text.words more) i.kind
  · rw [stated.displaced displaced]
    exact .displaced displaced
  have read {date : Option Date} (dated : Dated (Text.words text ++ Text.words more) date) :
      Instruction.ofText (text ++ " " ++ more) = .ok { i with executeBy := date } := by
    rw [ofText_eq_ok, Text.words_append]
    exact stated.append displaced dated
  by_cases takes : TakesDate (Text.words text) (Text.words more)
  · by_cases clause : ∃ d, Dated (Text.words more) (some d)
    · obtain ⟨d, dated⟩ := clause
      rw [read ((dated_append_iff takes).mpr ⟨d, rfl, dated⟩)]
      exact .dated displaced takes dated
    · rw [stated.undated displaced ?_]
      · exact .undated displaced takes clause
      · rintro ⟨date, dated⟩
        obtain ⟨d, rfl, later⟩ := (dated_append_iff takes).mp dated
        exact clause ⟨d, later⟩
  · rw [read (stated.date.append takes)]
    exact .same displaced takes

/-- What follows an instruction in its text changes neither what it moves nor the accounts. It can
put a CREDIT out of order, and it can give a date to an instruction without one. -/
theorem continued_text_keeps_transfer (read : Instruction.ofText text = .ok i) (more : String) :
    (Instruction.ofText (text ++ " " ++ more) = .error .wrongKeywordOrder ↔
      Displaces (Text.words more) i.kind) ∧
    (¬ Displaces (Text.words more) i.kind →
      (Instruction.ofText (text ++ " " ++ more) = .error .invalidDate ↔
        TakesDate (Text.words text) (Text.words more) ∧
          ¬ ∃ d, Dated (Text.words more) (some d))) ∧
    (¬ Displaces (Text.words more) i.kind →
      ¬ (TakesDate (Text.words text) (Text.words more) ∧
        ¬ ∃ d, Dated (Text.words more) (some d)) →
      ∃ date, Instruction.ofText (text ++ " " ++ more) = .ok { i with executeBy := date } ∧
        (TakesDate (Text.words text) (Text.words more) →
          ∃ d, date = some d ∧ Dated (Text.words more) (some d)) ∧
        (¬ TakesDate (Text.words text) (Text.words more) → date = i.executeBy)) := by
  have continued := (states_of_ofText read).continued more
  generalize Instruction.ofText (text ++ " " ++ more) = result at continued ⊢
  cases continued with
  | displaced displaced =>
    exact ⟨iff_of_true rfl displaced, fun clear => absurd displaced clear,
      fun clear => absurd displaced clear⟩
  | undated clear takes undated =>
    exact ⟨iff_of_false (by simp) clear, fun _ => iff_of_true rfl ⟨takes, undated⟩,
      fun _ valid => absurd ⟨takes, undated⟩ valid⟩
  | @dated d clear takes dated =>
    exact ⟨iff_of_false (by simp) clear, fun _ => iff_of_false (by simp) fun h => h.2 ⟨d, dated⟩,
      fun _ _ => ⟨some d, rfl, fun _ => ⟨d, rfl, dated⟩, fun keeps => absurd takes keeps⟩⟩
  | same clear keeps =>
    exact ⟨iff_of_false (by simp) clear, fun _ => iff_of_false (by simp) fun h => keeps h.1,
      fun _ _ => ⟨i.executeBy, rfl, fun takes => absurd takes keeps, fun _ => rfl⟩⟩

end Text

/-- A CREDIT without a date that goes on with another account and a date, or with another DEBIT. -/
theorem continued_text_keeps_transfer_sample :
    (∃ date, Instruction.ofText ("CREDIT 5 USD TO ACCOUNT B1 FOR DEBIT FROM ACCOUNT A1" ++ " " ++
      "to account Z9 on 2026-01-31") = .ok ⟨.credit, 5, "USD", "A1", "B1", date⟩) ∧
    Instruction.ofText ("CREDIT 5 USD TO ACCOUNT B1 FOR DEBIT FROM ACCOUNT A1" ++ " " ++
      "for debit") = .error .wrongKeywordOrder := by
  have read : Instruction.ofText "CREDIT 5 USD TO ACCOUNT B1 FOR DEBIT FROM ACCOUNT A1" =
      .ok ⟨.credit, 5, "USD", "A1", "B1", none⟩ := by rfl
  obtain ⟨order, -, -⟩ := continued_text_keeps_transfer read "for debit"
  obtain ⟨-, -, kept⟩ := continued_text_keeps_transfer read "to account Z9 on 2026-01-31"
  have clear : "DEBIT" ∉ capitalized (Text.words "to account Z9 on 2026-01-31") := by decide
  have on : IsFirst (capitalized (Text.words "to account Z9 on 2026-01-31")) "ON" 3 :=
    ⟨by decide, by decide⟩
  have clause : Dated (Text.words "to account Z9 on 2026-01-31")
      (some ⟨2026, 1, 31, by decide⟩) := ⟨3, on, by decide, by decide⟩
  obtain ⟨date, same, -⟩ := kept (fun h => clear h.2) fun h => h.2 ⟨_, clause⟩
  exact ⟨⟨date, same⟩, order.mpr ⟨rfl, by decide⟩⟩

end Remit
