import Remit.Proofs.Service.Framework
import Remit.Service.Standard

namespace Remit

open Text (Unheralded hasHalf)

def PlainPath (path : List String) : Prop := ∀ key ∈ path, Unheralded key.toList

instance (path : List String) : Decidable (PlainPath path) :=
  inferInstanceAs (Decidable (∀ key ∈ path, Unheralded key.toList))

theorem PlainPath.append {path more : List String} (plain : PlainPath path)
    (added : PlainPath more) : PlainPath (path ++ more) :=
  List.forall_mem_append.mpr ⟨plain, added⟩

theorem PlainPath.position {path : List String} (plain : PlainPath path) (n : Nat) :
    PlainPath (path ++ [toString n]) := by
  apply plain.append
  intro key member
  obtain rfl := List.mem_singleton.mp member
  exact Json.unheralded_natDigits n

theorem PlainPath.unheralded {path : List String} (plain : PlainPath path) :
    Unheralded (".".intercalate path).toList := by
  rw [String.toList_intercalate]
  induction path with
  | nil => exact nofun
  | cons key rest ih =>
    obtain ⟨first, others⟩ := List.forall_mem_cons.mp plain
    cases rest with
    | nil => simpa using first
    | cons next rest =>
      have dot : Unheralded ".".toList := by decide
      rw [List.map_cons, List.map_cons, List.intercalate_cons_cons]
      exact (first.append dot).append (ih others)

namespace Checked

variable {α β : Type}

def Plain (x : Checked α) : Prop := ∀ complaints, x = .error complaints →
  ∀ c ∈ complaints, PlainPath c.path

theorem plain_error {complaint : Complaint} (plain : PlainPath complaint.path) :
    Plain (.error [complaint] : Checked α) := by
  intro _ same c member
  cases same
  obtain rfl := List.mem_singleton.mp member
  exact plain

theorem plain_both {x : Checked α} {y : Checked β} (one : Plain x) (other : Plain y) :
    Plain (both x y) := by
  intro complaints same
  cases x with
  | ok a =>
    cases y with
    | ok b => cases same
    | error e =>
      cases same
      exact other _ rfl
  | error e =>
    cases y with
    | ok b =>
      cases same
      exact one _ rfl
    | error e' =>
      cases same
      exact List.forall_mem_append.mpr ⟨one _ rfl, other _ rfl⟩

theorem plain_items {check : Nat → α → Checked β} (each : ∀ k a, Plain (check k a)) (n : Nat)
    (as : List α) : Plain (items check n as) := by
  induction as generalizing n with
  | nil => exact nofun
  | cons a as ih =>
    intro complaints same
    unfold items at same
    split at same
    · cases same
    · rename_i e failed
      cases same
      exact plain_both (each n a) (ih (n + 1)) _ failed

end Checked

theorem FieldFault.whole (fault : FieldFault) :
    hasHalf fault.message = false ∧ hasHalf fault.name = false := by
  cases fault <;> decide +kernel

namespace Service

theorem plain_required {α : Type} {path : List String} (plain : PlainPath path) (j : Json)
    (key : String) (named : Unheralded key.toList) (check : Json → Except FieldFault α) :
    (required path j key check).Plain := by
  have inside : PlainPath (path ++ [key]) := plain.append (by simpa [PlainPath] using named)
  unfold required
  split
  · exact Checked.plain_error inside
  · rename_i value _
    cases checked : check value with
    | ok a => exact nofun
    | error fault => exact Checked.plain_error inside

theorem plain_accountOfJson {path : List String} (plain : PlainPath path) (j : Json) :
    (accountOfJson path j).Plain := by
  have fields := Checked.plain_both
    (plain_required plain j "id" (by decide) Field.nonEmptyText)
    (Checked.plain_both (plain_required plain j "balance" (by decide) Field.integer)
      (plain_required plain j "currency" (by decide) Field.nonEmptyText))
  unfold accountOfJson
  split
  · exact Checked.plain_error plain
  · split
    · rename_i e failed
      intro complaints same
      cases same
      exact fields _ failed
    · exact nofun

theorem plain_ofJson (j : Json) : (Request.ofJson j).Plain := by
  have accounts : (accountsOfJson j).Plain := by
    have body : PlainPath ["body", "accounts"] := by decide
    unfold accountsOfJson
    split
    · exact nofun
    · exact Checked.plain_items (fun n item => plain_accountOfJson (body.position n) item) 0 _
    · exact Checked.plain_error body
  have top : PlainPath ["body"] := by decide
  have fields := Checked.plain_both
    (plain_required top j "instruction" (by decide) Field.text) accounts
  unfold Request.ofJson
  split
  · exact Checked.plain_error top
  · split
    · rename_i e failed
      intro complaints same
      cases same
      exact fields _ failed
    · exact nofun

theorem plain_of_ofBody {contentType : Option String} {body : String}
    {complaints : List Complaint} (read : Request.ofBody contentType body =
      .error (.invalid complaints)) : ∀ c ∈ complaints, PlainPath c.path := by
  have top : PlainPath ["body"] := by decide
  unfold Request.ofBody at read
  split at read
  · cases read
    simpa using top
  · split at read
    · split at read
      · cases read
      · unfold Request.ofDocument at read
        split at read
        · cases read
          simpa using top.position _
        · cases read
        · split at read
          · rename_i e failed
            cases read
            exact plain_ofJson _ _ failed
          · cases read
    · cases read
      simpa using top

theorem whole_bodyErrorOf {c : Complaint} (plain : PlainPath c.path) : (bodyErrorOf c).Whole :=
  ⟨Text.hasHalf_of_unheralded plain.unheralded, (FieldFault.whole c.fault).1,
    (FieldFault.whole c.fault).2⟩

section Dispatch

variable {h : Handlers} {raised : Raised}

theorem Handlers.dispatch_of_ok {response : Response}
    (answered : (h.attempt raised).result = .ok response) :
    h.dispatch raised = ⟨response, (h.attempt raised).records⟩ := by
  cases raised with
  | other cause =>
    have last : (h.other cause).result = .ok response := answered
    simp only [dispatch, lastReply, last]
    rfl
  | payments | invalid => simp only [dispatch, answered]

theorem Handlers.dispatch_of_error {cause : String} (known : ∀ other, raised ≠ .other other)
    (failed : (h.attempt raised).result = .error cause) :
    h.dispatch raised = (h.dispatch (.other cause)).after (h.attempt raised).records := by
  cases raised with
  | other cause => exact absurd rfl (known cause)
  | payments | invalid => simp only [dispatch, failed]

end Dispatch

theorem standard_lawful (shown : List Complaint → String) : (Framework.standard shown).Lawful where
  routed := by
    intro r method path
    have resolved : Endpoint.ofPath? r.path = some .payment := by
      rw [path]
      decide
    have allowed : r.method ∈ Endpoint.payment.methods := by simp [method, Endpoint.methods]
    simp only [Framework.standard, standardTarget, resolved, if_pos allowed, Endpoint.target]
  carried := by
    intro r request read
    simp only [Framework.standard, standardReading] at read
    split at read
    · rename_i same
      cases read
      exact carried_of_ofBody same
    · cases read
    · cases read
  reported := by
    intro r errors line read
    simp only [Framework.standard, standardReading] at read
    split at read
    · cases read
    · rename_i complaints same
      cases read
      intro e member
      obtain ⟨c, inside, rfl⟩ := List.mem_map.mp member
      exact whole_bodyErrorOf (plain_of_ofBody same c inside)
    · cases read
  encodes j := by
    rw [← Json.obstacle?_eq_none]
    exact Option.map_eq_none_iff
  emits _ _ _ := rfl
  handled _ _ _ answered := Handlers.dispatch_of_ok answered
  caught _ _ _ known failed := Handlers.dispatch_of_error known failed

end Service

end Remit
