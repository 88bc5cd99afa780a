import Remit.Proofs.Logging.Level

namespace Remit

theorem Layout.ofFormat_eq_json {format : String} :
    Layout.ofFormat format = .json ↔ format = "json" := by
  simp [Layout.ofFormat]

theorem Layout.ofFormat_eq_text {format : String} :
    Layout.ofFormat format = .text ↔ format ≠ "json" := by
  simp [Layout.ofFormat]

namespace Handler

@[simp] theorem own?_own (handler : OwnHandler) : (own handler).own? = some handler := rfl

@[simp] theorem own?_foreign (label : String) : (foreign label).own? = none := rfl

@[simp] theorem foreign?_own (handler : OwnHandler) : (own handler).foreign? = none := rfl

@[simp] theorem foreign?_foreign (label : String) : (foreign label).foreign? = some label := rfl

/-- One of our own is taken away from our own alone. -/
theorem filterMap_own?_erase (handlers : List Handler) (handler : OwnHandler) :
    (handlers.erase (own handler)).filterMap own? = (handlers.filterMap own?).erase handler := by
  induction handlers with
  | nil => rfl
  | cons first rest ih =>
    cases first with
    | own other =>
      by_cases same : other = handler
      · subst same
        simp
      · simp [same, ih]
    | foreign label => simp [List.filterMap_cons, ih]

theorem filterMap_foreign?_erase (handlers : List Handler) (handler : OwnHandler) :
    (handlers.erase (own handler)).filterMap foreign? = handlers.filterMap foreign? := by
  induction handlers with
  | nil => rfl
  | cons first rest ih =>
    by_cases same : first = own handler
    · subst same
      simp [List.filterMap_cons]
    · simp [List.filterMap_cons, same, ih]

end Handler

namespace LogState

/-- At most one of our own handlers is at the root, that of the last set-up. Others may have taken
it away. -/
def Tracked (s : LogState) : Prop := s.ownHandlers.Sublist s.installed.toList

/-- Set-ups one after another. A failed one does not stop the next. -/
def run (s : LogState) : List SetUp → LogState
  | [] => s
  | call :: rest => (s.setUp call).1.run rest

variable {s : LogState}

theorem start_tracked (level : Int) (others : List String) : (start level others).Tracked := by
  have none_own : (start level others).ownHandlers = [] := by
    simp [ownHandlers, start, List.filterMap_map, Function.comp_def]
  unfold Tracked
  rw [none_own]
  exact List.nil_sublist _

theorem kept_own (tracked : s.Tracked) : s.kept.filterMap Handler.own? = [] := by
  unfold Tracked at tracked
  cases last : s.installed with
  | none =>
    rw [last] at tracked
    simp only [kept, last]
    exact List.sublist_nil.mp tracked
  | some old =>
    rw [last] at tracked
    -- Ours at the root are at most the one that is taken away.
    have erased := tracked.erase old
    simp only [kept, last, Handler.filterMap_own?_erase]
    simpa [ownHandlers] using erased

theorem kept_foreign (s : LogState) : s.kept.filterMap Handler.foreign? = s.otherHandlers := by
  cases last : s.installed with
  | none => simp only [kept, last, otherHandlers]
  | some old => simp only [kept, last, Handler.filterMap_foreign?_erase, otherHandlers]

/-- The new handler is not among those that are kept, so it is added. -/
theorem install_handlers (tracked : s.Tracked) (layout : Layout) :
    (s.install layout).handlers = s.kept ++ [.own (s.make layout)] := by
  have new : .own (s.make layout) ∉ s.kept := by
    intro old
    have listed : s.make layout ∈ s.kept.filterMap Handler.own? :=
      List.mem_filterMap.mpr ⟨_, old, rfl⟩
    rw [kept_own tracked] at listed
    cases listed
  simp [install, add, new]

theorem setUp_handlers (s : LogState) (call : SetUp) :
    (s.setUp call).1.handlers = (s.install (.ofFormat call.format)).handlers := by
  obtain ⟨n, same⟩ := s.setUp_eq_install call
  rw [same]

theorem setUp_ownHandlers (tracked : s.Tracked) (call : SetUp) :
    (s.setUp call).1.ownHandlers = [s.make (.ofFormat call.format)] := by
  simp [ownHandlers, setUp_handlers, install_handlers tracked, kept_own tracked]

theorem setUp_otherHandlers (tracked : s.Tracked) (call : SetUp) :
    (s.setUp call).1.otherHandlers = s.otherHandlers := by
  rw [← kept_foreign s]
  simp [otherHandlers, setUp_handlers, install_handlers tracked, List.filterMap_cons]

theorem setUp_tracked (tracked : s.Tracked) (call : SetUp) : (s.setUp call).1.Tracked := by
  simp [Tracked, setUp_ownHandlers tracked, setUp_installed]

theorem run_append (s : LogState) (calls more : List SetUp) :
    s.run (calls ++ more) = (s.run calls).run more := by
  induction calls generalizing s with
  | nil => rfl
  | cons call rest ih => simp [run, ih]

theorem run_concat (s : LogState) (calls : List SetUp) (last : SetUp) :
    s.run (calls ++ [last]) = ((s.run calls).setUp last).1 := by
  rw [run_append]
  rfl

theorem run_tracked (tracked : s.Tracked) (calls : List SetUp) : (s.run calls).Tracked := by
  induction calls generalizing s with
  | nil => exact tracked
  | cons call rest ih => exact ih (setUp_tracked tracked call)

theorem run_otherHandlers (tracked : s.Tracked) (calls : List SetUp) :
    (s.run calls).otherHandlers = s.otherHandlers := by
  induction calls generalizing s with
  | nil => rfl
  | cons call rest ih =>
    rw [run, ih (setUp_tracked tracked call), setUp_otherHandlers tracked]

end LogState

/-- The level after some set-ups: that of the last one that did not fail, or the level before them
if all of them failed. -/
inductive LevelLeft (initial : Int) (calls : List SetUp) : Int → Prop where
  | kept (failed : ∀ call ∈ calls, call.Fails) : LevelLeft initial calls initial
  | set (before after : List SetUp) {call : SetUp} {n : Int}
      (split : calls = before ++ call :: after) (passed : ¬ call.Fails)
      (stands : StandsFor call.level n) (failed : ∀ later ∈ after, later.Fails) :
      LevelLeft initial calls n

theorem LevelLeft.exists (initial : Int) (calls : List SetUp) :
    ∃ n, LevelLeft initial calls n := by
  induction calls with
  | nil => exact ⟨initial, .kept fun _ listed => absurd listed List.not_mem_nil⟩
  | cons call rest ih =>
    obtain ⟨n, left⟩ := ih
    -- The first call counts only if all after it fail.
    cases left with
    | kept failed =>
      by_cases fails : call.Fails
      · exact ⟨initial, .kept (List.forall_mem_cons.mpr ⟨fails, failed⟩)⟩
      · exact ⟨_, .set [] rest rfl fails (standsFor_iff.mpr rfl) failed⟩
    | set before after split passed stands failed =>
      subst split
      exact ⟨n, .set (call :: before) after rfl passed stands failed⟩

namespace LogState

variable {s : LogState} {calls : List SetUp} {n : Int}

theorem run_level_of_failed (failed : ∀ call ∈ calls, call.Fails) :
    (s.run calls).level = s.level := by
  induction calls generalizing s with
  | nil => rfl
  | cons call rest ih =>
    obtain ⟨fails, failed⟩ := List.forall_mem_cons.mp failed
    rw [run, ih failed, s.setUp_level_of_failed fails]

theorem run_level_of_left (left : LevelLeft s.level calls n) : (s.run calls).level = n := by
  cases left with
  | kept failed => exact run_level_of_failed failed
  | set before after split passed stands failed =>
    rw [split, run_append, run, run_level_of_failed failed]
    exact (setUp_level_of_passed ((setUp_passed _ _).mpr passed)).mpr stands

theorem run_level : (s.run calls).level = n ↔ LevelLeft s.level calls n := by
  constructor
  · rintro rfl
    obtain ⟨n, left⟩ := LevelLeft.exists s.level calls
    rw [run_level_of_left left]
    exact left
  · exact run_level_of_left

end LogState

/-- After one or more set-ups, failed ones included, the root has one handler of ours, in the layout
that the last of them asks for, the handlers of others as they were, and the level of the last one
that passed. -/
theorem set_ups_leave_one_handler :
    (∀ level others, (LogState.start level others).Tracked) ∧
    (∀ (s : LogState) (call : SetUp), (s.setUp call).2 = none ↔ ¬ call.Fails) ∧
    ∀ s : LogState, s.Tracked → ∀ (calls : List SetUp) (last : SetUp),
      let left := s.run (calls ++ [last])
      (∃ handler, left.ownHandlers = [handler] ∧ left.installed = some handler ∧
        (handler.layout = .json ↔ last.format = "json") ∧
        (handler.layout = .text ↔ last.format ≠ "json")) ∧
      left.otherHandlers = s.otherHandlers ∧
      ∀ n, left.level = n ↔ LevelLeft s.level (calls ++ [last]) n := by
  refine ⟨LogState.start_tracked, LogState.setUp_passed, ?_⟩
  intro s tracked calls last
  have before : (s.run calls).Tracked := LogState.run_tracked tracked calls
  refine ⟨⟨(s.run calls).make (.ofFormat last.format), ?_, ?_, ?_, ?_⟩, ?_, ?_⟩
  · rw [LogState.run_concat, LogState.setUp_ownHandlers before]
  · rw [LogState.run_concat, LogState.setUp_installed]
  · exact Layout.ofFormat_eq_json
  · exact Layout.ofFormat_eq_text
  · exact LogState.run_otherHandlers tracked _
  · exact fun n => LogState.run_level

/-- A call that passes and two that fail, at a root with two handlers of others. -/
theorem set_ups_leave_one_handler_sample :
    let left := (LogState.start 15 ["syslog", "pytest"]).run
      ([⟨"debug", "text"⟩, ⟨"basic_format", "json"⟩] ++ [⟨"_styles", "JSON"⟩])
    (∃ handler, left.ownHandlers = [handler] ∧ handler.layout = .text) ∧
    left.otherHandlers = ["syslog", "pytest"] ∧ left.level = 10 := by
  obtain ⟨started, -, runs⟩ := set_ups_leave_one_handler
  obtain ⟨⟨handler, own, -, -, text⟩, others, level⟩ :=
    runs (.start 15 ["syslog", "pytest"]) (started _ _)
      [⟨"debug", "text"⟩, ⟨"basic_format", "json"⟩] ⟨"_styles", "JSON"⟩
  refine ⟨⟨handler, own, text.mpr (by decide)⟩, others, (level 10).mpr ?_⟩
  apply LevelLeft.set [] [⟨"basic_format", "json"⟩, ⟨"_styles", "JSON"⟩] rfl
  · rintro ⟨fault, misnamed⟩
    cases fault with
    | basicTemplate => exact absurd misnamed (by decide +kernel)
    | styleTable => exact absurd misnamed (by decide +kernel)
  · exact .listed (by decide +kernel)
  · intro later listed
    simp only [List.mem_cons, List.not_mem_nil, or_false] at listed
    rcases listed with rfl | rfl
    · exact ⟨.basicTemplate, by decide +kernel⟩
    · exact ⟨.styleTable, by decide +kernel⟩

end Remit
