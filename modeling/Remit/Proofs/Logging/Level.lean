import Remit.Logging

namespace Remit

def levelNames : List (String × Int) :=
  [("NOTSET", 0), ("DEBUG", 10), ("INFO", 20), ("WARN", 30), ("WARNING", 30), ("ERROR", 40),
    ("CRITICAL", 50), ("FATAL", 50)]

/-- Names of other things that are found where levels are looked for. -/
def misnomers : List (String × LevelFault) :=
  [("BASIC_FORMAT", .basicTemplate), ("_STYLES", .styleTable)]

def Misnamed (name : String) (fault : LevelFault) : Prop := (Text.upper name, fault) ∈ misnomers

instance (name : String) (fault : LevelFault) : Decidable (Misnamed name fault) :=
  inferInstanceAs (Decidable (_ ∈ misnomers))

def SetUp.Fails (call : SetUp) : Prop := ∃ fault, Misnamed call.level fault

inductive StandsFor (name : String) : Int → Prop where
  | listed {n : Int} (named : (Text.upper name, n) ∈ levelNames) : StandsFor name n
  | unlisted (unnamed : ∀ n, (Text.upper name, n) ∉ levelNames) : StandsFor name 20

section Name

variable {name : String} {level : Level} {fault : LevelFault}

theorem mem_levelNames {w : String} {n : Int} :
    (w, n) ∈ levelNames ↔ ∃ level, Level.ofName? w = some level ∧ (level.number : Int) = n := by
  constructor
  · intro listed
    simp only [levelNames, List.mem_cons, Prod.mk.injEq, List.not_mem_nil, or_false] at listed
    rcases listed with ⟨rfl, rfl⟩ | ⟨rfl, rfl⟩ | ⟨rfl, rfl⟩ | ⟨rfl, rfl⟩ | ⟨rfl, rfl⟩ |
      ⟨rfl, rfl⟩ | ⟨rfl, rfl⟩ | ⟨rfl, rfl⟩
    all_goals exact ⟨_, rfl, rfl⟩
  · rintro ⟨level, read, rfl⟩
    unfold Level.ofName? at read
    split at read
    all_goals cases read
    all_goals decide

theorem standsFor_iff {n : Int} :
    StandsFor name n ↔ n = ((Level.ofName? (Text.upper name)).getD .info).number := by
  constructor
  · intro stands
    cases stands with
    | listed named =>
      obtain ⟨level, read, rfl⟩ := mem_levelNames.mp named
      rw [read]
      rfl
    | unlisted unnamed =>
      cases read : Level.ofName? (Text.upper name) with
      | none => rfl
      | some level => exact absurd (mem_levelNames.mpr ⟨level, read, rfl⟩) (unnamed _)
  · rintro rfl
    cases read : Level.ofName? (Text.upper name) with
    | none =>
      apply StandsFor.unlisted
      intro n named
      obtain ⟨level, found, -⟩ := mem_levelNames.mp named
      cases read.symm.trans found
    | some level => exact .listed (mem_levelNames.mpr ⟨level, read, rfl⟩)

theorem Level.named_eq_error : Level.named name = .error fault ↔ Misnamed name fault := by
  unfold Level.named Misnamed
  constructor
  · intro failed
    split at failed
    · cases failed
    · split at failed
      · rename_i basic
        cases failed
        rw [basic]
        decide
      · rename_i styles
        cases failed
        rw [styles]
        decide
      · cases failed
  · intro misnamed
    simp only [misnomers, List.mem_cons, Prod.mk.injEq, List.not_mem_nil, or_false] at misnamed
    rcases misnamed with ⟨spelled, rfl⟩ | ⟨spelled, rfl⟩
    · simp [spelled, Level.ofName?]
    · simp [spelled, Level.ofName?]

theorem Level.named_eq_ok (found : Level.named name = .ok level) :
    StandsFor name level.number := by
  rw [standsFor_iff]
  unfold Level.named at found
  split at found
  · rename_i read
    cases found
    rw [read]
    rfl
  · rename_i unread
    split at found
    · cases found
    · cases found
    · cases found
      rw [unread]
      rfl

end Name

namespace LogState

variable {s : LogState} {call : SetUp} {fault : LevelFault}

theorem setUp_of_ok {level : Level} (found : Level.named call.level = .ok level) :
    s.setUp call = ({ s.install (.ofFormat call.format) with level := level.number }, none) := by
  simp only [setUp, found]

theorem setUp_of_error (failed : Level.named call.level = .error fault) :
    s.setUp call = (s.install (.ofFormat call.format), some fault) := by
  simp only [setUp, failed]

theorem setUp_fault : (s.setUp call).2 = some fault ↔ Misnamed call.level fault := by
  rw [← Level.named_eq_error]
  cases found : Level.named call.level with
  | ok level => simp [setUp_of_ok found]
  | error other => simp [setUp_of_error found]

theorem setUp_passed (s : LogState) (call : SetUp) :
    (s.setUp call).2 = none ↔ ¬ call.Fails := by
  simp only [SetUp.Fails, ← setUp_fault (s := s), not_exists, Option.eq_none_iff_forall_ne_some,
    ne_eq]

theorem setUp_level_of_passed {n : Int} (passed : (s.setUp call).2 = none) :
    (s.setUp call).1.level = n ↔ StandsFor call.level n := by
  cases found : Level.named call.level with
  | ok level =>
    have stands := standsFor_iff.mp (Level.named_eq_ok found)
    rw [setUp_of_ok found, standsFor_iff, ← stands]
    exact eq_comm
  | error fault =>
    rw [setUp_of_error found] at passed
    cases passed

theorem setUp_level_of_failed (s : LogState) (fails : call.Fails) :
    (s.setUp call).1.level = s.level := by
  obtain ⟨fault, misnamed⟩ := fails
  rw [setUp_of_error (Level.named_eq_error.mpr misnamed)]
  rfl

theorem setUp_eq_install (s : LogState) (call : SetUp) :
    ∃ n, (s.setUp call).1 = { s.install (.ofFormat call.format) with level := n } := by
  cases found : Level.named call.level with
  | ok level =>
    refine ⟨level.number, ?_⟩
    rw [setUp_of_ok found]
  | error fault =>
    refine ⟨s.level, ?_⟩
    rw [setUp_of_error found]
    rfl

theorem setUp_installed (s : LogState) (call : SetUp) :
    (s.setUp call).1.installed = some (s.make (.ofFormat call.format)) := by
  obtain ⟨n, same⟩ := s.setUp_eq_install call
  rw [same]
  rfl

end LogState

/-- A set-up passes and leaves the level that its name stands for, unless the name is that of
another thing. Then it fails and leaves the level as it was, although the handler is new. -/
theorem level_set_unless_misnamed (s : LogState) (call : SetUp) :
    ((s.setUp call).2 = none ∧ StandsFor call.level (s.setUp call).1.level ↔ ¬ call.Fails) ∧
    (∀ fault, (s.setUp call).2 = some fault ↔ Misnamed call.level fault) ∧
    (call.Fails → (s.setUp call).1.level = s.level ∧
      (s.setUp call).1.installed = some (s.make (.ofFormat call.format))) := by
  refine ⟨⟨?_, ?_⟩, ?_, ?_⟩
  · intro completed
    exact (s.setUp_passed call).mp completed.1
  · intro named
    have passed := (s.setUp_passed call).mpr named
    exact ⟨passed, (LogState.setUp_level_of_passed passed).mp rfl⟩
  · exact fun fault => LogState.setUp_fault
  · intro fails
    exact ⟨s.setUp_level_of_failed fails, s.setUp_installed call⟩

/-- One of the two names, at a level that somebody else has set. -/
theorem level_set_unless_misnamed_sample :
    ((LogState.start 15 ["syslog"]).setUp ⟨"_styles", "text"⟩).2 = some .styleTable ∧
    ((LogState.start 15 ["syslog"]).setUp ⟨"_styles", "text"⟩).1.level = 15 := by
  have misnamed : Misnamed "_styles" .styleTable := by decide +kernel
  obtain ⟨-, fault, failed⟩ :=
    level_set_unless_misnamed (.start 15 ["syslog"]) ⟨"_styles", "text"⟩
  exact ⟨(fault .styleTable).mpr misnamed, (failed ⟨_, misnamed⟩).1⟩

/-- The name of the template of the basic layout. -/
theorem level_not_set_for_all :
    ¬ ∀ (s : LogState) (call : SetUp),
      (s.setUp call).2 = none ∧ StandsFor call.level (s.setUp call).1.level := by
  intro total
  have passed := (total .initial ⟨"BASIC_FORMAT", "json"⟩).1
  revert passed
  decide +kernel

end Remit
