import SolrRequest.Proofs.Number.FloatClass
import SolrRequest.Proofs.Settings.Endpoint

/-!
# Settings that were read are valid

Every check is passed by settings that were read. What is no number is not zero or below either, so
that a timeout is above zero unless the table gives what is no number.
-/

namespace SolrRequest

namespace LogSettings

theorem name_of_level? {name : String} {level : Severity} (found : level? name = some level) :
    level.name = Text.upper name := by
  have same := List.find?_some found
  exact eq_of_beq same

theorem read_eq_ok_iff {table : Table} {log : LogSettings} : read table = .ok log ↔
    ∃ entries name, table.part "log" = .ok entries ∧
      entries.string "level" "log.level" "INFO" = .ok name ∧
      entries.boolean "to_file" "log.to_file" false = .ok log.toFile ∧
      entries.string "dir" "log.dir" "log" = .ok log.directory ∧
      level? name = some log.level ∧ Text.allBlank log.directory = false := by
  simp only [read, bind_eq_ok]
  constructor
  · rintro ⟨entries, isPart, name, isName, toFile, isToFile, directory, isDirectory, result⟩
    split at result
    · cases result
    · next level found =>
      split at result
      · cases result
      · next visible =>
        cases result
        exact ⟨entries, name, isPart, isName, isToFile, isDirectory, found,
          Bool.eq_false_iff.mpr visible⟩
  · rintro ⟨entries, name, isPart, isName, isToFile, isDirectory, found, visible⟩
    refine ⟨entries, isPart, name, isName, log.toFile, isToFile, log.directory, isDirectory, ?_⟩
    rw [found, visible]
    rfl

/-- The name of the level is the given one in capitals. -/
theorem name_of_read {table : Table} {log : LogSettings} (result : read table = .ok log) :
    log.level.name =
      Text.upper (((table.inPart? "log" "level").bind Value.text?).getD "INFO") := by
  obtain ⟨entries, name, isPart, isName, _, _, found, _⟩ := read_eq_ok_iff.mp result
  rw [name_of_level? found, Table.inPart?_of_part isPart]
  rcases Table.string_eq_ok_iff.mp isName with ⟨absent, rfl⟩ | ⟨v, given, text⟩
  · rw [absent]
    rfl
  · rw [given, Option.bind_some, text]
    rfl

end LogSettings

theorem Seconds.eq_of_toFloat_whole {n : Int} {x : Float}
    (result : (Seconds.whole n).toFloat = .ok x) : x = Double.floatOfInt n := by
  rw [Seconds.toFloat] at result
  split at result
  · cases result
  · exact (Except.ok.inj result).symm

namespace Endpoint

variable {table : Table} {e : Endpoint} {x : Float}

/-- Nothing, or a number of seconds above zero. -/
def HasValidTimeout (e : Endpoint) : Prop :=
  e.timeout = .null ∨ ∃ x, e.timeout = .float x ∧ 0 < x

theorem notPositive_eq_false_iff : notPositive x = false ↔ 0 < x ∨ x.isNaN = true := by
  rw [notPositive, FloatClass.pos_iff, FloatClass.isNaN_iff]
  cases FloatClass.ofFloat x with
  | finite negative m e => simp [Nat.pos_iff_ne_zero]
  | infinite negative => simp
  | notANumber => simp

theorem timeout_of_read (result : read table = .ok e) : ∃ seconds,
    (table.inPart? "solr" "timeout").getD standard.timeout = Seconds.written seconds ∧
      timeoutOf seconds = .ok e.timeout := by
  obtain ⟨entries, seconds, isPart, isSeconds, isTimeout, _⟩ := exists_seconds_of_read result
  rw [Table.inPart?_of_part isPart]
  exact ⟨seconds, Table.seconds_eq_ok_iff.mp isSeconds, isTimeout⟩

/-- Integers become floats that are numbers, so only a float that is given can be none. -/
theorem timeout_eq_iff_of_isNaN (result : read table = .ok e) (noNumber : x.isNaN = true) :
    e.timeout = .float x ↔ table.inPart? "solr" "timeout" = some (.float x) := by
  obtain ⟨seconds, given, isTimeout⟩ := timeout_of_read result
  have notWhole (n : Int) : x ≠ Double.floatOfInt n := by
    rintro rfl
    rw [Double.isNaN_floatOfInt] at noNumber
    cases noNumber
  constructor
  · intro timeout
    rw [timeout] at isTimeout
    rcases seconds with _ | n | y
    · cases isTimeout
    · rw [timeoutOf, map_eq_ok] at isTimeout
      obtain ⟨y, isFloat, same⟩ := isTimeout
      cases same
      exact absurd (Seconds.eq_of_toFloat_whole isFloat) (notWhole n)
    · cases isTimeout
      apply eq_some_of_getD_eq given
      intro standard
      exact notWhole 30 (Value.float.inj (standard.trans standard_timeout))
  · intro inTable
    rw [inTable] at given
    rcases seconds with _ | n | y
    · cases given
    · cases given
    · cases given
      exact (Except.ok.inj isTimeout).symm

theorem timeout_eq_of_read (result : read table = .ok e) :
    e.timeout = .null ∨ ∃ x, e.timeout = .float x := by
  obtain ⟨seconds, _, isTimeout⟩ := timeout_of_read result
  cases seconds with
  | none => exact .inl (Except.ok.inj isTimeout).symm
  | some s =>
    rw [timeoutOf, map_eq_ok] at isTimeout
    obtain ⟨x, _, isTimeout⟩ := isTimeout
    exact .inr ⟨x, isTimeout.symm⟩

/-- The check for what is zero or below lets through what is no number. -/
theorem hasValidTimeout_iff_of_read (result : read table = .ok e) : e.HasValidTimeout ↔
    ∀ x, table.inPart? "solr" "timeout" = some (.float x) → x.isNaN = false := by
  constructor
  · intro valid x inTable
    rw [Bool.eq_false_iff]
    intro noNumber
    have timeout := (timeout_eq_iff_of_isNaN result noNumber).mpr inTable
    rcases valid with null | ⟨y, float, positive⟩
    · rw [null] at timeout
      cases timeout
    · rw [float] at timeout
      cases timeout
      rw [FloatClass.isNaN_eq_false_of_pos positive] at noNumber
      cases noNumber
  · intro numbers
    rcases timeout_eq_of_read result with null | ⟨x, float⟩
    · exact .inl null
    · refine .inr ⟨x, float, ?_⟩
      have longEnough := (checked_of_read result).timeout
      rw [float, isTooShort, notPositive_eq_false_iff] at longEnough
      rcases longEnough with positive | noNumber
      · exact positive
      · have given := (timeout_eq_iff_of_isNaN result noNumber).mp float
        rw [numbers x given] at noNumber
        cases noNumber

end Endpoint

namespace Settings

/-- Settings that were read are valid, but for a timeout that is given as no number. -/
theorem valid_of_read {table : Table} {settings : Settings} (result : read table = .ok settings) :
    settings.log.level.name ∈ ["DEBUG", "INFO", "WARNING", "ERROR", "CRITICAL"] ∧
      settings.log.level.name =
        Text.upper (((table.inPart? "log" "level").bind Value.text?).getD "INFO") ∧
      Text.allBlank settings.log.directory = false ∧
      '?' ∉ settings.solr.getUrl.toList ∧ '?' ∉ settings.solr.postUrl.toList ∧
      Text.allBlank settings.solr.userAgent = false ∧
      (settings.solr.HasValidTimeout ↔
        ∀ x, table.inPart? "solr" "timeout" = some (.float x) → x.isNaN = false) := by
  obtain ⟨readLog, readSolr⟩ := read_eq_ok_iff.mp result
  obtain ⟨_, _, _, _, _, _, _, visible⟩ := LogSettings.read_eq_ok_iff.mp readLog
  have checked := Endpoint.checked_of_read readSolr
  refine ⟨?_, LogSettings.name_of_read readLog, visible, checked.getUrl, checked.postUrl,
    checked.userAgent, Endpoint.hasValidTimeout_iff_of_read readSolr⟩
  exact List.mem_map_of_mem (f := Severity.name) settings.log.level.mem_all

def levelAndTimeout (level timeout : Value) : Table :=
  [(.text "log", .dict [(.text "level", level)]),
    (.text "solr", .dict [(.text "timeout", timeout)])]

theorem valid_of_read_wholeTimeout : ∃ settings,
    read (levelAndTimeout (.text "debug") (.int 5)) = .ok settings ∧
      settings.log.level.name = "DEBUG" ∧ settings.solr.HasValidTimeout := by
  obtain ⟨settings, result⟩ :=
    exists_ok_of_toBool (x := read (levelAndTimeout (.text "debug") (.int 5))) (by decide +kernel)
  obtain ⟨_, level, _, _, _, _, timeout⟩ := valid_of_read result
  have upper : Text.upper "debug" = "DEBUG" := by decide +kernel
  refine ⟨settings, result, level.trans upper, timeout.mpr ?_⟩
  intro x given
  cases given

/-- What is no number passes the check and is not above zero. -/
theorem read_accepts_noNumber : ∃ settings,
    read (levelAndTimeout (.text "debug") (.float Double.nanFloat)) = .ok settings ∧
      ¬ settings.solr.HasValidTimeout := by
  obtain ⟨settings, result⟩ := exists_ok_of_toBool
    (x := read (levelAndTimeout (.text "debug") (.float Double.nanFloat))) (by decide +kernel)
  refine ⟨settings, result, ?_⟩
  have noNumber : Double.nanFloat.isNaN = true := by decide +kernel
  rw [Endpoint.hasValidTimeout_iff_of_read (read_eq_ok_iff.mp result).2]
  intro numbers
  rw [numbers Double.nanFloat rfl] at noNumber
  cases noNumber

end Settings

end SolrRequest
