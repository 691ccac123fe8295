import SolrRequest.Proofs.Number.Nearest
import SolrRequest.Proofs.Settings.Endpoint

/-!
# How reading settings fails

A value is of another kind than its setting, or it is of that kind and not taken. The one fault
besides is that of a timeout whose integer is beyond the doubles: it is converted after its kind was
checked and before its size is.
-/

namespace SolrRequest

namespace SettingsError

/-- Faults as callers tell them apart. -/
inductive Family
  /-- Something is of another kind than it has to be. -/
  | mismatch
  /-- A value is of its kind, but it is not taken. -/
  | refusal
  /-- A number is beyond those that are computed with. -/
  | overflow
deriving DecidableEq

def family : SettingsError → Family
  | noObject _ | wrongKind _ _ => .mismatch
  | unknownLevel | blankDirectory | timeoutNotPositive | queryInUrl | blankUserAgent => .refusal
  | timeoutTooLarge => .overflow

theorem family_regular_iff {e : SettingsError} :
    (e.family = .mismatch ∨ e.family = .refusal) ↔ e ≠ .timeoutTooLarge := by
  cases e <;> simp [family]

end SettingsError

namespace Table

variable {t : Table} {name key setting : String} {fault : SettingsError}

theorem family_of_part (failed : t.part name = .error fault) : fault.family = .mismatch := by
  unfold part at failed
  split at failed <;> cases failed
  rfl

theorem family_of_string {absent : String} (failed : t.string key setting absent = .error fault) :
    fault.family = .mismatch := by
  unfold string at failed
  split at failed
  · cases failed
  · split at failed <;> cases failed
    rfl

theorem family_of_boolean {absent : Bool} (failed : t.boolean key setting absent = .error fault) :
    fault.family = .mismatch := by
  unfold boolean at failed
  split at failed <;> cases failed
  rfl

theorem family_of_seconds {absent : Value} (failed : t.seconds key setting absent = .error fault) :
    fault.family = .mismatch := by
  unfold seconds at failed
  split at failed <;> cases failed
  rfl

theorem exists_string_iff {absent : String} : (∃ s, t.string key setting absent = .ok s) ↔
    ∀ v, t.get? key = some v → ∃ s, v.text? = some s := by
  simp only [string_eq_ok_iff]
  cases t.get? key <;> simp

end Table

theorem LogSettings.read_ne_timeoutTooLarge (table : Table) :
    LogSettings.read table ≠ .error .timeoutTooLarge := by
  intro failed
  rcases bind_eq_error.mp failed with failed | ⟨entries, _, failed⟩
  · cases Table.family_of_part failed
  rcases bind_eq_error.mp failed with failed | ⟨name, _, failed⟩
  · cases Table.family_of_string failed
  rcases bind_eq_error.mp failed with failed | ⟨toFile, _, failed⟩
  · cases Table.family_of_boolean failed
  rcases bind_eq_error.mp failed with failed | ⟨directory, _, failed⟩
  · cases Table.family_of_string failed
  split at failed
  · cases failed
  · split at failed <;> cases failed

/-- Only an integer can be too large; a float is one already. -/
theorem Seconds.toFloat_eq_error_iff {s : Seconds} {fault : SettingsError} :
    s.toFloat = .error fault ↔
      fault = .timeoutTooLarge ∧ ∃ n, s = .whole n ∧ Double.leastOverflow ≤ n.natAbs := by
  cases s with
  | whole n =>
    simp only [toFloat, Double.overflows_nearest_iff]
    by_cases large : Double.leastOverflow ≤ n.natAbs
    · simp [large, eq_comm]
    · simp [large]
  | real x => simp [toFloat]

namespace Endpoint

variable {table : Table} {fault : SettingsError}

theorem family_of_check {e : Endpoint} (failed : e.check = .error fault) :
    fault.family = .refusal := by
  unfold check at failed
  split at failed
  · cases failed
    rfl
  · split at failed
    · cases failed
      rfl
    · split at failed <;> cases failed
      rfl

theorem timeoutOf_eq_error_iff {seconds : Option Seconds} : timeoutOf seconds = .error fault ↔
    fault = .timeoutTooLarge ∧
      ∃ n, seconds = some (.whole n) ∧ Double.leastOverflow ≤ n.natAbs := by
  cases seconds with
  | none => simp [timeoutOf]
  | some s =>
    rw [timeoutOf, map_eq_error, Seconds.toFloat_eq_error_iff]
    simp

theorem read_eq_timeoutTooLarge_iff : read table = .error .timeoutTooLarge ↔
    ∃ entries n, table.part "solr" = .ok entries ∧ entries.get? "timeout" = some (.int n) ∧
      Double.leastOverflow ≤ n.natAbs ∧
      (∃ getUrl, entries.string "get_url" "solr.get_url" standard.getUrl = .ok getUrl) ∧
      ∃ postUrl, entries.string "post_url" "solr.post_url" standard.postUrl = .ok postUrl := by
  rw [read_eq]
  constructor
  · intro failed
    rcases bind_eq_error.mp failed with failed | ⟨entries, isPart, failed⟩
    · cases Table.family_of_part failed
    rcases bind_eq_error.mp failed with failed | ⟨seconds, isSeconds, failed⟩
    · cases Table.family_of_seconds failed
    rcases bind_eq_error.mp failed with failed | ⟨getUrl, isGetUrl, failed⟩
    · cases Table.family_of_string failed
    rcases bind_eq_error.mp failed with failed | ⟨postUrl, isPostUrl, failed⟩
    · cases Table.family_of_string failed
    rcases bind_eq_error.mp failed with failed | ⟨timeout, _, failed⟩
    · obtain ⟨_, n, rfl, large⟩ := timeoutOf_eq_error_iff.mp failed
      have given : entries.get? "timeout" = some (.int n) := by
        apply eq_some_of_getD_eq (Table.seconds_eq_ok_iff.mp isSeconds)
        exact Value.noConfusion
      exact ⟨entries, n, isPart, given, large, ⟨getUrl, isGetUrl⟩, postUrl, isPostUrl⟩
    rcases bind_eq_error.mp failed with failed | ⟨userAgent, _, failed⟩
    · cases Table.family_of_string failed
    · cases family_of_check failed
  · rintro ⟨entries, n, isPart, given, large, ⟨getUrl, isGetUrl⟩, postUrl, isPostUrl⟩
    have isSeconds : entries.seconds "timeout" "solr.timeout" standard.timeout =
        .ok (some (.whole n)) := by
      rw [Table.seconds_eq_ok_iff, given]
      rfl
    have isTimeout : timeoutOf (some (.whole n)) = .error .timeoutTooLarge :=
      timeoutOf_eq_error_iff.mpr ⟨rfl, n, rfl, large⟩
    refine bind_eq_error.mpr (.inr ⟨entries, isPart, ?_⟩)
    refine bind_eq_error.mpr (.inr ⟨_, isSeconds, ?_⟩)
    refine bind_eq_error.mpr (.inr ⟨getUrl, isGetUrl, ?_⟩)
    refine bind_eq_error.mpr (.inr ⟨postUrl, isPostUrl, ?_⟩)
    exact bind_eq_error.mpr (.inl isTimeout)

end Endpoint

namespace Settings

/-- The timeout is an integer beyond the doubles, and what is read before it is right. -/
structure IsOversized (table : Table) : Prop where
  log : ∃ log, LogSettings.read table = .ok log
  timeout : ∃ n, table.inPart? "solr" "timeout" = some (.int n) ∧
    Double.leastOverflow ≤ n.natAbs
  urls : ∀ key ∈ ["get_url", "post_url"], ∀ v, table.inPart? "solr" key = some v →
    ∃ s, v.text? = some s

theorem isOversized_iff {table : Table} : IsOversized table ↔
    (∃ log, LogSettings.read table = .ok log) ∧
      Endpoint.read table = .error .timeoutTooLarge := by
  rw [Endpoint.read_eq_timeoutTooLarge_iff]
  constructor
  · rintro ⟨log, ⟨n, given, large⟩, urls⟩
    obtain ⟨entries, isPart, given⟩ := Table.inPart?_eq_some_iff.mp given
    simp only [List.forall_mem_cons, Table.inPart?_of_part isPart] at urls
    exact ⟨log, entries, n, isPart, given, large, Table.exists_string_iff.mpr urls.1,
      Table.exists_string_iff.mpr urls.2.1⟩
  · rintro ⟨log, entries, n, isPart, given, large, getUrl, postUrl⟩
    refine ⟨log, ⟨n, ?_, large⟩, ?_⟩
    · rwa [Table.inPart?_of_part isPart]
    · simp only [List.forall_mem_cons, Table.inPart?_of_part isPart]
      exact ⟨Table.exists_string_iff.mp getUrl, Table.exists_string_iff.mp postUrl,
        fun _ absent => nomatch absent⟩

theorem read_eq_timeoutTooLarge_iff {table : Table} :
    read table = .error .timeoutTooLarge ↔ IsOversized table := by
  rw [isOversized_iff]
  constructor
  · intro failed
    rcases bind_eq_error.mp failed with failed | ⟨log, readLog, failed⟩
    · exact absurd failed (LogSettings.read_ne_timeoutTooLarge table)
    rcases bind_eq_error.mp failed with failed | ⟨solr, _, failed⟩
    · exact ⟨⟨log, readLog⟩, failed⟩
    · cases failed
  · rintro ⟨⟨log, readLog⟩, failed⟩
    exact bind_eq_error.mpr (.inr ⟨log, readLog, bind_eq_error.mpr (.inl failed)⟩)

/-- Settings are read, or their fault is a mismatch or a refusal, exactly if no integer beyond the
doubles is converted. -/
theorem read_fails_regularly_iff (table : Table) :
    (((∃ settings, read table = .ok settings) ∨
      ∃ fault, read table = .error fault ∧
        (fault.family = .mismatch ∨ fault.family = .refusal)) ↔ ¬ IsOversized table) ∧
      (IsOversized table → read table = .error .timeoutTooLarge) := by
  rw [← read_eq_timeoutTooLarge_iff]
  refine ⟨?_, id⟩
  cases read table with
  | ok settings => simp
  | error fault => simp [SettingsError.family_regular_iff]

theorem read_fails_of_largeTimeout :
    read [(.text "solr", .dict [(.text "timeout", .int (10 ^ 309 : Nat))])] =
      .error .timeoutTooLarge := by
  refine read_eq_timeoutTooLarge_iff.mpr ⟨⟨_, rfl⟩, ⟨_, rfl, by decide +kernel⟩, ?_⟩
  intro key isKey v given
  simp only [List.mem_cons, List.not_mem_nil, or_false] at isKey
  rcases isKey with rfl | rfl <;> cases given

end Settings

end SolrRequest
