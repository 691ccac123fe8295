import SolrRequest.Proofs.Log.Output

/-!
# Lower thresholds

With a lower threshold a logger writes whatever it wrote with the higher one, unless the lower one
is zero. A logger whose level is zero has none of its own, and goes by that of its parent, which
takes warnings: what is below them is lost, though every handler would write it.
-/

namespace SolrRequest.Logger

variable {l other : Logger} {a b : LogOptions} {s t : Int}

/-- What one logger writes on a target, the other one writes on its own. -/
def Covers (l : Logger) (target : LogTarget) (other : Logger) (otherTarget : LogTarget) : Prop :=
  ∀ entries, ∀ e ∈ other.output otherTarget entries, e ∈ l.output target entries

namespace IsSetUp

variable (isSetUp : l.IsSetUp a s) (isSetUpOther : other.IsSetUp b t)
include isSetUp isSetUpOther

theorem mem_output_stream_of_mem (lower : s ≤ t) {entries : List LogEntry} {e : LogEntry}
    (present : e ∈ other.output .stream entries) :
    e ∈ l.output .stream entries ↔ (s = 0 → Severity.warning.level ≤ e.level) := by
  obtain ⟨member, bound⟩ := isSetUpOther.mem_output_stream_iff.mp present
  rw [isSetUp.mem_output_stream_iff, and_iff_right member]
  by_cases zero : s = 0
  · simp [zero]
  · have positive : 0 < t := calc
      0 < lowest := by decide
      _ ≤ s := LogOptions.lowest_le_threshold isSetUp.threshold zero
      _ ≤ t := lower
    rw [if_neg (Int.ne_of_gt positive)] at bound
    simp [zero, Int.le_trans lower bound]

theorem mem_output_file_of_mem (sameFile : a.toFile = b.toFile) {entries : List LogEntry}
    {e : LogEntry} (present : e ∈ other.output (.file b.path) entries) :
    e ∈ l.output (.file a.path) entries ↔ (s = 0 → Severity.warning.level ≤ e.level) := by
  cases wanted : b.toFile with
  | false =>
    rw [isSetUpOther.output_noFile wanted] at present
    cases present
  | true =>
    obtain ⟨member, bound, encodable⟩ := (isSetUpOther.mem_output_file_iff wanted).mp present
    have bounded := isSetUpOther.lowest_le_of_enabled ((isSetUpOther.enabled_iff e).mpr bound)
    rw [isSetUp.mem_output_file_iff (sameFile.trans wanted), and_iff_right member,
      and_iff_left encodable]
    by_cases zero : s = 0
    · simp [zero]
    · simp [zero, bounded]

theorem covers_stream_iff (lower : s ≤ t) : Covers l .stream other .stream ↔
    (s = 0 → t = 0 ∨ Severity.warning.level ≤ t) := by
  constructor
  · intro covers zero
    by_cases zeroOther : t = 0
    · exact .inl zeroOther
    · let e : LogEntry := ⟨t, [], 0⟩
      have present : e ∈ other.output .stream [e] :=
        isSetUpOther.mem_output_stream_iff.mpr ⟨List.mem_singleton_self e, by simp [zeroOther, e]⟩
      exact .inr ((isSetUp.mem_output_stream_of_mem isSetUpOther lower present).mp
        (covers [e] e present) zero)
  · intro raised entries e present
    rw [isSetUp.mem_output_stream_of_mem isSetUpOther lower present]
    intro zero
    have bound := (isSetUpOther.mem_output_stream_iff.mp present).2
    split at bound
    · exact bound
    · next notZero => exact Int.le_trans ((raised zero).resolve_left notZero) bound

theorem covers_file_iff (sameFile : a.toFile = b.toFile) (wanted : b.toFile = true) :
    Covers l (.file a.path) other (.file b.path) ↔ (s = 0 → t = 0) := by
  constructor
  · intro covers zero
    apply Classical.byContradiction
    intro notZero
    let e : LogEntry := ⟨lowest, [], 0⟩
    have present : e ∈ other.output (.file b.path) [e] :=
      (isSetUpOther.mem_output_file_iff wanted).mpr
        ⟨List.mem_singleton_self e, by simp [notZero, e], rfl⟩
    have bound : Severity.warning.level ≤ e.level :=
      (isSetUp.mem_output_file_of_mem isSetUpOther sameFile present).mp (covers [e] e present) zero
    exact absurd bound (by decide)
  · intro zeroBoth entries e present
    rw [isSetUp.mem_output_file_of_mem isSetUpOther sameFile present]
    intro zero
    simpa [zeroBoth zero] using ((isSetUpOther.mem_output_file_iff wanted).mp present).2.1

end IsSetUp

/-- Of what is written with the higher threshold, the lower one loses exactly the entries below a
warning if it is zero, and nothing otherwise. So nothing is lost on the stream unless the lower
threshold is zero and the higher one is another below that of warnings, and nothing in the file
unless the lower threshold is zero and the higher one is not. -/
theorem output_of_lower_threshold (l m : Logger) (resolved : a.threshold = .ok s)
    (resolvedOther : b.threshold = .ok t) (lower : s ≤ t) (sameFile : a.toFile = b.toFile) :
    ∃ first second, l.setUp a = .ok first ∧ m.setUp b = .ok second ∧
      (∀ entries, ∀ e ∈ second.output .stream entries,
        (e ∈ first.output .stream entries ↔ (s = 0 → Severity.warning.level ≤ e.level))) ∧
      (∀ entries, ∀ e ∈ second.output (.file b.path) entries,
        (e ∈ first.output (.file a.path) entries ↔ (s = 0 → Severity.warning.level ≤ e.level))) ∧
      (Covers first .stream second .stream ↔ (s = 0 → t = 0 ∨ Severity.warning.level ≤ t)) ∧
      (b.toFile = true →
        (Covers first (.file a.path) second (.file b.path) ↔ (s = 0 → t = 0))) := by
  obtain ⟨first, isSetUp⟩ := exists_isSetUp resolved
  obtain ⟨second, isSetUpOther⟩ := exists_isSetUp resolvedOther
  exact ⟨first, second, setUp_eq_ok_iff.mpr ⟨s, isSetUp⟩, setUp_eq_ok_iff.mpr ⟨t, isSetUpOther⟩,
    fun _ _ => isSetUp.mem_output_stream_of_mem isSetUpOther lower,
    fun _ _ => isSetUp.mem_output_file_of_mem isSetUpOther sameFile,
    isSetUp.covers_stream_iff isSetUpOther lower,
    isSetUp.covers_file_iff isSetUpOther sameFile⟩

/-- From `ERROR` down to `debug`, with a file: nothing is lost. -/
theorem output_of_lower_threshold_debug :
    let a : LogOptions := { level := "debug", toFile := true, directory := "log" }
    let b : LogOptions := { level := "ERROR", toFile := true, directory := "other" }
    a.threshold = .ok 10 ∧ b.threshold = .ok 40 ∧ (10 : Int) ≤ 40 ∧ a.toFile = b.toFile ∧
      ∃ first second, (⟨0, []⟩ : Logger).setUp a = .ok first ∧
        (⟨0, []⟩ : Logger).setUp b = .ok second ∧
        Covers first .stream second .stream ∧
        Covers first (.file a.path) second (.file b.path) := by
  intro a b
  have resolved : (LogOptions.mk "debug" true "log").threshold = .ok 10 := by rfl
  have resolvedOther : (LogOptions.mk "ERROR" true "other").threshold = .ok 40 := by rfl
  obtain ⟨first, second, setUpFirst, setUpSecond, _, _, stream, file⟩ :=
    output_of_lower_threshold ⟨0, []⟩ ⟨0, []⟩ resolved resolvedOther (by decide) rfl
  exact ⟨resolved, resolvedOther, by decide, rfl, first, second, setUpFirst, setUpSecond,
    stream.mpr (by decide), (file rfl).mpr (by decide)⟩

/-- `NOTSET` is below `DEBUG`, and loses a debug message on the stream and in the file. -/
theorem zero_threshold_loses_debug :
    let a : LogOptions := { level := "NOTSET", toFile := true, directory := "log" }
    let b : LogOptions := { level := "DEBUG", toFile := true, directory := "log" }
    let e : LogEntry := ⟨10, .ofString "x", 0⟩
    let first : Logger := ⟨0, [streamHandler 0, fileHandler a.path]⟩
    let second : Logger := ⟨10, [streamHandler 10, fileHandler b.path]⟩
    a.threshold = .ok 0 ∧ b.threshold = .ok 10 ∧ (0 : Int) ≤ 10 ∧ a.toFile = b.toFile ∧
      (⟨0, []⟩ : Logger).setUp a = .ok first ∧ (⟨0, []⟩ : Logger).setUp b = .ok second ∧
      second.output .stream [e] = [e] ∧ first.output .stream [e] = [] ∧
      second.output (.file b.path) [e] = [e] ∧ first.output (.file a.path) [e] = [] := by
  intro a b e first second
  have resolved : (LogOptions.mk "NOTSET" true "log").threshold = .ok 0 := by rfl
  have resolvedOther : (LogOptions.mk "DEBUG" true "log").threshold = .ok 10 := by rfl
  have isSetUp : first.IsSetUp a 0 := ⟨resolved, rfl, rfl⟩
  have isSetUpOther : second.IsSetUp b 10 := ⟨resolvedOther, rfl, rfl⟩
  refine ⟨resolved, resolvedOther, by decide, rfl, setUp_eq_ok_iff.mpr ⟨0, isSetUp⟩,
    setUp_eq_ok_iff.mpr ⟨10, isSetUpOther⟩, ?_, ?_, ?_, ?_⟩
  · rw [isSetUpOther.output_stream]
    rfl
  · rw [isSetUp.output_stream]
    rfl
  · rw [isSetUpOther.output_file rfl]
    rfl
  · rw [isSetUp.output_file rfl]
    rfl

end SolrRequest.Logger
