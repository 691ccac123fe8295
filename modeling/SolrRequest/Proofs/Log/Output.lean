import SolrRequest.Log.Logger
import SolrRequest.Proofs.Faults

/-!
# What a logger writes

However often a logger is set up, it ends with one handler for the stream and one for the file where
that is wanted, both with the same format. So every entry is written once on a target, and the file
has whatever the stream has and UTF-8 can encode.
-/

namespace SolrRequest

/-- A threshold other than zero is that of a debug message or of something weightier. -/
theorem LogOptions.lowest_le_threshold {o : LogOptions} {t : Int} (resolved : o.threshold = .ok t)
    (notZero : t ≠ 0) : Logger.lowest ≤ t := by
  have bounds : ∀ level ∈ levels, level.2 ≠ 0 → Logger.lowest ≤ level.2 := by decide
  unfold threshold at resolved
  split at resolved
  · cases resolved
  · cases resolved
  · rw [← Except.ok.inj resolved] at notZero ⊢
    cases found : levels.lookup (Text.upper o.level) with
    | none => decide
    | some n =>
      rw [found] at notZero
      obtain ⟨before, after, place, _⟩ := List.lookup_eq_some_iff.mp found
      have listed : (Text.upper o.level, n) ∈ levels := by simp [place]
      exact bounds _ listed notZero

namespace Logger

variable {l r : Logger} {o : LogOptions} {t : Int} {target : LogTarget} {h : Handler}

theorem foldl_attach (l : Logger) (hs : List Handler) :
    hs.foldl attach l = { l with handlers := l.handlers ++ hs } := by
  induction hs generalizing l with
  | nil => simp
  | cons h hs inductionHypothesis => simp [inductionHypothesis, attach]

/-- A logger as options with a threshold set it up. -/
structure IsSetUp (l : Logger) (o : LogOptions) (t : Int) : Prop where
  threshold : o.threshold = .ok t
  level : l.level = min lowest t
  handlers : l.handlers = handlersFor o t

theorem setUp_eq_ok_iff : l.setUp o = .ok r ↔ ∃ t, r.IsSetUp o t := by
  rw [setUp, bind_eq_ok]
  apply exists_congr
  intro t
  rw [foldl_attach, clear]
  constructor
  · rintro ⟨resolved, made⟩
    obtain rfl := Except.ok.inj made
    exact ⟨resolved, rfl, rfl⟩
  · rintro ⟨resolved, level, handlers⟩
    refine ⟨resolved, congrArg Except.ok ?_⟩
    rw [List.nil_append, ← level, ← handlers]

theorem exists_isSetUp (resolved : o.threshold = .ok t) : ∃ r : Logger, r.IsSetUp o t :=
  ⟨⟨min lowest t, handlersFor o t⟩, resolved, rfl, rfl⟩

theorem writings_of_single (single : l.handlers.filter (·.target = target) = [h])
    (entries : List LogEntry) : l.writings target entries = (l.written h entries).map (h, ·) := by
  rw [writings, single]
  induction entries with
  | nil => rfl
  | cons e entries inductionHypothesis =>
    rw [List.flatMap_cons, inductionHypothesis, List.flatMap_singleton, written, written, written,
      ← List.map_append, ← List.filter_append, List.singleton_append]

theorem output_of_single (single : l.handlers.filter (·.target = target) = [h])
    (entries : List LogEntry) : l.output target entries = l.written h entries := by
  rw [output, writings_of_single single, List.map_map]
  exact List.map_id _

theorem output_of_none (none : l.handlers.filter (·.target = target) = [])
    (entries : List LogEntry) : l.output target entries = [] := by
  simp [output, writings, none]

end Logger

namespace LogEntry

/-- The line for an entry: its time, its level in brackets, and its message. -/
def line (e : LogEntry) : CodeText :=
  .ofString (stamp e.second ++ " [" ++ label e.level ++ "] ") ++ e.message

end LogEntry

namespace Logger

variable {l r : Logger} {o : LogOptions} {t : Int} {target : LogTarget} {h : Handler}

theorem text_eq_line (format : h.format = lineFormat) : h.text = LogEntry.line := by
  funext e
  simp [Handler.text, format, lineFormat, LogPart.text, LogEntry.line, CodeText.ofString]

theorem isEncodable_line (e : LogEntry) : e.line.isEncodable = e.message.isEncodable := by
  rw [LogEntry.line, CodeText.isEncodable_append, CodeText.isEncodable_ofString, Bool.true_and]

namespace IsSetUp

variable (isSetUp : l.IsSetUp o t)
include isSetUp

theorem single_stream : l.handlers.filter (·.target = .stream) = [streamHandler t] := by
  rw [isSetUp.handlers, handlersFor]
  cases o.toFile <;> simp [streamHandler, fileHandler]

theorem single_file (wanted : o.toFile = true) :
    l.handlers.filter (·.target = .file o.path) = [fileHandler o.path] := by
  rw [isSetUp.handlers, handlersFor, if_pos wanted]
  simp [streamHandler, fileHandler]

theorem output_stream (entries : List LogEntry) :
    l.output .stream entries = entries.filter fun e => l.enabled e && t ≤ e.level := by
  rw [output_of_single isSetUp.single_stream, written]
  apply List.filter_congr
  intro e _
  exact Bool.and_true _

theorem output_file (wanted : o.toFile = true) (entries : List LogEntry) :
    l.output (.file o.path) entries = entries.filter fun e =>
      l.enabled e && lowest ≤ e.level && e.message.isEncodable := by
  rw [output_of_single (isSetUp.single_file wanted), written]
  apply List.filter_congr
  intro e _
  rw [← isEncodable_line, ← text_eq_line (h := fileHandler o.path) rfl]
  rfl

theorem output_noFile (unwanted : o.toFile = false) (path : String) (entries : List LogEntry) :
    l.output (.file path) entries = [] := by
  apply output_of_none
  simp [isSetUp.handlers, handlersFor, unwanted, streamHandler]

/-- The least level that gets through is that of the parent if the logger has none of its own. -/
theorem enabled_iff (e : LogEntry) :
    l.enabled e = true ↔ (if t = 0 then Severity.warning.level else lowest) ≤ e.level := by
  have effective : l.effectiveLevel = if t = 0 then Severity.warning.level else lowest := by
    rw [effectiveLevel, isSetUp.level]
    by_cases zero : t = 0
    · rw [zero]
      rfl
    · rw [Int.min_eq_left (LogOptions.lowest_le_threshold isSetUp.threshold zero), if_neg zero]
      rfl
  rw [enabled, effective, decide_eq_true_iff]

theorem lowest_le_of_enabled {e : LogEntry} (passes : l.enabled e = true) : lowest ≤ e.level := by
  have bound := (isSetUp.enabled_iff e).mp passes
  split at bound
  · exact Int.le_trans (by decide) bound
  · exact bound

theorem mem_output_stream_iff {entries : List LogEntry} {e : LogEntry} :
    e ∈ l.output .stream entries ↔
      e ∈ entries ∧ (if t = 0 then Severity.warning.level else t) ≤ e.level := by
  rw [isSetUp.output_stream, List.mem_filter, Bool.and_eq_true, isSetUp.enabled_iff,
    decide_eq_true_iff]
  apply and_congr_right
  intro _
  by_cases zero : t = 0
  · simp only [zero, if_true]
    exact and_iff_left_of_imp (Int.le_trans (by decide))
  · simp only [zero, if_false]
    exact and_iff_right_of_imp
      (Int.le_trans (LogOptions.lowest_le_threshold isSetUp.threshold zero))

theorem mem_output_file_iff (wanted : o.toFile = true) {entries : List LogEntry} {e : LogEntry} :
    e ∈ l.output (.file o.path) entries ↔ e ∈ entries ∧
      (if t = 0 then Severity.warning.level else lowest) ≤ e.level ∧
      e.message.isEncodable = true := by
  rw [isSetUp.output_file wanted, List.mem_filter, Bool.and_eq_true, Bool.and_eq_true,
    decide_eq_true_iff, and_iff_left_of_imp isSetUp.lowest_le_of_enabled, isSetUp.enabled_iff]

end IsSetUp

end Logger

end SolrRequest
