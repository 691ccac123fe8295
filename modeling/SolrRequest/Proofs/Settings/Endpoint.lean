import SolrRequest.Proofs.Faults
import SolrRequest.Proofs.Settings.Reading

/-!
# Endpoints from settings

An endpoint that is read from settings has passed the check, which changes nothing about it.
-/

namespace SolrRequest

namespace Endpoint

structure Checked (e : Endpoint) : Prop where
  timeout : isTooShort e.timeout = false
  getUrl : '?' ∉ e.getUrl.toList
  postUrl : '?' ∉ e.postUrl.toList
  userAgent : Text.allBlank e.userAgent = false

theorem hasQuery_eq_false {url : String} : hasQuery url = false ↔ '?' ∉ url.toList := by
  simp [hasQuery]

theorem check_eq_ok {e r : Endpoint} : e.check = .ok r ↔ e = r ∧ Checked e := by
  constructor
  · intro result
    unfold check at result
    split at result
    · cases result
    · next longEnough =>
      split at result
      · cases result
      · next noQuery =>
        split at result
        · cases result
        · next visible =>
          rw [Bool.or_eq_true, not_or, Bool.not_eq_true, Bool.not_eq_true, hasQuery_eq_false,
            hasQuery_eq_false] at noQuery
          exact ⟨Except.ok.inj result, Bool.eq_false_iff.mpr longEnough, noQuery.1, noQuery.2,
            Bool.eq_false_iff.mpr visible⟩
  · rintro ⟨rfl, checked⟩
    rw [check, checked.timeout, hasQuery_eq_false.mpr checked.getUrl,
      hasQuery_eq_false.mpr checked.postUrl, checked.userAgent]
    rfl

theorem standard_timeout : standard.timeout = .float (Double.floatOfInt 30) := rfl

theorem eq_some_of_getD_eq {given? : Option Value} {v : Value}
    (isValue : given?.getD standard.timeout = v) (notStandard : v ≠ standard.timeout) :
    given? = some v := by
  cases given? with
  | none => exact absurd isValue.symm notStandard
  | some w => exact congrArg some isValue

def timeoutOf : Option Seconds → Except SettingsError Value
  | none => .ok .null
  | some s => s.toFloat.map .float

theorem read_eq (settings : Table) : read settings = (do
    let t ← settings.part "solr"
    let seconds ← t.seconds "timeout" "solr.timeout" standard.timeout
    let getUrl ← t.string "get_url" "solr.get_url" standard.getUrl
    let postUrl ← t.string "post_url" "solr.post_url" standard.postUrl
    let timeout ← timeoutOf seconds
    let userAgent ← t.string "user_agent" "solr.user_agent" standard.userAgent
    check { getUrl, postUrl, timeout, userAgent }) := by
  apply bind_congr
  intro t
  apply bind_congr
  intro seconds
  apply bind_congr
  intro getUrl
  apply bind_congr
  intro postUrl
  cases seconds <;> rfl

theorem read_eq_ok_iff {settings : Table} {e : Endpoint} : read settings = .ok e ↔
    ∃ entries seconds, settings.part "solr" = .ok entries ∧
      entries.seconds "timeout" "solr.timeout" standard.timeout = .ok seconds ∧
      entries.string "get_url" "solr.get_url" standard.getUrl = .ok e.getUrl ∧
      entries.string "post_url" "solr.post_url" standard.postUrl = .ok e.postUrl ∧
      timeoutOf seconds = .ok e.timeout ∧
      entries.string "user_agent" "solr.user_agent" standard.userAgent = .ok e.userAgent ∧
      Checked e := by
  simp only [read_eq, bind_eq_ok, check_eq_ok]
  constructor
  · rintro ⟨entries, isPart, seconds, isSeconds, getUrl, isGetUrl, postUrl, isPostUrl, timeout,
      isTimeout, userAgent, isUserAgent, rfl, checked⟩
    exact ⟨entries, seconds, isPart, isSeconds, isGetUrl, isPostUrl, isTimeout, isUserAgent,
      checked⟩
  · rintro ⟨entries, seconds, isPart, isSeconds, isGetUrl, isPostUrl, isTimeout, isUserAgent,
      checked⟩
    exact ⟨entries, isPart, seconds, isSeconds, e.getUrl, isGetUrl, e.postUrl, isPostUrl,
      e.timeout, isTimeout, e.userAgent, isUserAgent, rfl, checked⟩

theorem exists_seconds_of_read {settings : Table} {e : Endpoint} (result : read settings = .ok e) :
    ∃ entries seconds, settings.part "solr" = .ok entries ∧
      entries.seconds "timeout" "solr.timeout" standard.timeout = .ok seconds ∧
      timeoutOf seconds = .ok e.timeout ∧ Checked e := by
  obtain ⟨entries, seconds, isPart, isSeconds, _, _, isTimeout, _, checked⟩ :=
    read_eq_ok_iff.mp result
  exact ⟨entries, seconds, isPart, isSeconds, isTimeout, checked⟩

theorem checked_of_read {settings : Table} {e : Endpoint} (result : read settings = .ok e) :
    Checked e := by
  obtain ⟨_, _, _, _, _, checked⟩ := exists_seconds_of_read result
  exact checked

end Endpoint

namespace Settings

variable {table : Table} {settings : Settings}

theorem read_eq_ok_iff : read table = .ok settings ↔
    LogSettings.read table = .ok settings.log ∧ Endpoint.read table = .ok settings.solr := by
  simp only [read, bind_eq_ok]
  constructor
  · rintro ⟨log, readLog, solr, readSolr, result⟩
    cases result
    exact ⟨readLog, readSolr⟩
  · rintro ⟨readLog, readSolr⟩
    exact ⟨settings.log, readLog, settings.solr, readSolr, rfl⟩

theorem checked_of_read (result : read table = .ok settings) : settings.solr.Checked :=
  Endpoint.checked_of_read (read_eq_ok_iff.mp result).2

end Settings

end SolrRequest
