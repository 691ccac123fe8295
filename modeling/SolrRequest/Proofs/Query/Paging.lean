import SolrRequest.Proofs.Call.Number
import SolrRequest.Proofs.Query.Step

/-!
# The numbers of a page

Where a page starts and how long it is are told by numbers of any kind. Either call takes exactly
the values that denote an integer. A body stores the integer, and a parameter has its usual text,
which denotes the same integer again.
-/

namespace SolrRequest

inductive Page
  | start
  | limit

namespace Page

def call : Page → Value → Call
  | start => .start
  | limit => .limit

def key : Page → String
  | start => "start"
  | limit => "rows"

def store : Page → Int → Body → Body
  | start, n, body => { body with start := some n }
  | limit, n, body => { body with limit := some n }

end Page

namespace Query

variable {q : Query} {v : Value} {n : Int} {body : Body} {params : Params}

theorem call_page_of_not_isInteger (page : Page) (refused : v.isInteger = false) (q : Query) :
    q.call (page.call v) = .ok (q.reject (page.call v)) := by
  cases page <;> exact q.call_eq_reject refused

theorem call_page_eq (page : Page) (denotes : v.Denotes n) (q : Query) :
    q.call (page.call v) = q.recordNumber page.key n (page.store n) := by
  have value := Value.integer?_eq_some_iff.mpr denotes
  cases page with
  | start =>
    rw [Page.call, call, Call.edit?, value]
    rfl
  | limit =>
    rw [Page.call, call, Call.edit?, value]
    rfl

theorem call_page_of_post (page : Page) (denotes : v.Denotes n) (post : q.request = .post body) :
    q.call (page.call v) = .ok { q with request := .post (page.store n body) } := by
  rw [call_page_eq page denotes, recordNumber, post]

theorem call_page_of_get (page : Page) (denotes : v.Denotes n) (writable : Integer.Writable n)
    (get : q.request = .get params) : q.call (page.call v) =
      .ok { q with request := .get ⟨params.pairs ++ [(page.key, toString n)]⟩ } := by
  rw [call_page_eq page denotes, recordNumber, get, Integer.write_of_writable writable,
    Integer.decimal_eq_toString]
  rfl

/-- A call with a number takes exactly the values that denote an integer, which are those that pass
the check, and records any other. In a body it stores the integer. As a parameter it adds the usual
text of the integer, unless that is an integer with more digits than can be written; and this text,
with blanks around it, denotes the integer and has it stored again. -/
theorem call_normalises_number (page : Page) (v : Value) :
    (v.isInteger = true ↔ ∃ n, v.Denotes n) ∧
    (v.isInteger = false →
      ∀ q : Query, q.call (page.call v) = .ok (q.reject (page.call v))) ∧
    ∀ n, v.Denotes n →
      (∀ (q : Query) (body : Body), q.request = .post body →
        q.call (page.call v) = .ok { q with request := .post (page.store n body) }) ∧
      (v.NumberWritable →
        (∀ (q : Query) (params : Params), q.request = .get params → q.call (page.call v) =
          .ok { q with request := .get ⟨params.pairs ++ [(page.key, toString n)]⟩ }) ∧
        ∀ before after : String, Text.allBlank before = true → Text.allBlank after = true →
          (Value.text (before ++ toString n ++ after)).Denotes n ∧
          ∀ (q : Query) (body : Body), q.request = .post body →
            q.call (page.call (.text (before ++ toString n ++ after))) =
              .ok { q with request := .post (page.store n body) }) := by
  refine ⟨Value.isInteger_iff_exists_denotes, call_page_of_not_isInteger page, ?_⟩
  intro n denotes
  refine ⟨fun q body => call_page_of_post page denotes, ?_⟩
  intro short
  have writable : Integer.Writable n :=
    Value.writable_of_integer? (Value.integer?_eq_some_iff.mpr denotes) short
  refine ⟨fun q params => call_page_of_get page denotes writable, ?_⟩
  intro before after blankBefore blankAfter
  have again := Value.denotes_between_blanks writable blankBefore blankAfter
  exact ⟨again, fun q body => call_page_of_post page again⟩

/-- Digits of three scripts with a low line between two of them, and a text with two low lines. -/
theorem call_normalises_number_ofText :
    let q := new none .standard
    let v := Value.text "\u3000+１_٠0 "
    let broken := Value.text "1__0"
    v.Denotes 100 ∧ v.NumberWritable ∧
      q.call (.limit v) = .ok { q with request := .get ⟨[("rows", "100")]⟩ } ∧
      (Value.text "\n100").Denotes 100 ∧
      broken.isInteger = false ∧ q.call (.start broken) = .ok (q.reject (.start broken)) := by
  intro q v broken
  have denotes : v.Denotes 100 := Value.integer?_eq_some_iff.mp (by decide +kernel)
  have refused : broken.isInteger = false := by decide +kernel
  obtain ⟨_, _, normalised⟩ := call_normalises_number .limit v
  obtain ⟨added, again⟩ := (normalised 100 denotes).2 trivial
  refine ⟨denotes, trivial, added q .empty rfl, ?_, refused, ?_⟩
  · exact (again "\n" "" (by decide) (by decide)).1
  · exact (call_normalises_number .start broken).2.1 refused q

end Query

end SolrRequest
