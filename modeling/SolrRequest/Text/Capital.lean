/-!
# Capital letters

Upper case as far as plain Latin letters are the outcome: a name that is written with such letters
only is recognised in any mixture of cases.
-/

namespace SolrRequest.Text

/-- The upper case form where it consists of the letters A to Z; other characters stay. -/
def capital (c : Char) : List Char :=
  match c with
  | 'ß' => ['S', 'S']
  | 'ı' => ['I']
  | 'ſ' => ['S']
  | 'ﬀ' => ['F', 'F']
  | 'ﬁ' => ['F', 'I']
  | 'ﬂ' => ['F', 'L']
  | 'ﬃ' => ['F', 'F', 'I']
  | 'ﬄ' => ['F', 'F', 'L']
  | 'ﬅ' => ['S', 'T']
  | 'ﬆ' => ['S', 'T']
  | c => [c.toUpper]

def upper (s : String) : String :=
  String.ofList (s.toList.flatMap capital)

/-- Whether two characters agree when case is ignored, for a letter or digit of ASCII `p`. -/
def sameLetter (p c : Char) : Bool :=
  p.toLower == c.toLower ||
    match p.toLower with
    | 'i' => c == 'ı' || c == 'İ'
    | 's' => c == 'ſ'
    | 'k' => c == '\u212a'
    | _ => false

/-- The four letters beyond ASCII that agree with a letter of ASCII. -/
def resemblesLetter (c : Char) : Bool :=
  c == 'ı' || c == 'İ' || c == 'ſ' || c == '\u212a'

end SolrRequest.Text
