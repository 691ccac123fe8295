/-!
# Texts of code points

The text of a caller is a sequence of code points. Surrogates may stand alone in it; they are no
characters, and UTF-8 has no octets for them.
-/

namespace SolrRequest

structure CodePoint where
  number : Nat
  number_lt : number < 0x110000
deriving DecidableEq

namespace CodePoint

theorem toNat_lt (c : Char) : c.toNat < 0x110000 := by
  rcases c.valid with low | high
  · exact Nat.lt_trans low (by decide)
  · exact high.2

def ofChar (c : Char) : CodePoint :=
  ⟨c.toNat, toNat_lt c⟩

def isSurrogate (p : CodePoint) : Bool :=
  0xD800 ≤ p.number && p.number ≤ 0xDFFF

theorem isSurrogate_ofChar (c : Char) : (ofChar c).isSurrogate = false := by
  rw [isSurrogate, Bool.and_eq_false_iff]
  rcases c.valid with low | high
  · exact .inl (decide_eq_false (Nat.not_le.mpr low))
  · exact .inr (decide_eq_false (Nat.not_le.mpr high.1))

end CodePoint

abbrev CodeText := List CodePoint

namespace CodeText

def ofString (s : String) : CodeText :=
  s.toList.map .ofChar

/-- Whether there are octets for the text. -/
def isEncodable (t : CodeText) : Bool :=
  t.all (!·.isSurrogate)

theorem isEncodable_ofString (s : String) : (ofString s).isEncodable = true := by
  simp [isEncodable, ofString, CodePoint.isSurrogate_ofChar]

theorem isEncodable_append (t u : CodeText) :
    isEncodable (t ++ u) = (t.isEncodable && u.isEncodable) :=
  List.all_append

end CodeText

end SolrRequest
