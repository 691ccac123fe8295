import SolrRequest.Proofs.Number.Digits
import SolrRequest.Proofs.Text.Blank

/-!
# Spellings of an integer

A text spells an integer if it has its digits in groups that are joined by low lines, behind a sign
or none, with blanks around. Exactly the texts that spell an integer are read, as that integer; so
no text spells two. The text in which an integer is written is its usual decimal text.
-/

namespace SolrRequest.Integer

open Text

/-- Groups of decimal digits of any script. -/
structure IsGroups (groups : List (List Char)) : Prop where
  nonempty : groups ≠ []
  digits : ∀ g ∈ groups, g ≠ [] ∧ ∀ c ∈ g, isDigit c = true

def groupDigits (groups : List (List Char)) : List Nat :=
  groups.flatten.filterMap digit?

/-- A text with groups of digits, no more than the limit, behind a sign and between blanks. -/
structure IsSpelling (s : String) (before sign after : List Char) (groups : List (List Char)) :
    Prop where
  text : s.toList = before ++ (sign ++ ['_'].intercalate groups) ++ after
  blanks : ∀ c ∈ before ++ after, isBlank c = true
  sign : sign ∈ [[], ['+'], ['-']]
  isGroups : IsGroups groups
  short : groups.flatten.length ≤ digitLimit

def Spells (s : String) (n : Int) : Prop :=
  ∃ before sign after groups, IsSpelling s before sign after groups ∧
    n = (if sign = ['-'] then -1 else 1) * (Nat.ofDigits 10 (groupDigits groups).reverse : Nat)

/-! ## Groups of digits -/

theorem digit_ne {c : Char} (digit : isDigit c = true) : c ≠ '_' ∧ c ≠ '-' ∧ c ≠ '+' := by
  have others : isDigit '_' = false ∧ isDigit '-' = false ∧ isDigit '+' = false := by decide
  refine ⟨?_, ?_, ?_⟩ <;>
    rintro rfl <;> simp [others] at digit

theorem digitRun?_lowLine {c : Char} {d : Nat} (digit : digit? c = some d) (s : List Char) :
    digitRun? (c :: '_' :: s) = (digitRun? s).map (d :: ·) := by
  rw [digitRun?, digit]
  cases digitRun? s <;> rfl

theorem digitRun?_cons {c e : Char} {d : Nat} (digit : digit? c = some d) (noLowLine : e ≠ '_')
    (s : List Char) : digitRun? (c :: e :: s) = (digitRun? (e :: s)).map (d :: ·) := by
  rw [digitRun?, digit]
  · cases digitRun? (e :: s) <;> rfl
  · exact List.cons_ne_nil e s
  · rintro r same
    exact noLowLine (List.head_eq_of_cons_eq same)

/-- A group is read up to its end, and behind a low line reading goes on. -/
theorem digitRun?_append {g : List Char} (nonempty : g ≠ []) (digits : ∀ c ∈ g, isDigit c = true)
    (s : List Char) :
    digitRun? (g ++ '_' :: s) = (digitRun? s).map (g.filterMap digit? ++ ·) := by
  induction g with
  | nil => exact absurd rfl nonempty
  | cons c g inductionHypothesis =>
    obtain ⟨digit, digitsRest⟩ := List.forall_mem_cons.mp digits
    obtain ⟨d, value⟩ := Option.isSome_iff_exists.mp digit
    rw [List.filterMap_cons_some value]
    cases g with
    | nil => exact digitRun?_lowLine value s
    | cons e g =>
      have noLowLine := (digit_ne (digitsRest e List.mem_cons_self)).1
      have rest := inductionHypothesis (List.cons_ne_nil e g) digitsRest
      rw [List.cons_append] at rest
      rw [List.cons_append, List.cons_append, digitRun?_cons value noLowLine, rest,
        Option.map_map]
      rfl

theorem digitRun?_of_isDigit {g : List Char} (nonempty : g ≠ [])
    (digits : ∀ c ∈ g, isDigit c = true) : digitRun? g = some (g.filterMap digit?) := by
  induction g with
  | nil => exact absurd rfl nonempty
  | cons c g inductionHypothesis =>
    obtain ⟨digit, digitsRest⟩ := List.forall_mem_cons.mp digits
    obtain ⟨d, value⟩ := Option.isSome_iff_exists.mp digit
    rw [List.filterMap_cons_some value]
    cases g with
    | nil => rw [digitRun?, value, List.filterMap_nil, Option.map_some]
    | cons e g =>
      have noLowLine := (digit_ne (digitsRest e List.mem_cons_self)).1
      rw [digitRun?_cons value noLowLine,
        inductionHypothesis (List.cons_ne_nil e g) digitsRest, Option.map_some]

theorem groupDigits_cons (g : List Char) (groups : List (List Char)) :
    groupDigits (g :: groups) = g.filterMap digit? ++ groupDigits groups := by
  rw [groupDigits, List.flatten_cons, List.filterMap_append, groupDigits]

theorem digitRun?_intercalate {groups : List (List Char)} (isGroups : IsGroups groups) :
    digitRun? (['_'].intercalate groups) = some (groupDigits groups) := by
  obtain ⟨nonempty, digits⟩ := isGroups
  induction groups with
  | nil => exact absurd rfl nonempty
  | cons g groups inductionHypothesis =>
    obtain ⟨⟨filled, digitsFirst⟩, digitsRest⟩ := List.forall_mem_cons.mp digits
    cases groups with
    | nil =>
      rw [List.intercalate_singleton, digitRun?_of_isDigit filled digitsFirst, groupDigits,
        List.flatten_singleton]
    | cons h groups =>
      rw [List.intercalate_cons_cons, List.append_assoc, List.singleton_append,
        digitRun?_append filled digitsFirst,
        inductionHypothesis (List.cons_ne_nil h groups) digitsRest, Option.map_some,
        ← groupDigits_cons]

theorem IsGroups.singleton {c : Char} (digit : isDigit c = true) : IsGroups [[c]] :=
  ⟨List.cons_ne_nil _ _, by simpa using digit⟩

theorem IsGroups.cons {c : Char} (digit : isDigit c = true) {groups : List (List Char)}
    (isGroups : IsGroups groups) : IsGroups ([c] :: groups) := by
  refine ⟨List.cons_ne_nil _ _, List.forall_mem_cons.mpr ⟨?_, isGroups.digits⟩⟩
  exact ⟨List.cons_ne_nil c [], List.forall_mem_singleton.mpr digit⟩

/-- A digit in front belongs to the first group. -/
theorem IsGroups.exists_cons {c : Char} (digit : isDigit c = true) {groups : List (List Char)}
    (isGroups : IsGroups groups) : ∃ larger, IsGroups larger ∧
      c :: ['_'].intercalate groups = ['_'].intercalate larger ∧
      larger.flatten = c :: groups.flatten := by
  obtain ⟨nonempty, digits⟩ := isGroups
  obtain ⟨g, groups, rfl⟩ := List.exists_cons_of_ne_nil nonempty
  obtain ⟨⟨filled, digitsFirst⟩, digitsRest⟩ := List.forall_mem_cons.mp digits
  refine ⟨(c :: g) :: groups, ⟨List.cons_ne_nil _ _, ?_⟩, ?_, rfl⟩
  · exact List.forall_mem_cons.mpr
      ⟨⟨List.cons_ne_nil c g, List.forall_mem_cons.mpr ⟨digit, digitsFirst⟩⟩, digitsRest⟩
  · cases groups with
    | nil => rw [List.intercalate_singleton, List.intercalate_singleton]
    | cons h groups =>
      rw [List.intercalate_cons_cons, List.intercalate_cons_cons]
      rfl

theorem exists_groups_of_digitRun? {s : List Char} {ds : List Nat} (run : digitRun? s = some ds) :
    ∃ groups, IsGroups groups ∧ s = ['_'].intercalate groups ∧ ds = groupDigits groups := by
  have isDigit_of {c : Char} {d : Nat} (value : digit? c = some d) : isDigit c = true := by
    rw [isDigit, value]
    rfl
  fun_induction digitRun? s generalizing ds with
  | case1 => cases run
  | case2 c =>
    obtain ⟨d, value, rfl⟩ := Option.map_eq_some_iff.mp run
    refine ⟨[[c]], .singleton (isDigit_of value), rfl, ?_⟩
    simp [groupDigits, value]
  | case3 c r inductionHypothesis =>
    simp only [Option.bind_eq_bind, Option.bind_eq_some_iff, Option.pure_def,
      Option.some.injEq] at run
    obtain ⟨d, value, rest, restRun, rfl⟩ := run
    obtain ⟨groups, isGroups, rfl, rfl⟩ := inductionHypothesis restRun
    refine ⟨[c] :: groups, isGroups.cons (isDigit_of value), ?_, ?_⟩
    · obtain ⟨g, groups, rfl⟩ := List.exists_cons_of_ne_nil isGroups.nonempty
      rw [List.intercalate_cons_cons]
      rfl
    · simp [groupDigits_cons, value]
  | case4 c r _ _ inductionHypothesis =>
    simp only [Option.bind_eq_bind, Option.bind_eq_some_iff, Option.pure_def,
      Option.some.injEq] at run
    obtain ⟨d, value, rest, restRun, rfl⟩ := run
    obtain ⟨groups, isGroups, rfl, rfl⟩ := inductionHypothesis restRun
    obtain ⟨larger, isLarger, joined, flat⟩ := isGroups.exists_cons (isDigit_of value)
    refine ⟨larger, isLarger, joined, ?_⟩
    rw [groupDigits, groupDigits, flat, List.filterMap_cons_some value]

theorem IsGroups.length_groupDigits {groups : List (List Char)} (isGroups : IsGroups groups) :
    (groupDigits groups).length = groups.flatten.length := by
  rw [groupDigits, List.filterMap_length_eq_length]
  intro c member
  obtain ⟨g, isGroup, inGroup⟩ := List.mem_flatten.mp member
  exact (isGroups.digits g isGroup).2 c inGroup

theorem IsGroups.exists_intercalate {groups : List (List Char)} (isGroups : IsGroups groups) :
    ∃ c s, ['_'].intercalate groups = c :: s ∧ isDigit c = true := by
  obtain ⟨nonempty, digits⟩ := isGroups
  obtain ⟨g, groups, rfl⟩ := List.exists_cons_of_ne_nil nonempty
  obtain ⟨⟨filled, digitsFirst⟩, _⟩ := List.forall_mem_cons.mp digits
  obtain ⟨c, g, rfl⟩ := List.exists_cons_of_ne_nil filled
  have digit := digitsFirst c List.mem_cons_self
  cases groups with
  | nil => exact ⟨c, g, List.intercalate_singleton, digit⟩
  | cons h groups =>
    rw [List.intercalate_cons_cons]
    exact ⟨c, _, rfl, digit⟩

theorem IsGroups.visible {groups : List (List Char)} (isGroups : IsGroups groups) :
    ∀ c ∈ ['_'].intercalate groups, isBlank c = false := by
  obtain ⟨_, digits⟩ := isGroups
  induction groups with
  | nil => exact List.forall_mem_nil _
  | cons g groups inductionHypothesis =>
    obtain ⟨⟨_, digitsFirst⟩, digitsRest⟩ := List.forall_mem_cons.mp digits
    have first : ∀ c ∈ g, isBlank c = false := by
      intro c member
      obtain ⟨d, value⟩ := Option.isSome_iff_exists.mp (digitsFirst c member)
      exact isBlank_eq_false_of_digit? value
    cases groups with
    | nil => rwa [List.intercalate_singleton]
    | cons h groups =>
      rw [List.intercalate_cons_cons, List.forall_mem_append, List.forall_mem_append]
      exact ⟨⟨first, List.forall_mem_singleton.mpr (by decide)⟩,
        inductionHypothesis (List.cons_ne_nil h groups) digitsRest⟩

/-! ## Signs -/

theorem splitSign_append {sign : List Char} (isSign : sign ∈ [[], ['+'], ['-']]) {c : Char}
    (digit : isDigit c = true) (s : List Char) :
    splitSign (sign ++ c :: s) = (decide (sign = ['-']), c :: s) := by
  obtain ⟨_, noMinus, noPlus⟩ := digit_ne digit
  simp only [List.mem_cons, List.not_mem_nil, or_false] at isSign
  rcases isSign with rfl | rfl | rfl
  · simp [splitSign, noMinus, noPlus]
  · rfl
  · rfl

theorem exists_sign (s : List Char) : ∃ sign ∈ [[], ['+'], ['-']],
    s = sign ++ (splitSign s).2 ∧ (splitSign s).1 = decide (sign = ['-']) := by
  unfold splitSign
  split
  · exact ⟨['-'], by decide, rfl, rfl⟩
  · exact ⟨['+'], by decide, rfl, rfl⟩
  · exact ⟨[], by decide, rfl, rfl⟩

theorem signed_decide (p : Prop) [Decidable p] (n : Nat) :
    signed (decide p) n = (if p then -1 else 1) * (n : Int) := by
  by_cases holds : p <;> simp [signed, holds]

/-! ## Reading -/

theorem read?_eq_some_iff_digitRun? {s : String} {n : Int} : read? s = some n ↔
    ∃ ds, digitRun? (splitSign (trim s.toList)).2 = some ds ∧ ds.length ≤ digitLimit ∧
      n = signed (splitSign (trim s.toList)).1 (ofDigits 10 ds) := by
  rw [read?, read]
  dsimp only
  cases run : digitRun? (splitSign (trim s.toList)).2 with
  | none => simp [Except.toOption]
  | some ds =>
    by_cases short : ds.length ≤ digitLimit
    · simp [Nat.not_lt.mpr short, short, Except.toOption, eq_comm]
    · simp [Nat.lt_of_not_le short, Except.toOption]

/-- What is cut from a text does not matter. -/
theorem read?_congr {s t : String} (sameTrim : trim s.toList = trim t.toList) :
    read? s = read? t := by
  apply Option.ext
  intro n
  rw [read?_eq_some_iff_digitRun?, read?_eq_some_iff_digitRun?, sameTrim]

theorem spells_of_read? {s : String} {n : Int} (result : read? s = some n) : Spells s n := by
  obtain ⟨ds, run, short, rfl⟩ := read?_eq_some_iff_digitRun?.mp result
  obtain ⟨groups, isGroups, body, rfl⟩ := exists_groups_of_digitRun? run
  obtain ⟨sign, isSign, split, negative⟩ := exists_sign (trim s.toList)
  obtain ⟨before, after, text, blanks⟩ := exists_eq_append_trim s.toList
  rw [isGroups.length_groupDigits] at short
  refine ⟨before, sign, after, groups, ⟨?_, blanks, isSign, isGroups, short⟩, ?_⟩
  · rw [← body, ← split]
    exact text
  · rw [negative, signed_decide, ofDigits_eq_reverse]

theorem read?_of_spells {s : String} {n : Int} (spells : Spells s n) : read? s = some n := by
  obtain ⟨before, sign, after, groups, ⟨text, blanks, isSign, isGroups, short⟩, rfl⟩ := spells
  obtain ⟨c, rest, body, digit⟩ := isGroups.exists_intercalate
  have visible : ∀ e ∈ sign ++ ['_'].intercalate groups, isBlank e = false := by
    rw [List.forall_mem_append]
    refine ⟨?_, isGroups.visible⟩
    simp only [List.mem_cons, List.not_mem_nil, or_false] at isSign
    rcases isSign with rfl | rfl | rfl
    · exact List.forall_mem_nil _
    · exact List.forall_mem_singleton.mpr (by decide)
    · exact List.forall_mem_singleton.mpr (by decide)
  have trimmed : IsTrimmed (sign ++ ['_'].intercalate groups) := by
    apply isTrimmed_of_forall _ visible
    rw [body]
    exact List.append_ne_nil_of_right_ne_nil sign (List.cons_ne_nil c rest)
  have split : splitSign (trim s.toList) = (decide (sign = ['-']), ['_'].intercalate groups) := by
    rw [text, trimmed.trim_append blanks, body]
    exact splitSign_append isSign digit rest
  rw [read?_eq_some_iff_digitRun?, split]
  refine ⟨groupDigits groups, digitRun?_intercalate isGroups, ?_, ?_⟩
  · rwa [isGroups.length_groupDigits]
  · rw [signed_decide, ofDigits_eq_reverse]

theorem read?_eq_some_iff {s : String} {n : Int} : read? s = some n ↔ Spells s n :=
  ⟨spells_of_read?, read?_of_spells⟩

end SolrRequest.Integer
