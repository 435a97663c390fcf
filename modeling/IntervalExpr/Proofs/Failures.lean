import IntervalExpr.Proofs.Denotation

/-!
# The kinds of failure

Five kinds of failure are announced to callers. One more happens: a number of too many digits is not
converted at all, whatever its value, and that is none of the five.

* `Failure`, `ParseError.failure?`: the announced kinds, and the kind of an error.
* `Shape.obstacle?`: the first literal of a shape that is not read as a number.
* `Shape.fails_of_obstacle?`, `Shape.obstacle?_of_fails`: that literal decides the error, and
  without one only the order of a range does.
* `Overlong`: the texts in which the first such literal has too many digits.
* `Expression.failure_exact`: exactly these are refused with an error of no announced kind.
-/

namespace IntervalExpr

/-- The kinds of failure that are announced to callers. -/
inductive Failure where
  | invalidOptions
  | emptyExpressionNotAllowed
  | malformedToken
  | invalidRange
  | numericOverflow
  deriving DecidableEq

/-- The announced kind of an error, if it has one. -/
def ParseError.failure? : ParseError → Option Failure
  | .emptyDelimiter _ => some .invalidOptions
  | .emptyExpression _ => some .emptyExpressionNotAllowed
  | .malformed .. => some .malformedToken
  | .reversedRange .. => some .invalidRange
  | .outOfRange .. => some .numericOverflow
  | .tooManyDigits _ => none
  | .tooLong => none

theorem Item.failure?_rejection (text : String) (x : Item) :
    (x.rejection text).failure? = some .malformedToken := by
  cases x <;> rfl

/-! ## The literal that decides -/

/-- The value of a literal is above the greatest one. -/
def Exceeds (digits : List Char) : Prop := 2 ^ 63 - 1 < Nat.ofDigitChars 10 digits 0

instance (digits : List Char) : Decidable (Exceeds digits) := inferInstanceAs (Decidable (_ < _))

/-- A literal is not read as a number, for its length or for its value. -/
def Unread (digits : List Char) : Prop := 4300 < digits.length ∨ Exceeds digits

instance (digits : List Char) : Decidable (Unread digits) := inferInstanceAs (Decidable (_ ∨ _))

theorem Unreadable.unread {text : String} {digits : List Char} {error : ParseError}
    (h : Unreadable text digits error) : Unread digits := by
  cases h with
  | tooManyDigits hlength => exact .inl hlength
  | outOfRange hlength hlt => exact .inr hlt

theorem Denotes.not_unread {digits : List Char} {n : Nat} (h : Denotes digits n) :
    ¬ Unread digits := by
  obtain ⟨hlength, rfl, hle⟩ := h
  unfold Unread Exceeds
  omega

theorem exists_denotes {digits : List Char} (h : ¬ Unread digits) : ∃ n, Denotes digits n := by
  unfold Unread Exceeds at h
  exact ⟨_, by omega, rfl, by omega⟩

namespace Shape

/-- The literals of a shape, from left to right. -/
def literals : Shape → List (List Char)
  | .star => []
  | .number digits => [digits]
  | .opened digits => [digits]
  | .range firstDigits lastDigits => [firstDigits, lastDigits]

theorem mem_literals_iff {shape : Shape} {digits : List Char} :
    digits ∈ shape.literals ↔ .integer digits ∈ shape.symbols := by
  cases shape <;> simp [literals, symbols]

/-- The first literal of a shape that is not read as a number. -/
def obstacle? (shape : Shape) : Option (List Char) :=
  shape.literals.find? (Unread ·)

variable {text : String} {shape : Shape} {digits : List Char} {error : ParseError}

/-- The first literal that is not read decides the error. -/
theorem fails_of_obstacle? (h : shape.obstacle? = some digits)
    (hu : Unreadable text digits error) : shape.Fails text error := by
  have hmem : digits ∈ shape.literals := List.mem_of_find?_eq_some h
  cases shape with
  | star => exact nomatch hmem
  | number literal =>
    obtain rfl := List.mem_singleton.mp hmem
    exact .number hu
  | opened literal =>
    obtain rfl := List.mem_singleton.mp hmem
    exact .opened hu
  | range firstDigits lastDigits =>
    by_cases hfirst : Unread firstDigits
    · rw [obstacle?, literals, List.find?_cons_of_pos (by simpa using hfirst)] at h
      cases h
      exact .first hu
    · obtain ⟨first, hd⟩ := exists_denotes hfirst
      rw [obstacle?, literals, List.find?_cons_of_neg (by simpa using hfirst)] at h
      obtain rfl := List.mem_singleton.mp (List.mem_of_find?_eq_some h)
      exact .last hd hu

/-- A shape fails with the error of the first literal that is not read, and without one only for
the order of its numbers. -/
theorem obstacle?_of_fails (h : shape.Fails text error) :
    (∃ digits, shape.obstacle? = some digits ∧ Unreadable text digits error) ∨
    (shape.obstacle? = none ∧ ∃ first last, error = .reversedRange text first last) := by
  cases h with
  | number hu => exact .inl ⟨_, List.find?_cons_of_pos (by simpa using hu.unread), hu⟩
  | opened hu => exact .inl ⟨_, List.find?_cons_of_pos (by simpa using hu.unread), hu⟩
  | first hu => exact .inl ⟨_, List.find?_cons_of_pos (by simpa using hu.unread), hu⟩
  | last hd hu =>
    refine .inl ⟨_, ?_, hu⟩
    rw [obstacle?, literals, List.find?_cons_of_neg (by simpa using hd.not_unread)]
    exact List.find?_cons_of_pos (by simpa using hu.unread)
  | order hd hd' hlt =>
    refine .inr ⟨?_, _, _, rfl⟩
    rw [obstacle?, literals, List.find?_eq_none]
    simpa using ⟨hd.not_unread, hd'.not_unread⟩

end Shape

/-! ## Failures without a kind -/

/-- The longest beginning of a text is a shape that is converted, and the first literal of it that
is not read has too many digits. A range is converted whatever follows it, any other shape only at
the end of the text. -/
def Overlong (text : String) : Prop :=
  ∃ items shape next?, Itemized 0 text.toList items ∧ LongestBeginning items (some shape) next? ∧
    (next? = none ∨ ∃ firstDigits lastDigits, shape = .range firstDigits lastDigits) ∧
    ∃ digits, shape.obstacle? = some digits ∧ 4300 < digits.length

section

variable {text : String} {error : ParseError}

/-- A text is refused for an item after its beginning, or for what its beginning comes to. -/
theorem Rejects.fails_of_failure? {shape? : Option Shape} {next? : Option Item}
    (h : Rejects text shape? next? error) (hkind : error.failure? = none) :
    ∃ shape, shape? = some shape ∧ shape.Fails text error ∧
      (next? = none ∨ ∃ firstDigits lastDigits, shape = .range firstDigits lastDigits) := by
  cases h with
  | range hf => exact ⟨_, rfl, hf, .inr ⟨_, _, rfl⟩⟩
  | afterRange hm =>
    rw [Item.failure?_rejection] at hkind
    cases hkind
  | next hnot =>
    rw [Item.failure?_rejection] at hkind
    cases hkind
  | nothing => cases hkind
  | number hu => exact ⟨_, rfl, .number hu, .inl rfl⟩
  | opened hu => exact ⟨_, rfl, .opened hu, .inl rfl⟩

theorem overlong_of_failure? (h : parseSubexpression text = .error error)
    (hkind : error.failure? = none) : Overlong text := by
  obtain ⟨items, shape?, next?, hi, hl, hj⟩ := parseSubexpression_eq_iff.mp h
  obtain ⟨shape, rfl, hf, hnext⟩ := (judge_eq_error_iff.mp hj).fails_of_failure? hkind
  refine ⟨items, shape, next?, hi, hl, hnext, ?_⟩
  obtain ⟨digits, ho, hu⟩ | ⟨-, first, last, rfl⟩ := Shape.obstacle?_of_fails hf
  · cases hu with
    | tooManyDigits hlength => exact ⟨digits, ho, hlength⟩
    | outOfRange hlength hlt => cases hkind
  · cases hkind

theorem Overlong.exists_error (h : Overlong text) :
    ∃ error, parseSubexpression text = .error error ∧ error.failure? = none := by
  obtain ⟨items, shape, next?, hi, hl, hnext, digits, ho, hlength⟩ := h
  have hf : shape.Fails text (.tooManyDigits digits.length) :=
    Shape.fails_of_obstacle? ho (.tooManyDigits hlength)
  refine ⟨.tooManyDigits digits.length, ?_, rfl⟩
  refine parseSubexpression_eq_iff.mpr ⟨items, some shape, next?, hi, hl, ?_⟩
  rw [judge_eq_error_iff]
  obtain rfl | ⟨firstDigits, lastDigits, rfl⟩ := hnext
  · cases hf with
    | number hu => exact .number hu
    | opened hu => exact .opened hu
    | first hu => exact .range (.first hu)
    | last hd hu => exact .range (.last hd hu)
  · exact .range hf

/-- A subexpression is refused without an announced kind exactly if it is overlong. -/
theorem overlong_iff :
    Overlong text ↔ ∃ error, parseSubexpression text = .error error ∧ error.failure? = none := by
  refine ⟨Overlong.exists_error, ?_⟩
  rintro ⟨error, h, hkind⟩
  exact overlong_of_failure? h hkind

end

/-- Of a text of a shape that is not overlong, the first literal above the greatest value is
announced. Without such a literal at most the order of the numbers is. -/
theorem outcome_of_not_overlong {text : String} {shape : Shape}
    (hs : Spelling text.toList shape) (hlong : ¬ Overlong text) :
    (∀ digits, shape.literals.find? (Exceeds ·) = some digits →
      parseSubexpression text = .error (.outOfRange text (String.ofList digits))) ∧
    ((∀ digits ∈ shape.literals, ¬ Exceeds digits) →
      (∃ s, parseSubexpression text = .ok s) ∨
      ∃ first last, parseSubexpression text = .error (.reversedRange text first last)) := by
  have houtcome := parseSubexpression_of_spelling hs
  cases ho : shape.obstacle? with
  | some digits =>
    have hmem : digits ∈ shape.literals := List.mem_of_find?_eq_some ho
    have hunread : Unread digits := by simpa using List.find?_some ho
    have hlength : ¬ 4300 < digits.length := fun hlength => by
      have hf : shape.Fails text _ := Shape.fails_of_obstacle? ho (.tooManyDigits hlength)
      rw [Shape.outcome_of_fails hf] at houtcome
      exact hlong (overlong_of_failure? houtcome rfl)
    have hexceeds : Exceeds digits := hunread.resolve_left hlength
    have hf : shape.Fails text _ := Shape.fails_of_obstacle? ho (.outOfRange (by omega) hexceeds)
    rw [Shape.outcome_of_fails hf] at houtcome
    refine ⟨fun digits' hfind => ?_, fun hall => absurd hexceeds (hall digits hmem)⟩
    -- No literal before the first one that is not read is above the greatest value.
    obtain ⟨-, before, after, heq, hbefore⟩ := List.find?_eq_some_iff_append.mp ho
    have hfirst : shape.literals.find? (Exceeds ·) = some digits := by
      refine List.find?_eq_some_iff_append.mpr ⟨by simpa using hexceeds, before, after, heq, ?_⟩
      intro literal hliteral
      have hread : ¬ Unread literal := by simpa using hbefore literal hliteral
      simpa using fun h : Exceeds literal => hread (.inr h)
    rw [hfirst] at hfind
    cases hfind
    exact houtcome
  | none =>
    have hread : ∀ digits ∈ shape.literals, ¬ Unread digits := by
      simpa using List.find?_eq_none.mp ho
    refine ⟨fun digits hfind => ?_, fun _ => ?_⟩
    · have hexceeds : Exceeds digits := by simpa using List.find?_some hfind
      exact absurd (.inr hexceeds) (hread digits (List.mem_of_find?_eq_some hfind))
    · obtain ⟨s, hm⟩ | ⟨error, hf⟩ := Shape.means_or_fails text shape
      · exact .inl ⟨s, houtcome.trans (Shape.outcome_of_means hm)⟩
      · obtain ⟨digits, ho', -⟩ | ⟨-, first, last, rfl⟩ := Shape.obstacle?_of_fails hf
        · rw [ho] at ho'
          cases ho'
        · exact .inr ⟨first, last, houtcome.trans (Shape.outcome_of_fails hf)⟩

/-- A literal of too many digits is refused for that, whatever its value. -/
theorem parseSubexpression_of_many_digits {digits : List Char} (hd : IsLiteral digits)
    (hlength : 4300 < digits.length) :
    parseSubexpression (String.ofList digits) = .error (.tooManyDigits digits.length) := by
  have hs : Spelling (String.ofList digits).toList (.number digits) := by
    simpa using Spelling.number blanks_nil hd blanks_nil
  rw [parseSubexpression_of_spelling hs]
  exact Shape.outcome_of_fails (.number (.tooManyDigits hlength))

/-- One digit after many others. -/
theorem parseSubexpression_replicate_append {c d : Char} (hc : c.isDigit = true)
    (hd : d.isDigit = true) {n : Nat} (hn : 4300 ≤ n) :
    parseSubexpression (String.ofList (List.replicate n c ++ [d])) =
      .error (.tooManyDigits (n + 1)) := by
  have hlength : (List.replicate n c ++ [d]).length = n + 1 := by simp
  have hliteral : IsLiteral (List.replicate n c ++ [d]) := by
    refine ⟨by simp, fun x hx => ?_⟩
    obtain hx | hx := List.mem_append.mp hx
    · rwa [List.eq_of_mem_replicate hx]
    · rwa [List.mem_singleton.mp hx]
  rw [parseSubexpression_of_many_digits hliteral (by omega), hlength]

/-- Leading zeros do not count. -/
theorem ofDigitChars_replicate_zero_append (n : Nat) (digits : List Char) :
    Nat.ofDigitChars 10 (List.replicate n '0' ++ digits) 0 = Nat.ofDigitChars 10 digits 0 := by
  rw [Nat.ofDigitChars_append, Nat.ofDigitChars_replicate_zero, Nat.mul_zero]

namespace Expression

/-- An expression is refused without an announced kind exactly if the first subexpression that is
refused is overlong. -/
theorem exists_failure?_eq_none_iff {text : String} {options : Options} :
    (∃ error, parse text options = .error error ∧ error.failure? = none) ↔
      options.delimiter ≠ "" ∧ ∃ before part after,
        Subexpressions options.delimiter text (before ++ part :: after) ∧
        (∀ earlier ∈ before, ∃ s, parseSubexpression earlier = .ok s) ∧ Overlong part := by
  constructor
  · rintro ⟨error, h, hkind⟩
    cases comesTo_of_parse_eq h with
    | emptyDelimiter hd => cases hkind
    | @refused before part after _ hd hparts hbefore hpart habout =>
      exact ⟨hd, before, part, after, hparts, hbefore, overlong_of_failure? hpart hkind⟩
    | nothing hd hparts hempty => cases hkind
  · rintro ⟨hd, before, part, after, hparts, hbefore, hlong⟩
    obtain ⟨error, hpart, hkind⟩ := hlong.exists_error
    have habout := isAbout_of_parseSubexpression hpart
    exact ⟨error, (ComesTo.refused hd hparts hbefore hpart habout).parse_eq, hkind⟩

/-- A subexpression is refused without an announced kind exactly if it is overlong, and so is an
expression of which the first refused subexpression is. Otherwise a literal above the greatest value
is announced as such, the first one if there are several and however many digits it has, and no
literal is refused for its leading zeros. -/
theorem failure_exact (text : String) (options : Options) :
    ((∃ error, parseSubexpression text = .error error ∧ error.failure? = none) ↔ Overlong text) ∧
    ((∃ error, parse text options = .error error ∧ error.failure? = none) ↔
      options.delimiter ≠ "" ∧ ∃ before part after,
        Subexpressions options.delimiter text (before ++ part :: after) ∧
        (∀ earlier ∈ before, ∃ s, parseSubexpression earlier = .ok s) ∧ Overlong part) ∧
    (∀ shape, Spelling text.toList shape → ¬ Overlong text →
      (∀ digits, shape.literals.find? (Exceeds ·) = some digits →
        parseSubexpression text = .error (.outOfRange text (String.ofList digits))) ∧
      ((∀ digits ∈ shape.literals, ¬ Exceeds digits) →
        (∃ s, parseSubexpression text = .ok s) ∨
        ∃ first last, parseSubexpression text = .error (.reversedRange text first last))) :=
  ⟨overlong_iff.symm, exists_failure?_eq_none_iff, fun _ hs hlong =>
    outcome_of_not_overlong hs hlong⟩

/-- A number of 4301 digits is refused without an announced kind, be it above the greatest value or
the number seven after many zeros. -/
theorem failure?_of_many_digits :
    parseSubexpression (String.ofList (List.replicate 4300 '9' ++ ['9'])) =
      .error (.tooManyDigits 4301) ∧
    parseSubexpression (String.ofList (List.replicate 4300 '0' ++ ['7'])) =
      .error (.tooManyDigits 4301) ∧
    Nat.ofDigitChars 10 (List.replicate 4300 '0' ++ ['7']) 0 = 7 ∧
    ¬ ∀ text error, parseSubexpression text = .error error → error.failure? ≠ none := by
  have hnines := parseSubexpression_replicate_append (c := '9') (d := '9') rfl rfl (Nat.le_refl _)
  have hzeros := parseSubexpression_replicate_append (c := '0') (d := '7') rfl rfl (Nat.le_refl _)
  exact ⟨hnines, hzeros, ofDigitChars_replicate_zero_append 4300 ['7'], fun h => h _ _ hnines rfl⟩

end Expression

end IntervalExpr
