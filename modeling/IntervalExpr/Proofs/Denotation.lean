import IntervalExpr.Expression.Pattern
import IntervalExpr.Proofs.Composition
import IntervalExpr.Proofs.Language

/-!
# What a text stands for

The integers that a text describes, read off its subexpressions, without subintervals, sorting or
merging. Testing an integer against a text asks for just that, whether the expression is normalized
on reading or not.

* `Shape.Holds`, `Describes`: the integers of a shape and of a subexpression.
* `parseSubexpression_of_spelling`: a text of a shape comes to what converting the shape comes to.
* `describes_iff_mem`: a subexpression that is read describes the integers of its subinterval.
* `Expression.parse_normalize`: normalizing on reading is merging what is read without it.
* `Pattern.test_text_exact`: the answer of a test against a text.
-/

namespace IntervalExpr

/-! ## Shapes and subexpressions -/

/-- The integers of a shape, by the values of its literals. -/
def Shape.Holds (v : Int) : Shape → Prop
  | .star => True
  | .number digits => v = (Nat.ofDigitChars 10 digits 0 : Nat)
  | .opened digits => (Nat.ofDigitChars 10 digits 0 : Nat) ≤ v
  | .range firstDigits lastDigits =>
    (Nat.ofDigitChars 10 firstDigits 0 : Nat) ≤ v ∧ v ≤ (Nat.ofDigitChars 10 lastDigits 0 : Nat)

/-- With any blanks around its symbols, the text is `*`, the literal `v`, `n-` with `n ≤ v` or
`a-b` with `a ≤ v ≤ b`. -/
def Describes (text : String) (v : Int) : Prop :=
  ∃ shape, Spelling text.toList shape ∧ shape.Holds v

theorem Shape.Means.mem_iff {shape : Shape} {s : Subinterval} {v : Int} (h : shape.Means s) :
    v ∈ s ↔ shape.Holds v := by
  cases h with
  | star => simp [Holds]
  | number hd =>
    obtain ⟨-, rfl, -⟩ := hd
    simp only [Subinterval.single, Subinterval.mem_bounded, Holds]
    omega
  | opened hd =>
    obtain ⟨-, rfl, -⟩ := hd
    simp [Holds]
  | range hd hd' hle =>
    obtain ⟨-, rfl, -⟩ := hd
    obtain ⟨-, rfl, -⟩ := hd'
    simp [Holds]

section Subexpression

variable {text : String} {shape : Shape} {s : Subinterval} {v : Int}

/-- A text of a shape comes to what converting the shape comes to. -/
theorem parseSubexpression_of_spelling (h : Spelling text.toList shape) :
    parseSubexpression text = (shape.convert text).outcome := by
  obtain ⟨items, hi, hl⟩ := (spelling_iff_itemized 0).mp h
  rw [parseSubexpression_eq_judge hi (longestBeginning_all_iff.mpr hl), judge_end]

/-- A subexpression that is read describes the integers of its subinterval. -/
theorem describes_iff_mem (h : parseSubexpression text = .ok s) : Describes text v ↔ v ∈ s := by
  constructor
  · rintro ⟨shape, hs, hv⟩
    rw [parseSubexpression_of_spelling hs, Shape.outcome_convert_eq_ok_iff] at h
    exact h.mem_iff.mpr hv
  · intro hv
    obtain ⟨shape, hs, hm⟩ := exists_means_of_parseSubexpression h
    exact ⟨shape, hs, hm.mem_iff.mp hv⟩

end Subexpression

/-! ## Expressions -/

namespace Expression

variable {text : String} {options : Options} {e : Expression} {v : Int}

/-- Subintervals hold what the subexpressions describe that they were read from. -/
theorem covers_iff_describes {parts : List String} {subintervals : List Subinterval}
    (h : parts.map parseSubexpression = subintervals.map .ok) :
    Subinterval.Covers subintervals v ↔ ∃ part ∈ parts, Describes part v := by
  constructor
  · rintro ⟨s, hs, hv⟩
    obtain ⟨part, hpart, hread⟩ := exists_source_of_mem h hs
    exact ⟨part, hpart, (describes_iff_mem hread).mpr hv⟩
  · rintro ⟨part, hpart, hv⟩
    obtain ⟨s, hs, hread⟩ := exists_result_of_mem h hpart
    exact ⟨s, hs, (describes_iff_mem hread).mp hv⟩

/-- Whether it is normalized or not, an expression holds what its subexpressions describe. -/
theorem contains_iff_describes (h : parse text options = .ok e) :
    e.contains v = true ↔ ∃ parts, Subexpressions options.delimiter text parts ∧
      ∃ part ∈ parts, Describes part v := by
  cases comesTo_of_parse_eq h with
  | @expression parts subintervals hd hparts hmap hempty =>
    have hcovers : Subinterval.Covers
        (if options.normalize then Subinterval.merge subintervals else subintervals) v ↔
        Subinterval.Covers subintervals v := by
      split
      · exact Subinterval.covers_merge
      · exact Iff.rfl
    rw [contains_iff_covers, hcovers, covers_iff_describes hmap]
    constructor
    · exact fun hv => ⟨parts, hparts, hv⟩
    · rintro ⟨more, hmore, hv⟩
      rwa [hparts.unique hd hmore]

/-- Normalizing on reading is merging what is read without it. -/
theorem parse_normalize (text delimiter : String) (allowEmpty : Bool) :
    parse text ⟨delimiter, allowEmpty, true⟩ = (parse text ⟨delimiter, allowEmpty, false⟩).map
      fun e => ⟨Subinterval.merge e.subintervals, ⟨delimiter, allowEmpty, true⟩⟩ := by
  by_cases hd : delimiter = ""
  · rw [parse_of_delimiter_eq hd, parse_of_delimiter_eq hd]
    rfl
  obtain ⟨parts, hparts⟩ := exists_subexpressions hd text
  rw [parse_eq_mapM hd hparts, parse_eq_mapM hd hparts]
  cases parts.mapM parseSubexpression with
  | error error => rfl
  | ok subintervals =>
    show assemble _ _ _ = (assemble _ _ _).map _
    unfold assemble
    split <;> rfl

end Expression

/-! ## Tests -/

namespace Pattern

/-- Whether the expression is normalized on reading makes no difference to a test. -/
theorem test_normalize (text delimiter : String) (allowEmpty : Bool) (v : Int) :
    test (.text text) v ⟨delimiter, allowEmpty, true⟩ =
      test (.text text) v ⟨delimiter, allowEmpty, false⟩ := by
  simp only [test, Expression.parse_normalize text]
  cases Expression.parse text ⟨delimiter, allowEmpty, false⟩ with
  | error error => rfl
  | ok e =>
    exact congrArg Except.ok Expression.contains_merged

/-- A test against a text is not changed by normalizing on reading, and if it has an answer, it asks
whether one of the subexpressions describes the integer. Normalizing on reading fails just as
reading without it, and gives the subintervals of normalizing after reading, which does not fail. -/
theorem test_text_exact (text delimiter : String) (allowEmpty : Bool) (v : Int) :
    test (.text text) v ⟨delimiter, allowEmpty, true⟩ =
        test (.text text) v ⟨delimiter, allowEmpty, false⟩ ∧
    (∀ normalize answer, test (.text text) v ⟨delimiter, allowEmpty, normalize⟩ = .ok answer →
      (answer = true ↔ ∃ parts, Subexpressions delimiter text parts ∧
        ∃ part ∈ parts, Describes part v)) ∧
    (∀ error, Expression.parse text ⟨delimiter, allowEmpty, true⟩ = .error error ↔
      Expression.parse text ⟨delimiter, allowEmpty, false⟩ = .error error) ∧
    (∀ e, Expression.parse text ⟨delimiter, allowEmpty, false⟩ = .ok e →
      ∃ n, e.normalize = .ok n ∧ Expression.parse text ⟨delimiter, allowEmpty, true⟩ =
        .ok ⟨n.subintervals, ⟨delimiter, allowEmpty, true⟩⟩) := by
  refine ⟨test_normalize text delimiter allowEmpty v, fun normalize answer h => ?_,
    fun error => ?_, fun e h => ⟨e.merged, ?_, ?_⟩⟩
  · cases hp : Expression.parse text ⟨delimiter, allowEmpty, normalize⟩ with
    | error error =>
      rw [test, hp] at h
      cases h
    | ok e =>
      rw [test, hp] at h
      cases h
      exact Expression.contains_iff_describes hp
  · rw [Expression.parse_normalize]
    cases Expression.parse text ⟨delimiter, allowEmpty, false⟩ <;> simp [Except.map]
  · exact Expression.normalize_of_inRange (Expression.inRange_of_parse h)
  · rw [Expression.parse_normalize, h]
    rfl

/-- Four lies in the range of the second subexpression, which is written with blanks. -/
theorem test_text_exact_blanks :
    test (.text "9 ,, 3 - 5,7-") 4 ⟨",", false, true⟩ = .ok true ∧
    ∃ parts, Subexpressions "," "9 ,, 3 - 5,7-" parts ∧ ∃ part ∈ parts, Describes part 4 := by
  have h : test (.text "9 ,, 3 - 5,7-") 4 ⟨",", false, true⟩ = .ok true := by cbv
  exact ⟨h, ((test_text_exact "9 ,, 3 - 5,7-" "," false 4).2.1 true true h).mp rfl⟩

end Pattern

end IntervalExpr
