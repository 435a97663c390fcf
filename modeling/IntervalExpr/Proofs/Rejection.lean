import IntervalExpr.Proofs.Meaning
import IntervalExpr.Proofs.Reading

/-!
# The error of a refused text

A text that goes wrong in several ways is refused with one error. Which one depends on the longest
beginning of its items that makes a shape, and on whether an item follows.

* `Rejects`: the error that a beginning and the item after it lead to.
* `judge_range`, `judge_next`, `judge_end`: the order in which obstacles are met.
* `parseSubexpression_eq_error_iff`: the parser refuses a text with exactly this error.
-/

namespace IntervalExpr

/-- Why a text is refused of which the longest beginning makes `shape?`, before `next?`. Only a
range is converted before the next item is looked at. -/
inductive Rejects (text : String) : Option Shape → Option Item → ParseError → Prop
  /-- A range that stands for nothing is refused, whatever follows. -/
  | range {firstDigits lastDigits next? error} :
      (Shape.range firstDigits lastDigits).Fails text error →
      Rejects text (some (.range firstDigits lastDigits)) next? error
  /-- What follows a range is refused if the range stands for something. -/
  | afterRange {firstDigits lastDigits s x} : (Shape.range firstDigits lastDigits).Means s →
      Rejects text (some (.range firstDigits lastDigits)) (some x) (x.rejection text)
  /-- What follows anything else is refused, also if that stands for nothing. -/
  | next {shape? x} : (∀ firstDigits lastDigits, shape? ≠ some (.range firstDigits lastDigits)) →
      Rejects text shape? (some x) (x.rejection text)
  /-- The text has no items. -/
  | nothing : Rejects text none none (.malformed text none (some "unexpected end of subexpression"))
  /-- Where the text ends, a number is refused only for its literal. -/
  | number {digits error} : Unreadable text digits error →
      Rejects text (some (.number digits)) none error
  | opened {digits error} : Unreadable text digits error →
      Rejects text (some (.opened digits)) none error

section Judge

variable {text : String} {shape? : Option Shape} {next? : Option Item} {error : ParseError}

/-- A range is converted first. -/
theorem judge_range (firstDigits lastDigits : List Char) :
    judge text (some (.range firstDigits lastDigits)) next? =
      ((Shape.range firstDigits lastDigits).convert text).outcome >>= fun s =>
        orNext text next? (.ok s) := rfl

/-- Anything else is refused at the next item, before its literal is converted. -/
theorem judge_next {x : Item}
    (h : ∀ firstDigits lastDigits, shape? ≠ some (.range firstDigits lastDigits)) :
    judge text shape? (some x) = .error (x.rejection text) := by
  cases shape? with
  | none => rfl
  | some shape =>
    cases shape with
    | star => rfl
    | number digits => rfl
    | opened digits => rfl
    | range firstDigits lastDigits => exact absurd rfl (h firstDigits lastDigits)

/-- At the end of the text a shape comes to its conversion. -/
theorem judge_end (shape : Shape) :
    judge text (some shape) none = (shape.convert text).outcome := by
  rw [judge]
  split
  · cases (shape.convert text).outcome <;> rfl
  · rfl

theorem rejects_of_judge_next {x : Item} (h : judge text shape? (some x) = .error error) :
    Rejects text shape? (some x) error := by
  by_cases hrange : ∃ firstDigits lastDigits, shape? = some (.range firstDigits lastDigits)
  · obtain ⟨firstDigits, lastDigits, rfl⟩ := hrange
    rw [judge_range] at h
    rcases Shape.means_or_fails text (.range firstDigits lastDigits) with ⟨s, hm⟩ | ⟨error', hf⟩
    · rw [Shape.outcome_of_means hm] at h
      cases h
      exact .afterRange hm
    · rw [Shape.outcome_of_fails hf] at h
      cases h
      exact .range hf
  · have hnot : ∀ firstDigits lastDigits, shape? ≠ some (.range firstDigits lastDigits) :=
      fun firstDigits lastDigits hs => hrange ⟨firstDigits, lastDigits, hs⟩
    rw [judge_next hnot] at h
    cases h
    exact .next hnot

theorem rejects_of_judge_end (h : judge text shape? none = .error error) :
    Rejects text shape? none error := by
  cases shape? with
  | none =>
    cases h
    exact .nothing
  | some shape =>
    rw [judge_end, Shape.outcome_convert_eq_error_iff] at h
    cases shape with
    | star => cases h
    | number digits => cases h with | number hu => exact .number hu
    | opened digits => cases h with | opened hu => exact .opened hu
    | range firstDigits lastDigits => exact .range h

/-- A beginning and the item after it lead to one of the errors exactly if they are refused. -/
theorem judge_eq_error_iff :
    judge text shape? next? = .error error ↔ Rejects text shape? next? error := by
  constructor
  · intro h
    cases next? with
    | none => exact rejects_of_judge_end h
    | some x => exact rejects_of_judge_next h
  · intro h
    cases h with
    | range hf => rw [judge_range, Shape.outcome_of_fails hf]; rfl
    | afterRange hm => rw [judge_range, Shape.outcome_of_means hm]; rfl
    | next hnot => exact judge_next hnot
    | nothing => rfl
    | number hu => rw [judge_end, Shape.outcome_of_fails (.number hu)]
    | opened hu => rw [judge_end, Shape.outcome_of_fails (.opened hu)]

end Judge

/-- The parser refuses a text with exactly the error that the longest beginning of its items and
the item after it lead to. -/
theorem parseSubexpression_eq_error_iff (text : String) (error : ParseError) :
    parseSubexpression text = .error error ↔
      ∃ items shape? next?, Itemized 0 text.toList items ∧
        LongestBeginning items shape? next? ∧ Rejects text shape? next? error := by
  rw [parseSubexpression_eq_iff]
  constructor
  · rintro ⟨items, shape?, next?, hi, hl, hj⟩
    exact ⟨items, shape?, next?, hi, hl, judge_eq_error_iff.mp hj⟩
  · rintro ⟨items, shape?, next?, hi, hl, hr⟩
    exact ⟨items, shape?, next?, hi, hl, judge_eq_error_iff.mpr hr⟩

-- The range is converted before the foreign character is found.
example : parseSubexpression "5-3x" = .error (.reversedRange "5-3x" 5 3) := by cbv

end IntervalExpr
