import Mathlib
import IntervalExpr.Subexpression.Shape

/-!
# What shapes stand for

A shape stands for a subinterval if its literals are numbers in range and, of a range, the second
is not below the first. Otherwise it fails with the first obstacle from left to right.

* `Denotes`, `Unreadable`: the number a literal is read as, and why it is not read.
* `Shape.Means`, `Shape.Fails`: the subinterval a shape stands for, and why there is none.
* `Shape.outcome_convert_eq_ok_iff`, `Shape.outcome_convert_eq_error_iff`: converting comes to
  exactly that.
-/

namespace IntervalExpr

/-! ## Literals -/

/-- The digits, at most 4300 of them, are read as `n`, which is in range. -/
structure Denotes (digits : List Char) (n : Nat) : Prop where
  length_le : digits.length ≤ 4300
  value : Nat.ofDigitChars 10 digits 0 = n
  le : n ≤ 2 ^ 63 - 1

/-- Why digits are not read as a number. How many they are is judged before their value. -/
inductive Unreadable (text : String) (digits : List Char) : ParseError → Prop
  | tooManyDigits : 4300 < digits.length →
      Unreadable text digits (.tooManyDigits digits.length)
  | outOfRange : digits.length ≤ 4300 → 2 ^ 63 - 1 < Nat.ofDigitChars 10 digits 0 →
      Unreadable text digits (.outOfRange text (String.ofList digits))

section Literal

variable {text : String} {digits : List Char} {n : Nat} {error : ParseError}

theorem readLiteral_eq_ok_iff : readLiteral text digits = .ok n ↔ Denotes digits n := by
  unfold readLiteral maxDigits maxValue
  constructor
  · intro h
    split at h
    · cases h
    · split at h
      · cases h
      · cases h
        exact ⟨by omega, rfl, by omega⟩
  · rintro ⟨hlength, rfl, hle⟩
    rw [if_neg (by omega), if_neg (by omega)]

theorem readLiteral_eq_error_iff :
    readLiteral text digits = .error error ↔ Unreadable text digits error := by
  unfold readLiteral maxDigits maxValue
  constructor
  · intro h
    split at h
    · cases h
      exact .tooManyDigits (by omega)
    · split at h
      · cases h
        exact .outOfRange (by omega) (by omega)
      · cases h
  · rintro (hlength | ⟨hlength, hlt⟩)
    · rw [if_pos (by omega)]
    · rw [if_neg (by omega), if_pos (by omega)]

theorem denotes_or_unreadable (text : String) (digits : List Char) :
    (∃ n, Denotes digits n) ∨ ∃ error, Unreadable text digits error := by
  cases h : readLiteral text digits with
  | ok n => exact .inl ⟨n, readLiteral_eq_ok_iff.mp h⟩
  | error error => exact .inr ⟨error, readLiteral_eq_error_iff.mp h⟩

end Literal

/-! ## Shapes -/

namespace Shape

/-- The subinterval that a shape stands for. -/
inductive Means : Shape → Subinterval → Prop
  | star : Means .star .wildcard
  | number {digits n} : Denotes digits n → Means (.number digits) (.single n)
  | opened {digits first} : Denotes digits first → Means (.opened digits) (.unbounded first)
  | range {firstDigits lastDigits first last} : Denotes firstDigits first →
      Denotes lastDigits last → (ordered : first ≤ last) →
      Means (.range firstDigits lastDigits) (.bounded first last ordered)

/-- Why a shape stands for nothing: of a range, the first number is judged before the second, and
both before their order. -/
inductive Fails (text : String) : Shape → ParseError → Prop
  | number {digits error} : Unreadable text digits error → Fails text (.number digits) error
  | opened {digits error} : Unreadable text digits error → Fails text (.opened digits) error
  | first {firstDigits lastDigits error} : Unreadable text firstDigits error →
      Fails text (.range firstDigits lastDigits) error
  | last {firstDigits lastDigits first error} : Denotes firstDigits first →
      Unreadable text lastDigits error → Fails text (.range firstDigits lastDigits) error
  | order {firstDigits lastDigits first last} : Denotes firstDigits first →
      Denotes lastDigits last → last < first →
      Fails text (.range firstDigits lastDigits) (.reversedRange text first last)

theorem outcome_of_means {text : String} {shape : Shape} {s : Subinterval} (h : shape.Means s) :
    (shape.convert text).outcome = .ok s := by
  cases h with
  | star => rfl
  | number hd => rw [convert, Traced.outcome_bind, readLiteral_eq_ok_iff.mpr hd]; rfl
  | opened hd => rw [convert, Traced.outcome_bind, readLiteral_eq_ok_iff.mpr hd]; rfl
  | @range _ _ first last hd hd' hle =>
    rw [convert, Traced.outcome_bind, readLiteral_eq_ok_iff.mpr hd, readLiteral_eq_ok_iff.mpr hd']
    show (if ordered : first ≤ last then _ else _ : Traced Subinterval).outcome = _
    rw [dif_pos hle]
    rfl

theorem outcome_of_fails {text : String} {shape : Shape} {error : ParseError}
    (h : shape.Fails text error) : (shape.convert text).outcome = .error error := by
  cases h with
  | number hu => rw [convert, Traced.outcome_bind, readLiteral_eq_error_iff.mpr hu]; rfl
  | opened hu => rw [convert, Traced.outcome_bind, readLiteral_eq_error_iff.mpr hu]; rfl
  | first hu => rw [convert, Traced.outcome_bind, readLiteral_eq_error_iff.mpr hu]; rfl
  | last hd hu =>
    rw [convert, Traced.outcome_bind, readLiteral_eq_ok_iff.mpr hd,
      readLiteral_eq_error_iff.mpr hu]
    rfl
  | @order _ _ first last hd hd' hlt =>
    rw [convert, Traced.outcome_bind, readLiteral_eq_ok_iff.mpr hd, readLiteral_eq_ok_iff.mpr hd']
    show (if ordered : first ≤ last then _ else _ : Traced Subinterval).outcome = _
    rw [dif_neg (by omega)]
    rfl

/-- A shape stands for a subinterval, or there is a reason why not. -/
theorem means_or_fails (text : String) (shape : Shape) :
    (∃ s, shape.Means s) ∨ ∃ error, shape.Fails text error := by
  cases shape with
  | star => exact .inl ⟨_, .star⟩
  | number digits =>
    rcases denotes_or_unreadable text digits with ⟨n, hd⟩ | ⟨error, hu⟩
    · exact .inl ⟨_, .number hd⟩
    · exact .inr ⟨_, .number hu⟩
  | opened digits =>
    rcases denotes_or_unreadable text digits with ⟨first, hd⟩ | ⟨error, hu⟩
    · exact .inl ⟨_, .opened hd⟩
    · exact .inr ⟨_, .opened hu⟩
  | range firstDigits lastDigits =>
    rcases denotes_or_unreadable text firstDigits with ⟨first, hd⟩ | ⟨error, hu⟩
    · rcases denotes_or_unreadable text lastDigits with ⟨last, hd'⟩ | ⟨error, hu⟩
      · by_cases hle : first ≤ last
        · exact .inl ⟨_, .range hd hd' hle⟩
        · exact .inr ⟨_, .order hd hd' (by omega)⟩
      · exact .inr ⟨_, .last hd hu⟩
    · exact .inr ⟨_, .first hu⟩

theorem outcome_convert_eq_ok_iff {text : String} {shape : Shape} {s : Subinterval} :
    (shape.convert text).outcome = .ok s ↔ shape.Means s := by
  refine ⟨fun h => ?_, outcome_of_means⟩
  rcases means_or_fails text shape with ⟨s', hm⟩ | ⟨error, hf⟩
  · rw [outcome_of_means hm] at h
    cases h
    exact hm
  · rw [outcome_of_fails hf] at h
    cases h

theorem outcome_convert_eq_error_iff {text : String} {shape : Shape} {error : ParseError} :
    (shape.convert text).outcome = .error error ↔ shape.Fails text error := by
  refine ⟨fun h => ?_, outcome_of_fails⟩
  rcases means_or_fails text shape with ⟨s, hm⟩ | ⟨error', hf⟩
  · rw [outcome_of_means hm] at h
    cases h
  · rw [outcome_of_fails hf] at h
    cases h
    exact hf

end Shape

end IntervalExpr
