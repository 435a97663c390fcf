import IntervalExpr.Proofs.Canonical
import IntervalExpr.Subinterval.Description

/-!
# When two subintervals are the same

The text of a subinterval, however large its numbers, is of one shape only, and this shape holds
the integers of the subinterval. So the text tells the set, and the set tells the subinterval.

* `Subinterval.holds_shape_iff`, `Subinterval.describes_toString_iff`: the shape and the text of a
  subinterval stand for its integers.
* `Subinterval.eq_iff_toString_eq`, `Subinterval.eq_iff_contains_eq`,
  `Subinterval.eq_iff_description_eq`: texts, sets and requests tell subintervals apart.
* `Subinterval.sameness_exact`: all of that, and the pairs that might be confused.
-/

namespace IntervalExpr

namespace Subinterval

variable {s t : Subinterval} {v : Int}

/-- The shape of the text of a subinterval holds its integers. -/
theorem holds_shape_iff : s.shape.Holds v ↔ v ∈ s := by
  cases s with
  | bounded first last ordered =>
    simp only [shape]
    split
    · rename_i heq
      subst heq
      simp only [Shape.Holds, Nat.ofDigitChars_ten_toDigits, mem_bounded]
      omega
    · simp only [Shape.Holds, Nat.ofDigitChars_ten_toDigits, mem_bounded]
  | unbounded first => simp only [shape, Shape.Holds, Nat.ofDigitChars_ten_toDigits, mem_unbounded]
  | wildcard => exact iff_of_true trivial mem_wildcard

/-- The text of a subinterval describes its integers, also where a number in it is too large to be
read. -/
theorem describes_toString_iff : Describes s.toString v ↔ v ∈ s := by
  rw [← holds_shape_iff]
  constructor
  · rintro ⟨shape, hs, hv⟩
    rwa [s.spelling_toString.unique hs]
  · intro hv
    exact ⟨s.shape, s.spelling_toString, hv⟩

/-- Subintervals with the same text are the same. -/
theorem eq_iff_toString_eq : s = t ↔ s.toString = t.toString := by
  constructor
  · intro h
    rw [h]
  · intro h
    apply eq_of_mem_iff
    intro v
    rw [← describes_toString_iff, h, describes_toString_iff]

/-- Subintervals with the same integers are the same. -/
theorem eq_iff_contains_eq : s = t ↔ ∀ v, s.contains v = t.contains v := by
  constructor
  · intro h v
    rw [h]
  · intro h
    apply eq_of_mem_iff
    intro v
    rw [← contains_iff_mem, h v, contains_iff_mem]

/-- Subintervals with the same kind, start and count are the same. -/
theorem eq_iff_description_eq : s = t ↔ s.description = t.description := by
  constructor
  · intro h
    rw [h]
  · intro h
    have hbuild := build_description s
    rw [h, build_description t] at hbuild
    exact (Except.ok.inj hbuild).symm

/-- The number after a single number is left out, unlike among all numbers from there on. -/
theorem contains_succ_single (n : Nat) :
    (single n).contains (n + 1) = false ∧ (unbounded n).contains (n + 1) = true := by
  simp [single, contains]

/-- Two subintervals are the same exactly if their texts are, if their kinds, starts and counts are,
and if they hold the same integers. None of them is empty, a single number is told from all numbers
from there on, and the wildcard differs from all natural numbers in the negative numbers only. -/
theorem sameness_exact :
    (∀ s t : Subinterval,
      (s = t ↔ s.toString = t.toString) ∧
      (s = t ↔ s.description = t.description) ∧
      (s = t ↔ ∀ v, s.contains v = t.contains v)) ∧
    (∀ s : Subinterval, ∃ v, s.contains v = true) ∧
    (∀ n, single n ≠ unbounded n ∧ (single n).toString ≠ (unbounded n).toString ∧
      ∃ v, (single n).contains v ≠ (unbounded n).contains v) ∧
    ∀ v, wildcard.contains v = (unbounded 0).contains v ↔ 0 ≤ v := by
  refine ⟨fun s t => ⟨eq_iff_toString_eq, eq_iff_description_eq, eq_iff_contains_eq⟩,
    fun s => ⟨s.start, s.start_mem⟩, fun n => ?_, fun v => ?_⟩
  · have hne : single n ≠ unbounded n := nofun
    refine ⟨hne, fun h => hne (eq_iff_toString_eq.mpr h), n + 1, ?_⟩
    obtain ⟨hsingle, hunbounded⟩ := contains_succ_single n
    rw [hsingle, hunbounded]
    exact Bool.false_ne_true
  · rw [Bool.eq_iff_iff, contains_iff_mem, contains_iff_mem, mem_unbounded]
    exact ⟨fun h => h.mp mem_wildcard, fun h => iff_of_true mem_wildcard h⟩

end Subinterval

end IntervalExpr
