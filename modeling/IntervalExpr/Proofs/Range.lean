import IntervalExpr.Proofs.Language
import IntervalExpr.Proofs.Normalize

/-!
# Numbers in range

A number that is read is at most `2 ^ 63 - 1`, far below the numbers that are too long to be
written. Merging invents no numbers, so that normalizing is never refused for an expression of
subintervals that were read.

* `Subinterval.InRange`: the numbers of a subinterval can be read.
* `inRange_of_parseSubexpression`, `Subinterval.inRange_merge`: reading and merging lead to such
  subintervals.
* `Subinterval.InRange.isWritable`: the numbers in range can be written.
* `Expression.normalize_of_inRange`: normalizing what has been read.
-/

namespace IntervalExpr

/-- A number in range is short enough to be written. -/
theorem isWritable_of_le {n : Nat} (h : n ≤ maxValue) : isWritable n = true := by
  rw [isWritable_iff, Int.natAbs_natCast]
  have hlt : n < 10 ^ 19 := by
    unfold maxValue at h
    omega
  exact Nat.lt_of_lt_of_le hlt (Nat.pow_le_pow_right (by decide) (by decide))

namespace Subinterval

/-- The numbers of a subinterval are not above the greatest value that is read. -/
structure InRange (s : Subinterval) : Prop where
  start_le : s.start ≤ maxValue
  last_le : ∀ last, s.last? = some last → last ≤ maxValue

/-- What a shape stands for is in range. -/
theorem inRange_of_means {shape : Shape} {s : Subinterval} (h : shape.Means s) : s.InRange := by
  cases h with
  | star => exact ⟨Nat.zero_le _, nofun⟩
  | number hd => exact ⟨hd.le, fun last hl => Option.some.inj hl ▸ hd.le⟩
  | opened hd => exact ⟨hd.le, nofun⟩
  | range hd hd' hle => exact ⟨hd.le, fun last hl => Option.some.inj hl ▸ hd'.le⟩

/-- A merge of subintervals in range is in range. -/
theorem inRange_merge {l : List Subinterval} (h : ∀ s ∈ l, s.InRange) :
    ∀ s ∈ merge l, s.InRange := by
  intro s hs
  obtain ⟨hstart, hlast⟩ := @forall_mem_merge l (· ≤ maxValue)
    (fun last? => ∀ last, last? = some last → last ≤ maxValue)
    (fun t ht => ⟨(h t ht).start_le, (h t ht).last_le⟩) s hs
  exact ⟨hstart, hlast⟩

/-- The numbers in the text of a subinterval in range can be written. -/
theorem InRange.isWritable {s : Subinterval} (h : s.InRange) :
    ∀ n ∈ s.bounds, IntervalExpr.isWritable n = true := by
  cases s with
  | bounded first last ordered =>
    intro n hn
    rcases List.mem_cons.mp hn with rfl | hn
    · exact isWritable_of_le h.start_le
    · obtain rfl := List.mem_singleton.mp hn
      exact isWritable_of_le (h.last_le last rfl)
  | unbounded first =>
    intro n hn
    obtain rfl := List.mem_singleton.mp hn
    exact isWritable_of_le h.start_le
  | wildcard => exact nofun

end Subinterval

/-- A subinterval that is read from a text is in range. -/
theorem inRange_of_parseSubexpression {text : String} {s : Subinterval}
    (h : parseSubexpression text = .ok s) : s.InRange := by
  obtain ⟨shape, -, hm⟩ := exists_means_of_parseSubexpression h
  exact Subinterval.inRange_of_means hm

/-! ## Normalizing what has been read -/

namespace Expression

variable {e : Expression}

theorem not_oversized_of_inRange (h : ∀ s ∈ e.subintervals, s.InRange) : ¬ e.Oversized := by
  rintro ⟨s, hs, number, hnumber, hle⟩
  have hwritable := (Subinterval.inRange_merge h s hs).isWritable number hnumber
  rw [isWritable_iff] at hwritable
  omega

/-- In range, normalizing is not refused: it is merging, under the same options. -/
theorem normalize_of_inRange (h : ∀ s ∈ e.subintervals, s.InRange) : e.normalize = .ok e.merged :=
  normalize_eq_ok (not_oversized_of_inRange h)

end Expression

end IntervalExpr
