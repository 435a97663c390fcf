import IntervalExpr.Proofs.Sweep

/-!
# The fewest subintervals

A subinterval has no gaps. So each subinterval inside the set of a normal form lies in a single
member of that form, and a list for the same set has at least one subinterval for every member.

* `Normal.mem_head_of_mem`: a subinterval that meets the first member of a normal form lies in it.
* `Normal.covers_apart_iff`: what is left of a list without the subintervals in the first member.
* `Normal.length_le`: no list for the same set is shorter than the normal form.
* `length_merge_le`: the same for a merge.
-/

namespace IntervalExpr

namespace Subinterval

/-- What the members of a list hold, of which some are left out. -/
theorem covers_filter {l : List Subinterval} {p : Subinterval → Bool} {v : Int} :
    Covers (l.filter p) v ↔ ∃ s ∈ l, p s = true ∧ v ∈ s := by
  simp only [Covers, List.mem_filter, and_assoc]

namespace Normal

variable {s t : Subinterval} {l others : List Subinterval} {v w : Int}

/-- A subinterval inside the set that meets the first member of the normal form lies in it. -/
theorem mem_head_of_mem (h : Normal (s :: l)) (ht : ∀ x, x ∈ t → Covers (s :: l) x) (hvs : v ∈ s)
    (hvt : v ∈ t) (hw : w ∈ t) : w ∈ s := by
  by_cases hs : s = .wildcard
  · rw [hs]
    exact mem_wildcard
  refine (mem_iff hs).mpr ⟨h.start_le hs (ht w hw), fun last hlast => ?_⟩
  have hv := ((mem_iff hs).mp hvs).2 last hlast
  by_cases hle : w ≤ (last : Int)
  · exact hle
  · -- Otherwise the subinterval goes on beyond the gap after the first member.
    have hgap : ((last : Int) + 1) ∈ t := mem_of_between hvt hw (by omega) (by omega)
    exact absurd (ht _ hgap) (h.not_covers_succ_last hlast)

/-- Without the subintervals that start in the first member, a list for the set of a normal form
is a list for the set of its other members. -/
theorem covers_apart_iff (h : Normal (s :: l)) (hc : ∀ x, Covers others x ↔ Covers (s :: l) x) :
    Covers (others.filter fun t => !s.contains t.start) v ↔ Covers l v := by
  have hinside : ∀ t ∈ others, ∀ x, x ∈ t → Covers (s :: l) x :=
    fun t ht x hx => (hc x).mp ⟨t, ht, hx⟩
  rw [covers_filter, h.covers_tail_iff, ← hc]
  simp only [Bool.not_eq_true', Bool.eq_false_iff, ne_eq, contains_iff_mem]
  constructor
  · rintro ⟨t, ht, hstart, hv⟩
    refine ⟨⟨t, ht, hv⟩, fun hvs => hstart ?_⟩
    exact h.mem_head_of_mem (hinside t ht) hvs hv t.start_mem
  · rintro ⟨⟨t, ht, hv⟩, hvs⟩
    refine ⟨t, ht, fun hstart => hvs ?_, hv⟩
    exact h.mem_head_of_mem (hinside t ht) hstart t.start_mem hv

/-- No list for the same set is shorter than the normal form. -/
theorem length_le (h : Normal l) (hc : ∀ x, Covers others x ↔ Covers l x) :
    l.length ≤ others.length := by
  induction l generalizing others with
  | nil => exact Nat.zero_le _
  | cons s l ih =>
    have htail := ih h.tail fun x => h.covers_apart_iff hc
    -- Some subinterval of the list holds the start of the first member, and is left out.
    obtain ⟨t, ht, hstart⟩ := (hc s.start).mpr (covers_cons.mpr (.inl s.start_mem))
    have hmem : (t.start : Int) ∈ s :=
      h.mem_head_of_mem (fun x hx => (hc x).mp ⟨t, ht, hx⟩) s.start_mem hstart t.start_mem
    have hfewer : (others.filter fun t => !s.contains t.start).length < others.length := by
      rw [List.length_filter_lt_length_iff_exists]
      exact ⟨t, ht, by simpa [contains_iff_mem] using hmem⟩
    rw [List.length_cons]
    omega

end Normal

/-- No list of subintervals that describes the same set of integers is shorter than the merged
one. -/
theorem length_merge_le (xs ys : List Subinterval) (h : ∀ v : Int, Covers xs v ↔ Covers ys v) :
    (merge xs).length ≤ ys.length := by
  refine normal_merge.length_le fun v => ?_
  rw [covers_merge, h]

/-- Touching subintervals, one inside another, and the unbounded one in the midst of them. -/
theorem length_merge_le_touching :
    (∀ v : Int,
      Covers [.bounded 4 6 (by decide), .unbounded 9, .single 12, .bounded 2 3 (by decide)] v ↔
        Covers [.unbounded 9, .bounded 2 6 (by decide)] v) ∧
    (merge [.bounded 4 6 (by decide), .unbounded 9, .single 12, .bounded 2 3 (by decide)]).length
      ≤ [Subinterval.unbounded 9, .bounded 2 6 (by decide)].length := by
  have h : ∀ v : Int,
      Covers [.bounded 4 6 (by decide), .unbounded 9, .single 12, .bounded 2 3 (by decide)] v ↔
        Covers [.unbounded 9, .bounded 2 6 (by decide)] v := fun v => by
    simp only [covers_cons, covers_nil, or_false, mem_bounded, mem_unbounded, single]
    omega
  exact ⟨h, length_merge_le _ _ h⟩

end Subinterval

end IntervalExpr
