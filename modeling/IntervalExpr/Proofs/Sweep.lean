import IntervalExpr.Proofs.NormalForm
import IntervalExpr.Subinterval.Merge

/-!
# The sweep over subintervals in order

What one meeting of two subintervals comes to, and from it what a whole sweep keeps: the set of
integers, and normal form of the result.

* `Extends`: how an extension relates to the two subintervals it comes from.
* `meeting_eq_apart_iff`, `extends_of_meeting`, …: the outcomes of a meeting, one by one.
* `Ordered`: what a sweep relies on, in the order of the starts and without a wildcard.
* `covers_sweep`, `normal_sweep`: the set of a sweep and its normal form.
* `forall_mem_sweep`: the endpoints of a sweep are endpoints of what was swept.
* `mergeBy_eq_sweepBy`, `mergeBy_of_wildcard`: a merge is a sweep, or there is a wildcard.
* `covers_merge`, `normal_merge`, `forall_mem_merge`: the same for any list of subintervals.
-/

namespace IntervalExpr

namespace Subinterval

/-! ## One meeting -/

/-- `u` starts with `c` and ends with `n`, which touches `c` and ends after it. -/
structure Extends (c n u : Subinterval) : Prop where
  start : u.start = c.start
  last : u.last? = n.last?
  ne_wildcard : u ≠ .wildcard
  touching : ∃ last, c.last? = some last ∧ n.start ≤ last + 1 ∧
    ∀ stop, n.last? = some stop → last < stop

section Meeting

variable {c n u : Subinterval} {v : Int}

/-- The distance is at most one if no number lies between. -/
theorem distance_le_one_iff {last : Nat} : distance last n ≤ 1 ↔ n.start ≤ last + 1 := by
  unfold distance
  omega

theorem last?_of_meeting_endless (h : meeting c n = .endless) : c.last? = none := by
  cases c with
  | bounded first last ordered =>
    simp only [meeting_bounded, joined] at h
    repeat' split at h
    all_goals cases h
  | unbounded first => rfl
  | wildcard => rfl

theorem meeting_eq_apart_iff : meeting c n = .apart ↔ Apart c n := by
  cases c with
  | bounded first last ordered =>
    have hap : Apart (bounded first last ordered) n ↔ ¬ distance last n ≤ 1 := by
      simp [Apart, last?, distance_le_one_iff]
    rw [hap]
    constructor
    · intro h
      simp only [meeting_bounded, joined] at h
      split at h
      · repeat' split at h
        all_goals cases h
      · assumption
    · intro h
      rw [meeting_bounded, if_neg h]
  | unbounded first => simp [meeting_unbounded, Apart, last?]
  | wildcard => simp [meeting_wildcard, Apart, last?]

theorem le_last_of_meeting_covered (h : meeting c n = .covered) :
    ∃ last stop, c.last? = some last ∧ n.last? = some stop ∧ stop ≤ last := by
  cases c with
  | bounded first last ordered =>
    simp only [meeting_bounded, joined] at h
    split at h
    · split at h
      · cases h
      · rename_i stop hstop
        split at h
        · cases h
        · exact ⟨last, stop, rfl, hstop, by omega⟩
    · cases h
  | unbounded first => cases h
  | wildcard => cases h

theorem extends_of_meeting (h : meeting c n = .extended u) : Extends c n u := by
  cases c with
  | bounded first last ordered =>
    simp only [meeting_bounded, joined] at h
    split at h
    · rename_i htouch
      rw [distance_le_one_iff] at htouch
      split at h
      · rename_i hnone
        cases h
        exact ⟨rfl, hnone.symm, by simp, last, rfl, htouch, by simp [hnone]⟩
      · rename_i stop hstop
        split at h
        · rename_i hlt
          cases h
          refine ⟨rfl, hstop.symm, by simp, last, rfl, htouch, fun stop' hs => ?_⟩
          rw [hstop] at hs; cases hs; exact hlt
        · cases h
    · cases h
  | unbounded first => cases h
  | wildcard => cases h

/-- A subinterval without an end holds all that starts after it. -/
theorem mem_of_last?_eq_none (hc : c.last? = none) (hn : n ≠ .wildcard) (hle : c.start ≤ n.start)
    (hv : v ∈ n) : v ∈ c := by
  by_cases hw : c = .wildcard
  · simp [hw]
  · have := ((mem_iff hn).mp hv).1
    exact (mem_iff hw).mpr ⟨by omega, by simp [hc]⟩

theorem mem_of_meeting_covered (h : meeting c n = .covered) (hn : n ≠ .wildcard)
    (hle : c.start ≤ n.start) (hv : v ∈ n) : v ∈ c := by
  obtain ⟨last, stop, hc, hs, hstop⟩ := le_last_of_meeting_covered h
  have hv' := (mem_iff hn).mp hv
  have := hv'.2 stop hs
  by_cases hw : c = .wildcard
  · simp [hw]
  · refine (mem_iff hw).mpr ⟨by omega, fun last' hl => ?_⟩
    rw [hc] at hl; cases hl; omega

/-- An extension is the union of the two subintervals: no number lies between them. -/
theorem Extends.mem_iff (h : Extends c n u) (hc : c ≠ .wildcard) (hn : n ≠ .wildcard)
    (hle : c.start ≤ n.start) : v ∈ u ↔ v ∈ c ∨ v ∈ n := by
  obtain ⟨last, hl, htouch, hlong⟩ := h.touching
  rw [Subinterval.mem_iff h.ne_wildcard, Subinterval.mem_iff hc, Subinterval.mem_iff hn, h.start,
    h.last, hl]
  constructor
  · rintro ⟨hv, hall⟩
    by_cases hlast : v ≤ (last : Int)
    · exact .inl ⟨hv, by simpa using hlast⟩
    · exact .inr ⟨by omega, hall⟩
  · rintro (⟨hv, hlast⟩ | ⟨hv, hall⟩)
    · refine ⟨hv, fun stop hs => ?_⟩
      have := hlong stop hs
      have := hlast last rfl
      omega
    · exact ⟨by omega, hall⟩

end Meeting

/-! ## A whole sweep -/

/-- In the order of their starts and without a wildcard. -/
structure Ordered (l : List Subinterval) : Prop where
  sorted : l.Pairwise fun s t => s.start ≤ t.start
  ne_wildcard : ∀ s ∈ l, s ≠ .wildcard

namespace Ordered

variable {c n u : Subinterval} {rest : List Subinterval}

theorem start_le (h : Ordered (c :: rest)) : ∀ s ∈ rest, c.start ≤ s.start :=
  (List.pairwise_cons.mp h.sorted).1

theorem head (h : Ordered (c :: rest)) : c ≠ .wildcard := h.ne_wildcard c List.mem_cons_self

theorem tail (h : Ordered (c :: rest)) : Ordered rest :=
  ⟨(List.pairwise_cons.mp h.sorted).2, fun s hs => h.ne_wildcard s (List.mem_cons_of_mem _ hs)⟩

theorem next_le (h : Ordered (c :: n :: rest)) : c.start ≤ n.start :=
  h.start_le n List.mem_cons_self

theorem next_ne_wildcard (h : Ordered (c :: n :: rest)) : n ≠ .wildcard := h.tail.head

/-- Both parts of the head may be replaced by a subinterval that starts with the first one. -/
theorem replace (h : Ordered (c :: n :: rest)) (hstart : u.start = c.start) (hu : u ≠ .wildcard) :
    Ordered (u :: rest) := by
  refine ⟨List.pairwise_cons.mpr ⟨fun s hs => ?_, h.tail.tail.sorted⟩, fun s hs => ?_⟩
  · rw [hstart]
    exact h.start_le s (List.mem_cons_of_mem _ hs)
  · rcases List.mem_cons.mp hs with rfl | hs
    · exact hu
    · exact h.tail.tail.ne_wildcard s hs

end Ordered

variable {current : Subinterval} {rest l : List Subinterval} {v : Int}

/-- A sweep keeps the set of integers. -/
theorem covers_sweep (h : Ordered (current :: rest)) :
    Covers (sweep current rest).value v ↔ Covers (current :: rest) v := by
  induction current, rest using sweep_induction with
  | nil current => simp [sweep_nil]
  | endless current next rest hm =>
    rw [sweep_of_endless hm]
    simp only [Logged.value_pure, covers_cons, covers_nil, or_false]
    refine ⟨.inl, ?_⟩
    rintro (hv | hv)
    · exact hv
    · obtain ⟨s, hs, hv⟩ := covers_cons.mpr hv
      exact mem_of_last?_eq_none (last?_of_meeting_endless hm) (h.tail.ne_wildcard s hs)
        (h.start_le s hs) hv
  | apart current next rest hm ih =>
    rw [sweep_of_apart hm]
    simp only [Logged.value_map, covers_cons, ih h.tail]
  | covered current next rest hm ih =>
    rw [sweep_of_covered hm, ih (h.replace rfl h.head)]
    simp only [covers_cons]
    constructor
    · rintro (hv | hv)
      · exact .inl hv
      · exact .inr (.inr hv)
    · rintro (hv | hv | hv)
      · exact .inl hv
      · exact .inl (mem_of_meeting_covered hm h.next_ne_wildcard h.next_le hv)
      · exact .inr hv
  | extended current next rest union hm ih =>
    have hu := extends_of_meeting hm
    rw [sweep_of_extended hm]
    simp only [Logged.value_bind, ih (h.replace hu.start hu.ne_wildcard), covers_cons,
      hu.mem_iff h.head h.next_ne_wildcard h.next_le, or_assoc]

/-- Nothing in a sweep starts before the current subinterval. -/
theorem start_le_of_mem_sweep (h : Ordered (current :: rest)) :
    ∀ s ∈ (sweep current rest).value, current.start ≤ s.start := by
  induction current, rest using sweep_induction with
  | nil current => simp [sweep_nil]
  | endless current next rest hm => simp [sweep_of_endless hm]
  | apart current next rest hm ih =>
    rw [sweep_of_apart hm]
    intro s hs
    rcases List.mem_cons.mp hs with rfl | hs
    · exact Nat.le_refl _
    · exact Nat.le_trans h.next_le (ih h.tail s hs)
  | covered current next rest hm ih =>
    rw [sweep_of_covered hm]
    exact ih (h.replace rfl h.head)
  | extended current next rest union hm ih =>
    have hu := extends_of_meeting hm
    rw [sweep_of_extended hm, ← hu.start]
    exact ih (h.replace hu.start hu.ne_wildcard)

/-- The result of a sweep is a normal form. -/
theorem normal_sweep (h : Ordered (current :: rest)) : Normal (sweep current rest).value := by
  induction current, rest using sweep_induction with
  | nil current => exact List.pairwise_singleton ..
  | endless current next rest hm =>
    rw [sweep_of_endless hm]
    exact List.pairwise_singleton ..
  | apart current next rest hm ih =>
    rw [sweep_of_apart hm]
    refine List.pairwise_cons.mpr ⟨fun s hs => ?_, ih h.tail⟩
    obtain ⟨last, hl, hlt⟩ := meeting_eq_apart_iff.mp hm
    exact ⟨last, hl, Nat.lt_of_lt_of_le hlt (start_le_of_mem_sweep h.tail s hs)⟩
  | covered current next rest hm ih =>
    rw [sweep_of_covered hm]
    exact ih (h.replace rfl h.head)
  | extended current next rest union hm ih =>
    have hu := extends_of_meeting hm
    rw [sweep_of_extended hm]
    exact ih (h.replace hu.start hu.ne_wildcard)

/-- The two subintervals at the front may be replaced by one with a start and a last number of
theirs. -/
theorem forall_mem_replace {c n u : Subinterval} {P : Nat → Prop} {Q : Option Nat → Prop}
    (h : ∀ s ∈ c :: n :: rest, P s.start ∧ Q s.last?) (hstart : u.start = c.start)
    (hlast : u.last? = c.last? ∨ u.last? = n.last?) : ∀ s ∈ u :: rest, P s.start ∧ Q s.last? := by
  obtain ⟨hc, hrest⟩ := List.forall_mem_cons.mp h
  obtain ⟨hn, hrest⟩ := List.forall_mem_cons.mp hrest
  refine List.forall_mem_cons.mpr ⟨⟨hstart ▸ hc.1, ?_⟩, hrest⟩
  rcases hlast with hlast | hlast
  · exact hlast ▸ hc.2
  · exact hlast ▸ hn.2

/-- A sweep invents no endpoints: what holds of all starts and of all last numbers still does. -/
theorem forall_mem_sweep {P : Nat → Prop} {Q : Option Nat → Prop}
    (h : ∀ s ∈ current :: rest, P s.start ∧ Q s.last?) :
    ∀ s ∈ (sweep current rest).value, P s.start ∧ Q s.last? := by
  induction current, rest using sweep_induction with
  | nil current => exact h
  | endless current next rest hm =>
    rw [sweep_of_endless hm]
    exact List.forall_mem_singleton.mpr (h current List.mem_cons_self)
  | apart current next rest hm ih =>
    rw [sweep_of_apart hm]
    obtain ⟨hc, hrest⟩ := List.forall_mem_cons.mp h
    exact List.forall_mem_cons.mpr ⟨hc, ih hrest⟩
  | covered current next rest hm ih =>
    rw [sweep_of_covered hm]
    exact ih (forall_mem_replace h rfl (.inl rfl))
  | extended current next rest union hm ih =>
    have hu := extends_of_meeting hm
    rw [sweep_of_extended hm]
    exact ih (forall_mem_replace h hu.start (.inr hu.last))

/-! ## Merging -/

theorem any_isWildcard_iff : l.any isWildcard = true ↔ .wildcard ∈ l := by
  rw [List.any_eq_true]
  constructor
  · rintro ⟨s, hs, hw⟩
    cases s <;> simp_all [isWildcard, kind]
  · exact fun h => ⟨.wildcard, h, rfl⟩

/-- Sorting puts a list without a wildcard in order. -/
theorem ordered_mergeSort (h : .wildcard ∉ l) : Ordered (l.mergeSort startsBefore) := by
  constructor
  · have htrans : ∀ a b c : Subinterval, startsBefore a b = true → startsBefore b c = true →
        startsBefore a c = true := by
      simp only [startsBefore, decide_eq_true_eq]
      omega
    have htotal : ∀ a b : Subinterval, (startsBefore a b || startsBefore b a) = true := by
      simp only [startsBefore, Bool.or_eq_true, decide_eq_true_eq]
      omega
    have hs := List.pairwise_mergeSort htrans htotal l
    exact hs.imp fun hst => by simpa [startsBefore] using hst
  · intro s hs hw
    rw [List.mem_mergeSort] at hs
    exact h (hw ▸ hs)

theorem covers_mergeSort : Covers (l.mergeSort startsBefore) v ↔ Covers l v := by
  simp only [Covers, List.mem_mergeSort]

/-- Without a wildcard, sorting a list that is not empty leaves an ordered one with a first
subinterval. -/
theorem exists_mergeSort_eq_cons (h : .wildcard ∉ l) :
    l = [] ∨ ∃ first rest, l.mergeSort startsBefore = first :: rest ∧
      Ordered (first :: rest) := by
  have hlength : (l.mergeSort startsBefore).length = l.length := List.length_mergeSort l
  have hord := ordered_mergeSort h
  cases hs : l.mergeSort startsBefore with
  | nil =>
    rw [hs] at hlength
    exact .inl (List.eq_nil_of_length_eq_zero hlength.symm)
  | cons first rest => exact .inr ⟨first, rest, rfl, hs ▸ hord⟩

section MergeBy

variable {m : Type → Type} [Monad m] {meet : Subinterval → Subinterval → m Meeting}
  {nothing : m (List Subinterval)} {first : Subinterval}

/-- A wildcard is all that a merge comes to, whatever its meetings are. -/
theorem mergeBy_of_wildcard (h : .wildcard ∈ l) : mergeBy meet nothing l = pure [.wildcard] := by
  cases l with
  | nil => cases h
  | cons s l => simp [mergeBy, any_isWildcard_iff.mpr h]

/-- Without a wildcard, a merge is a sweep, whatever its meetings are. -/
theorem mergeBy_eq_sweepBy (h : .wildcard ∉ l) (hs : l.mergeSort startsBefore = first :: rest) :
    mergeBy meet nothing l = sweepBy meet first rest := by
  have hw : l.any isWildcard = false := by rwa [← Bool.not_eq_true, any_isWildcard_iff]
  cases l with
  | nil => simp at hs
  | cons s l => simp [mergeBy, hw, hs]

theorem merge_eq_sweep (h : .wildcard ∉ l) (hs : l.mergeSort startsBefore = first :: rest) :
    merge l = (sweep first rest).value :=
  congrArg Logged.value (mergeBy_eq_sweepBy h hs)

end MergeBy

/-- A merge is a normal form. -/
theorem normal_merge : Normal (merge l) := by
  by_cases hw : .wildcard ∈ l
  · rw [merge_of_wildcard (any_isWildcard_iff.mpr hw)]
    exact List.pairwise_singleton ..
  · obtain rfl | ⟨first, rest, hs, hord⟩ := exists_mergeSort_eq_cons hw
    · exact List.Pairwise.nil
    · rw [merge_eq_sweep hw hs]
      exact normal_sweep hord

/-- A merge keeps the set of integers. -/
theorem covers_merge : Covers (merge l) v ↔ Covers l v := by
  by_cases hw : .wildcard ∈ l
  · rw [merge_of_wildcard (any_isWildcard_iff.mpr hw)]
    simp only [covers_cons, mem_wildcard, true_or, true_iff]
    exact ⟨.wildcard, hw, mem_wildcard⟩
  · obtain rfl | ⟨first, rest, hs, hord⟩ := exists_mergeSort_eq_cons hw
    · rw [merge_nil]
    · rw [merge_eq_sweep hw hs, covers_sweep hord, ← hs, covers_mergeSort]

/-- Every subinterval holds an integer, so that a merge is empty only for an empty list. -/
theorem merge_eq_nil_iff : merge l = [] ↔ l = [] := by
  constructor
  · intro h
    cases l with
    | nil => rfl
    | cons s l =>
      have hv : Covers (merge (s :: l)) s.start :=
        covers_merge.mpr (covers_cons.mpr (.inl s.start_mem))
      rw [h] at hv
      exact absurd hv covers_nil
  · rintro rfl
    exact merge_nil

/-- A merge invents no endpoints. -/
theorem forall_mem_merge {P : Nat → Prop} {Q : Option Nat → Prop}
    (h : ∀ s ∈ l, P s.start ∧ Q s.last?) : ∀ s ∈ merge l, P s.start ∧ Q s.last? := by
  by_cases hw : .wildcard ∈ l
  · rw [merge_of_wildcard (any_isWildcard_iff.mpr hw)]
    exact List.forall_mem_singleton.mpr (h _ hw)
  · obtain rfl | ⟨first, rest, hs, -⟩ := exists_mergeSort_eq_cons hw
    · exact h
    · rw [merge_eq_sweep hw hs]
      refine forall_mem_sweep fun s hmem => h s ?_
      rwa [← hs, List.mem_mergeSort] at hmem

end Subinterval

end IntervalExpr
