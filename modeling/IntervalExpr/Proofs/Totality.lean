import Mathlib
import IntervalExpr.Proofs.Sweep
import IntervalExpr.Subinterval.Description

/-!
# Merging with every check made

A merge asks for the last number of a subinterval that may have none, and for new subintervals by
their bounds. Here each of these requests may be refused. In a list of any subintervals none of them
is, so that the checks change nothing, and the result is well formed.

* `Obstacle`: what a merge might ask for in vain.
* `checkedMeeting`, `checkedMerge`: merging, stopped by the first obstacle.
* `checkedUnion_eq`, `checkedMeeting_eq`: one meeting has none, unless with a wildcard.
* `sweepBy_checkedMeeting`, `checkedMerge_eq`: a whole sweep and a merge have none.
* `merge_total`: what a merge looks like.
-/

namespace IntervalExpr

namespace Subinterval

/-! ## Checks -/

/-- What a merge might ask for in vain. -/
inductive Obstacle where
  /-- The first of no subintervals. -/
  | nothing
  /-- The last number of a subinterval that has none. -/
  | noLast (subinterval : Subinterval)
  /-- A subinterval with bounds that no subinterval has. -/
  | refused (error : BuildError)
  deriving DecidableEq

/-- The last number of a subinterval. -/
def needLast (s : Subinterval) : Except Obstacle Int :=
  match s.last? with
  | some last => .ok last
  | none => .error (.noLast s)

/-- The subinterval asked for. -/
def needBuild (description : Description) : Except Obstacle Subinterval :=
  description.build.mapError .refused

/-- What becomes of the current subinterval where the next one overlaps or touches it. -/
def checkedUnion (current : Subinterval) (last : Int) (next : Subinterval) :
    Except Obstacle Meeting :=
  if next.isUnbounded then do
    let union ← needBuild (.unbounded current.start)
    return .extended union
  else do
    let stop ← needLast next
    if last < stop then
      let union ← needBuild (.span current.start stop)
      return .extended union
    else return .covered

/-- How `next` relates to the current subinterval. Only an unbounded one is known to have no end
before its last number is asked for. -/
def checkedMeeting (current next : Subinterval) : Except Obstacle Meeting :=
  if current.isUnbounded then .ok .endless
  else do
    let last ← needLast current
    if next.start - last ≤ 1 then checkedUnion current last next
    else return .apart

/-- Merges a list of subintervals, stopped by the first obstacle. -/
def checkedMerge : List Subinterval → Except Obstacle (List Subinterval) :=
  mergeBy checkedMeeting (.error .nothing)

/-! ## Without obstacles -/

variable {current next : Subinterval} {rest l : List Subinterval}

theorem needBuild_unbounded (first : Nat) :
    needBuild (.unbounded first) = .ok (.unbounded first) := by
  have h := build_description (.unbounded first)
  simp only [description] at h
  rw [needBuild, h]
  rfl

/-- A span is built if it does not end before it starts. -/
theorem needBuild_span {first last : Nat} (h : first ≤ last) :
    needBuild (.span first last) = .ok (.bounded first last h) := by
  have hcount : (last : Int) - first + 1 = (last - first + 1 : Nat) := by omega
  have hb := build_description (.bounded first last h)
  simp only [description, count, Description.build] at hb
  rw [needBuild, Description.build, hcount, hb]
  rfl

/-- Where two subintervals other than the wildcard touch, the last number of the next one is asked
for only if it is bounded, and the union starts before it ends. -/
theorem checkedUnion_eq {first last : Nat} (ordered : first ≤ last) (hn : next ≠ .wildcard)
    (htouch : distance last next ≤ 1) :
    checkedUnion (.bounded first last ordered) last next =
      .ok (meeting (.bounded first last ordered) next) := by
  rw [meeting_bounded, if_pos htouch]
  cases next with
  | wildcard => exact absurd rfl hn
  | unbounded first' =>
    show needBuild (.unbounded first) >>= _ = _
    rw [needBuild_unbounded]
    rfl
  | bounded first' stop ordered' =>
    show (if (last : Int) < stop then needBuild (.span first stop) >>= _ else _) = _
    simp only [joined, last?]
    by_cases hlt : last < stop
    · rw [if_pos (by omega), dif_pos hlt, needBuild_span (by omega)]
      rfl
    · rw [if_neg (by omega), dif_neg hlt]
      rfl

/-- Two subintervals other than the wildcard meet without an obstacle: the last number of the
current one is asked for only if it is bounded. -/
theorem checkedMeeting_eq (hc : current ≠ .wildcard) (hn : next ≠ .wildcard) :
    checkedMeeting current next = .ok (meeting current next) := by
  cases current with
  | wildcard => exact absurd rfl hc
  | unbounded first => rfl
  | bounded first last ordered =>
    show (if distance last next ≤ 1 then checkedUnion _ last next else _) = _
    by_cases htouch : distance last next ≤ 1
    · rw [if_pos htouch, checkedUnion_eq ordered hn htouch]
    · rw [if_neg htouch, meeting_bounded, if_neg htouch]
      rfl

/-- In the order of their starts and without a wildcard, subintervals are swept without an
obstacle. -/
theorem sweepBy_checkedMeeting (h : Ordered (current :: rest)) :
    sweepBy checkedMeeting current rest = .ok (sweep current rest).value := by
  induction rest generalizing current with
  | nil => rfl
  | cons next rest ih =>
    rw [sweepBy, checkedMeeting_eq h.head h.next_ne_wildcard]
    show resume (sweepBy checkedMeeting · rest) current next (meeting current next) = _
    cases hm : meeting current next with
    | endless =>
      rw [sweep_of_endless hm]
      rfl
    | apart =>
      rw [sweep_of_apart hm, resume, ih h.tail]
      rfl
    | covered =>
      rw [sweep_of_covered hm]
      exact ih (h.replace rfl h.head)
    | extended union =>
      have hu := extends_of_meeting hm
      rw [sweep_of_extended hm]
      exact ih (h.replace hu.start hu.ne_wildcard)

/-- A merge has no obstacle, whatever the subintervals. -/
theorem checkedMerge_eq (l : List Subinterval) : checkedMerge l = .ok (merge l) := by
  unfold checkedMerge
  by_cases hw : .wildcard ∈ l
  · rw [mergeBy_of_wildcard hw, merge_of_wildcard (any_isWildcard_iff.mpr hw)]
    rfl
  · obtain rfl | ⟨first, rest, hs, hord⟩ := exists_mergeSort_eq_cons hw
    · rfl
    · rw [mergeBy_eq_sweepBy hw hs, sweepBy_checkedMeeting hord, merge_eq_sweep hw hs]

/-! ## The shape of a merge -/

/-- Only a wildcard holds a negative number. -/
theorem covers_neg_iff {v : Int} (hv : v < 0) : Covers l v ↔ .wildcard ∈ l := by
  constructor
  · rintro ⟨s, hs, hmem⟩
    by_cases hw : s = .wildcard
    · exact hw ▸ hs
    · have := ((mem_iff hw).mp hmem).1
      omega
  · exact fun h => ⟨.wildcard, h, mem_wildcard⟩

theorem wildcard_mem_merge_iff : .wildcard ∈ merge l ↔ .wildcard ∈ l := by
  have hneg : (-1 : Int) < 0 := by decide
  rw [← covers_neg_iff hneg, covers_merge, covers_neg_iff hneg]

theorem merge_eq_wildcard_iff : merge l = [.wildcard] ↔ .wildcard ∈ l := by
  constructor
  · intro h
    rw [← wildcard_mem_merge_iff, h]
    exact List.mem_cons_self
  · exact fun h => merge_of_wildcard (any_isWildcard_iff.mpr h)

theorem Apart.kind_eq {s t : Subinterval} (h : Apart s t) : s.kind = .bounded := by
  obtain ⟨last, hlast, -⟩ := h
  cases s with
  | bounded first last ordered => rfl
  | unbounded first => cases hlast
  | wildcard => cases hlast

theorem kind_eq_wildcard_iff {s : Subinterval} : s.kind = .wildcard ↔ s = .wildcard := by
  cases s <;> simp [kind]

theorem one_le_count {s : Subinterval} (h : s.kind = .bounded) : 1 ≤ s.count := by
  cases s with
  | bounded first last ordered => exact Nat.le_add_left 1 (last - first)
  | unbounded first => cases h
  | wildcard => cases h

/-- A member of a merge is a wildcard exactly if one was merged. -/
theorem kind_eq_wildcard_of_mem_merge {s : Subinterval} (hs : s ∈ merge l) :
    s.kind = .wildcard ↔ .wildcard ∈ l := by
  rw [kind_eq_wildcard_iff]
  constructor
  · rintro rfl
    exact wildcard_mem_merge_iff.mp hs
  · intro hw
    rw [merge_eq_wildcard_iff.mpr hw] at hs
    exact List.mem_singleton.mp hs

/-- A merge comes to a list of subintervals without an obstacle. It is empty for an empty list only,
it is the wildcard if there is one, and otherwise it has none. A member that another one follows is
bounded, and the next one starts at least two above its last number; so the starts ascend, no two
members overlap or touch, and all but the last one are bounded. -/
theorem merge_total (l : List Subinterval) :
    checkedMerge l = .ok (merge l) ∧
    (merge l = [] ↔ l = []) ∧
    (merge l = [.wildcard] ↔ .wildcard ∈ l) ∧
    (∀ s ∈ merge l, (s.kind = .wildcard ↔ .wildcard ∈ l) ∧ 0 ≤ s.start ∧
      (s.kind = .bounded → 1 ≤ s.count)) ∧
    (∀ front left right back, merge l = front ++ left :: right :: back →
      left.kind = .bounded ∧ ∃ last, left.last? = some last ∧ last + 2 ≤ right.start) ∧
    (merge l).Pairwise fun s t =>
      s.kind = .bounded ∧ s.start < t.start ∧ ∀ v ∈ s, ∀ w ∈ t, v + 1 < w := by
  have hnormal : Normal (merge l) := normal_merge
  refine ⟨checkedMerge_eq l, merge_eq_nil_iff, merge_eq_wildcard_iff, fun s hs => ?_, ?_, ?_⟩
  · exact ⟨kind_eq_wildcard_of_mem_merge hs, Nat.zero_le _, one_le_count⟩
  · intro front left right back heq
    rw [heq, Normal, List.pairwise_append] at hnormal
    have hapart : Apart left right := Normal.apart hnormal.2.1 right List.mem_cons_self
    obtain ⟨last, hlast, hlt⟩ := hapart
    exact ⟨Apart.kind_eq ⟨last, hlast, hlt⟩, last, hlast, hlt⟩
  · refine hnormal.imp fun {s t} hapart => ⟨hapart.kind_eq, ?_, fun v hv w hw => hapart.lt hv hw⟩
    have := hapart.lt s.start_mem t.start_mem
    omega

/-- An unbounded subinterval comes in between, and swallows what starts after it. -/
theorem merge_total_unbounded :
    checkedMerge [.bounded 4 6 (by decide), .unbounded 9, .single 12, .bounded 1 2 (by decide)] =
      .ok [.bounded 1 2 (by decide), .bounded 4 6 (by decide), .unbounded 9] ∧
    (Subinterval.bounded 4 6 (by decide)).kind = .bounded ∧
    ∃ last, (Subinterval.bounded 4 6 (by decide)).last? = some last ∧
      last + 2 ≤ (Subinterval.unbounded 9).start := by
  have h := merge_total
    [.bounded 4 6 (by decide), .unbounded 9, .single 12, .bounded 1 2 (by decide)]
  have hmerge : merge [.bounded 4 6 (by decide), .unbounded 9, .single 12,
      .bounded 1 2 (by decide)] =
        [.bounded 1 2 (by decide), .bounded 4 6 (by decide), .unbounded 9] := by cbv
  rw [hmerge] at h
  exact ⟨h.1, h.2.2.2.2.1 [.bounded 1 2 (by decide)] _ _ [] rfl⟩

end Subinterval

end IntervalExpr
