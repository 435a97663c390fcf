import IntervalExpr.Proofs.RoundTrip
import IntervalExpr.Proofs.Totality

/-!
# Endpoints and distances

Merging rebuilds subintervals from endpoints that were there before. The only numbers it computes
are the distances by which it decides what to put together, and these too lie between endpoints of
the list. So all numbers stay in the range in which they were read.

* `exists_last?_eq_none_iff`, `exists_unbounded_mem_merge_iff`: a set goes on for ever exactly if
  one of its subintervals does.
* `measure`, `measuredMerge`: merging with a record of the distances.
* `value_sweepBy_congr`, `value_measuredMerge`: nothing but the recorded distances decides.
* `forall_mem_events_measuredMerge`: every distance is one between endpoints of the list.
* `Expression.endpoints_exact`: where endpoints come from, and how large numbers can get.
-/

namespace IntervalExpr

namespace Subinterval

variable {s current next : Subinterval} {rest l : List Subinterval}

/-! ## Sets that go on for ever -/

theorem ne_wildcard_of_last? {last : Nat} (h : s.last? = some last) : s ≠ .wildcard := by
  rintro rfl
  cases h

theorem last?_eq_none_iff : s.last? = none ↔ s.kind = .unbounded ∨ s = .wildcard := by
  cases s <;> simp [last?, kind]

/-- Where every subinterval has a last number, the set has an upper bound. -/
theorem exists_bound (h : ∀ s ∈ l, s.last? ≠ none) :
    ∃ bound : Int, ∀ v, Covers l v → v ≤ bound := by
  induction l with
  | nil => exact ⟨0, fun v hv => absurd hv covers_nil⟩
  | cons s l ih =>
    obtain ⟨hs, hl⟩ := List.forall_mem_cons.mp h
    obtain ⟨last, hlast⟩ := Option.ne_none_iff_exists'.mp hs
    obtain ⟨bound, hbound⟩ := ih hl
    refine ⟨max last bound, fun v hv => ?_⟩
    rcases covers_cons.mp hv with hv | hv
    · have := ((mem_iff (ne_wildcard_of_last? hlast)).mp hv).2 last hlast
      omega
    · have := hbound v hv
      omega

/-- A set goes on for ever exactly if one of its subintervals has no last number. -/
theorem exists_last?_eq_none_iff :
    (∃ s ∈ l, s.last? = none) ↔ ∀ v : Int, ∃ w, v < w ∧ Covers l w := by
  constructor
  · rintro ⟨s, hs, hlast⟩ v
    refine ⟨max (v + 1) s.start, by omega, s, hs, ?_⟩
    rcases last?_eq_none_iff.mp hlast with hkind | rfl
    · refine (mem_iff ?_).mpr ⟨by omega, by simp [hlast]⟩
      rintro rfl
      cases hkind
    · exact mem_wildcard
  · intro h
    by_contra hnone
    obtain ⟨bound, hbound⟩ := exists_bound fun s hs hlast => hnone ⟨s, hs, hlast⟩
    obtain ⟨w, hlt, hw⟩ := h bound
    have := hbound w hw
    omega

/-- Without a wildcard, a merge has an unbounded member exactly if one was merged. -/
theorem exists_unbounded_mem_merge_iff (h : .wildcard ∉ l) :
    (∃ s ∈ merge l, s.kind = .unbounded) ↔ ∃ s ∈ l, s.kind = .unbounded := by
  have hendless : ∀ m : List Subinterval, .wildcard ∉ m →
      ((∃ s ∈ m, s.kind = .unbounded) ↔ ∀ v : Int, ∃ w, v < w ∧ Covers m w) := by
    intro m hm
    rw [← exists_last?_eq_none_iff]
    apply exists_congr
    intro s
    apply and_congr_right
    intro hs
    rw [last?_eq_none_iff, or_iff_left]
    rintro rfl
    exact hm hs
  rw [hendless l h, hendless (merge l) (mt wildcard_mem_merge_iff.mp h)]
  simp only [covers_merge]

/-! ## Distances -/

/-- The distance to the next subinterval, which is recorded. -/
def measure (last : Nat) (next : Subinterval) : Logged Int Int := do
  .tell (distance last next)
  return distance last next

/-- Merges a list of subintervals, and records the distances. -/
def measuredMerge : List Subinterval → Logged Int (List Subinterval) :=
  mergeBy (meetingBy measure) (pure [])

/-- Two subintervals meet by the distance that is measured. -/
theorem value_meetingBy_measure :
    (meetingBy measure current next).value = meeting current next := by
  cases current <;> rfl

theorem value_meetLogged : (meetLogged current next).value = meeting current next := by
  unfold meetLogged
  split <;> simp_all

section Congruence

variable {ε δ : Type} {meet : Subinterval → Subinterval → Logged ε Meeting}
  {other : Subinterval → Subinterval → Logged δ Meeting}

/-- The outcomes of the meetings decide on a sweep, whatever is recorded at them. -/
theorem value_sweepBy_congr (h : ∀ s t, (meet s t).value = (other s t).value) :
    (sweepBy meet current rest).value = (sweepBy other current rest).value := by
  induction rest generalizing current with
  | nil => rfl
  | cons next rest ih =>
    rw [sweepBy, sweepBy, Logged.value_bind, Logged.value_bind, h]
    cases (other current next).value with
    | endless => rfl
    | apart => exact congrArg (current :: ·) ih
    | covered => exact ih
    | extended union => exact ih

theorem value_mergeBy_congr (h : ∀ s t, (meet s t).value = (other s t).value) :
    (mergeBy meet (pure []) l).value = (mergeBy other (pure []) l).value := by
  by_cases hw : .wildcard ∈ l
  · rw [mergeBy_of_wildcard hw, mergeBy_of_wildcard hw]
    rfl
  · obtain rfl | ⟨first, rest, hs, -⟩ := exists_mergeSort_eq_cons hw
    · rfl
    · rw [mergeBy_eq_sweepBy hw hs, mergeBy_eq_sweepBy hw hs, value_sweepBy_congr h]

end Congruence

/-- The distances decide on a merge, and on nothing else than before. -/
theorem value_measuredMerge (l : List Subinterval) : (measuredMerge l).value = merge l :=
  value_mergeBy_congr fun _ _ => value_meetingBy_measure.trans value_meetLogged.symm

section Measured

variable {P : Nat → Prop} {Q : Option Nat → Prop}

/-- Where two subintervals meet, a distance is measured only from a last number. -/
theorem forall_mem_events_meetingBy (h : ∀ s ∈ current :: next :: rest, P s.start ∧ Q s.last?) :
    ∀ d ∈ (meetingBy measure current next).events,
      ∃ start last, P start ∧ Q (some last) ∧ d = (start : Int) - last := by
  obtain ⟨hc, hrest⟩ := List.forall_mem_cons.mp h
  obtain ⟨hn, -⟩ := List.forall_mem_cons.mp hrest
  cases current with
  | bounded first last ordered =>
    intro d hd
    exact ⟨next.start, last, hn.1, hc.2, List.mem_singleton.mp hd⟩
  | unbounded first => exact List.forall_mem_nil _
  | wildcard => exact List.forall_mem_nil _

/-- A distance that a sweep measures is one from a last number to a start: what holds of all starts
and of all last numbers in the list holds of these two. -/
theorem forall_mem_events_sweepBy (h : ∀ s ∈ current :: rest, P s.start ∧ Q s.last?) :
    ∀ d ∈ (sweepBy (meetingBy measure) current rest).events,
      ∃ start last, P start ∧ Q (some last) ∧ d = (start : Int) - last := by
  induction rest generalizing current with
  | nil => exact List.forall_mem_nil _
  | cons next rest ih =>
    rw [sweepBy, Logged.events_bind, value_meetingBy_measure, List.forall_mem_append]
    refine ⟨forall_mem_events_meetingBy h, ?_⟩
    cases hm : meeting current next with
    | endless => exact List.forall_mem_nil _
    | apart => exact ih (List.forall_mem_cons.mp h).2
    | covered => exact ih (forall_mem_replace h rfl (.inl rfl))
    | extended union =>
      have hu := extends_of_meeting hm
      exact ih (forall_mem_replace h hu.start (.inr hu.last))

/-- A distance that a merge measures is one from a last number to a start, both from the list. -/
theorem forall_mem_events_measuredMerge (l : List Subinterval) :
    ∀ d ∈ (measuredMerge l).events,
      ∃ s ∈ l, ∃ t ∈ l, ∃ last, s.last? = some last ∧ d = distance last t := by
  unfold measuredMerge
  by_cases hw : .wildcard ∈ l
  · rw [mergeBy_of_wildcard hw]
    exact List.forall_mem_nil _
  · obtain rfl | ⟨first, rest, hs, -⟩ := exists_mergeSort_eq_cons hw
    · exact List.forall_mem_nil _
    · have hself : ∀ s ∈ first :: rest,
          (∃ t ∈ l, t.start = s.start) ∧ ∃ t ∈ l, t.last? = s.last? := by
        intro s hmem
        rw [← hs, List.mem_mergeSort] at hmem
        exact ⟨⟨s, hmem, rfl⟩, s, hmem, rfl⟩
      rw [mergeBy_eq_sweepBy hw hs]
      intro d hd
      obtain ⟨start, last, ⟨t, ht, rfl⟩, ⟨s, hsl, hlast⟩, rfl⟩ :=
        forall_mem_events_sweepBy (P := fun start => ∃ t ∈ l, t.start = start)
          (Q := fun last? => ∃ t ∈ l, t.last? = last?) hself d hd
      exact ⟨s, hsl, t, ht, last, hlast, rfl⟩

end Measured

/-! ## Ranges -/

/-- A bounded subinterval ends as many numbers behind its start as it holds, the start included. -/
theorem start_add_count {last : Nat} (h : s.last? = some last) : s.start + s.count = last + 1 := by
  cases s with
  | bounded first last' ordered =>
    obtain rfl := Option.some.inj h
    simp only [start, count]
    omega
  | unbounded first => cases h
  | wildcard => cases h

/-- In range, a bounded subinterval holds no more than `2 ^ 63` numbers. -/
theorem InRange.count_le (h : s.InRange) : s.count ≤ 2 ^ 63 := by
  cases hlast : s.last? with
  | some last =>
    have := start_add_count hlast
    have := h.last_le last hlast
    unfold maxValue at this
    omega
  | none =>
    cases s with
    | bounded first last ordered => cases hlast
    | unbounded first => exact Nat.zero_le _
    | wildcard => exact Nat.zero_le _

/-- In range, every distance that a merge measures is a signed number of 64 bits. -/
theorem lt_of_mem_events_measuredMerge (h : ∀ s ∈ l, s.InRange) {d : Int}
    (hd : d ∈ (measuredMerge l).events) : -2 ^ 63 < d ∧ d < 2 ^ 63 := by
  obtain ⟨s, hs, t, ht, last, hlast, rfl⟩ := forall_mem_events_measuredMerge l d hd
  have hstop := (h s hs).last_le last hlast
  have hstart := (h t ht).start_le
  unfold maxValue at hstop hstart
  unfold distance
  omega

end Subinterval

namespace Expression

open Subinterval (merge measuredMerge)

/-- Merging takes every start and every last number from the list, and without a wildcard it comes
to an unbounded subinterval exactly if there is one in the list. So in every expression that
parsing, normalizing, putting in a row and reading back lead to, the endpoints are among the numbers
that are read, a bounded subinterval holds no more than `2 ^ 63` numbers, and the distances by which
a merge decides are less than that. -/
theorem endpoints_exact :
    (∀ l : List Subinterval,
      (∀ s ∈ merge l, (∃ t ∈ l, t.start = s.start) ∧
        ∀ last, s.last? = some last → ∃ t ∈ l, t.last? = some last) ∧
      (.wildcard ∉ l →
        ((∃ s ∈ merge l, s.kind = .unbounded) ↔ ∃ s ∈ l, s.kind = .unbounded))) ∧
    (∀ l, (measuredMerge l).value = merge l) ∧
    ∀ e : Expression, e.Reachable →
      (∀ s ∈ e.subintervals, s.start ≤ 2 ^ 63 - 1 ∧
        (∀ last, s.last? = some last → s.start ≤ last ∧ last ≤ 2 ^ 63 - 1 ∧
          s.start + s.count = last + 1) ∧
        (s.kind = .bounded → 1 ≤ s.count ∧ s.count ≤ 2 ^ 63)) ∧
      ∀ d ∈ (measuredMerge e.subintervals).events, -2 ^ 63 < d ∧ d < 2 ^ 63 := by
  refine ⟨fun l => ⟨fun s hs => ?_, Subinterval.exists_unbounded_mem_merge_iff⟩,
    Subinterval.value_measuredMerge, fun e he => ⟨fun s hs => ?_, fun d hd => ?_⟩⟩
  · obtain ⟨hstart, t, ht, hlast⟩ := Subinterval.forall_mem_merge
      (P := fun start => ∃ t ∈ l, t.start = start) (Q := fun last? => ∃ t ∈ l, t.last? = last?)
      (fun t ht => ⟨⟨t, ht, rfl⟩, t, ht, rfl⟩) s hs
    exact ⟨hstart, fun last h => ⟨t, ht, hlast.trans h⟩⟩
  · have hs := he.legible.inRange s hs
    refine ⟨hs.start_le, fun last hlast => ⟨Subinterval.start_le_last hlast,
      hs.last_le last hlast, Subinterval.start_add_count hlast⟩, fun hkind => ?_⟩
    exact ⟨Subinterval.one_le_count hkind, hs.count_le⟩
  · exact Subinterval.lt_of_mem_events_measuredMerge he.legible.inRange hd

/-- The greatest range of all holds `2 ^ 63` numbers, and a distance from its end goes a long way
back. -/
theorem endpoints_exact_greatest_range :
    .wildcard ∉ [Subinterval.bounded 4 6 (by decide), .bounded 0 0x7fffffffffffffff (by decide)] ∧
    Reachable ⟨[.bounded 4 6 (by decide), .bounded 0 0x7fffffffffffffff (by decide)], .default⟩ ∧
    (¬ ∃ s ∈ merge [.bounded 4 6 (by decide), .bounded 0 0x7fffffffffffffff (by decide)],
      s.kind = .unbounded) ∧
    (Subinterval.bounded 0 0x7fffffffffffffff (by decide)).count ≤ 2 ^ 63 ∧
    -2 ^ 63 < (4 - 0x7fffffffffffffff : Int) := by
  have hw : .wildcard ∉
      [Subinterval.bounded 4 6 (by decide), .bounded 0 0x7fffffffffffffff (by decide)] := by decide
  have hread : parse "4-6,0-9223372036854775807" .default =
      .ok ⟨[.bounded 4 6 (by decide), .bounded 0 0x7fffffffffffffff (by decide)], .default⟩ := by
    cbv
  have hevents : (measuredMerge [.bounded 4 6 (by decide),
      .bounded 0 0x7fffffffffffffff (by decide)]).events = [4 - 0x7fffffffffffffff] := by cbv
  obtain ⟨hmerge, -, hreach⟩ := endpoints_exact
  obtain ⟨hnumbers, hdistances⟩ := hreach _ (.parse hread)
  rw [hevents] at hdistances
  refine ⟨hw, .parse hread, ?_, ?_, (hdistances _ List.mem_cons_self).1⟩
  · rw [(hmerge _).2 hw]
    simp [Subinterval.kind]
  · exact ((hnumbers _ (List.mem_cons_of_mem _ List.mem_cons_self)).2.2 rfl).2

end Expression

end IntervalExpr
