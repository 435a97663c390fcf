import Mathlib.Data.List.Chain
import IntervalExpr.Proofs.Sweep
import IntervalExpr.Trace

/-!
# The extensions of a merge

A merge records each extension of its current subinterval. The record tells how the merge went: what
was extended by what, and, with the list that was merged, what came out.

* `Extends.exists_mem_union`, `Extends.toString_union`: what an extension adds, and how it is told.
* `Extension.lastFrom`: the last extension of the subinterval with a given start.
* `Extension.Sound`, `Extension.Follows`: what one extension says, and how two in a row are related.
* `Subinterval.sound_of_mem_events_sweep`, `isChain_events_sweep`: the record of a sweep, step by
  step.
* `Extension.settled`, `Subinterval.exists_starts_sweep`: the result of a sweep by its record.
* `Recounts`: what the record of a merge says of the merge.
* `Subinterval.mergeLogged_recounts`: every merge is recorded like that.
-/

namespace IntervalExpr

namespace Subinterval

/-! ## One extension -/

section Extends

variable {c n u : Subinterval}

theorem Extends.kind_eq (h : Extends c n u) : c.kind = .bounded := by
  obtain ⟨last, hlast, -⟩ := h.touching
  cases c with
  | bounded first last ordered => rfl
  | unbounded first => cases hlast
  | wildcard => cases hlast

/-- An extension holds the number after the last one of what it extends. -/
theorem Extends.exists_mem_union (h : Extends c n u) (hc : c ≠ .wildcard) :
    ∃ v, v ∈ u ∧ ¬ v ∈ c := by
  obtain ⟨last, hlast, htouch, hlong⟩ := h.touching
  have hle := start_le_last hlast
  refine ⟨last + 1, ?_, fun hv => ?_⟩
  · rw [Subinterval.mem_iff h.ne_wildcard, h.start, h.last]
    refine ⟨by omega, fun stop hstop => ?_⟩
    have := hlong stop hstop
    omega
  · have := ((Subinterval.mem_iff hc).mp hv).2 last hlast
    omega

/-- An extension is told by its two ends: it has no end, or ends after its start. -/
theorem Extends.toString_union (h : Extends c n u) :
    u.toString = toString c.start ++ "-" ++ n.last?.elim "" toString := by
  obtain ⟨last, hlast, htouch, hlong⟩ := h.touching
  have hle := start_le_last hlast
  rw [← h.start] at hle ⊢
  rw [← h.last] at hlong ⊢
  cases u with
  | bounded first stop ordered =>
    have hlt : last < stop := hlong stop rfl
    have hne : first ≠ stop := by
      simp only [Subinterval.start] at hle
      omega
    simp [Subinterval.toString, Subinterval.start, last?, hne]
  | unbounded first => simp [Subinterval.toString, Subinterval.start, last?]
  | wildcard => exact absurd rfl h.ne_wildcard

end Extends

end Subinterval

open Subinterval (Apart Ordered Extends merge mergeLogged sweep meeting startsBefore)

/-! ## Records -/

namespace Extension

/-- The last extension of the subinterval that starts with `start`, if it was extended. -/
def lastFrom (events : List Extension) (start : Nat) : Option Extension :=
  (events.filter (·.current.start = start)).getLast?

/-- What has become of a subinterval after its extensions. -/
def settled (events : List Extension) (s : Subinterval) : Subinterval :=
  (lastFrom events s.start).elim s Extension.union

/-- A bounded subinterval was extended by one of the list that does not start before it. The union
holds what the two of them hold, and more than the first one does; its ends are told. -/
structure Sound (l : List Subinterval) (x : Extension) : Prop where
  bounded : x.current.kind = .bounded
  next_mem : x.next ∈ l
  start_le : x.current.start ≤ x.next.start
  start_union : x.union.start = x.current.start
  mem_union_iff : ∀ v, v ∈ x.union ↔ v ∈ x.current ∨ v ∈ x.next
  exists_new : ∃ v, v ∈ x.union ∧ ¬ v ∈ x.current
  message : (Event.extended x).message =
    "Merge " ++ x.current.toString ++ " and " ++ x.next.toString ++ " into " ++
      (toString x.current.start ++ "-" ++ x.next.last?.elim "" toString)

/-- The next extension is one of the union, or of a member of the list that is apart from it. -/
def Follows (l : List Subinterval) (x y : Extension) : Prop :=
  y.current = x.union ∨ (y.current ∈ l ∧ Apart x.union y.current)

variable {events : List Extension} {x : Extension} {s : Subinterval} {start : Nat}

theorem lastFrom_eq_none_iff :
    lastFrom events start = none ↔ ∀ x ∈ events, x.current.start ≠ start := by
  simp [lastFrom]

theorem lastFrom_cons_of_ne (h : x.current.start ≠ start) :
    lastFrom (x :: events) start = lastFrom events start := by
  simp [lastFrom, h]

theorem lastFrom_cons_of_eq (h : x.current.start = start) :
    lastFrom (x :: events) start = some ((lastFrom events start).getD x) := by
  simp [lastFrom, h, List.getLast?_cons]

theorem of_lastFrom_eq_some (h : lastFrom events start = some x) :
    x ∈ events ∧ x.current.start = start := by
  simpa using List.mem_of_getLast? h

theorem settled_of_forall_ne (h : ∀ x ∈ events, x.current.start ≠ s.start) :
    settled events s = s := by
  rw [settled, lastFrom_eq_none_iff.mpr h]
  rfl

theorem settled_cons_of_ne (h : x.current.start ≠ s.start) :
    settled (x :: events) s = settled events s := by
  rw [settled, lastFrom_cons_of_ne h, settled]

/-- After its first extension a subinterval is what becomes of the union. -/
theorem settled_cons_current (h : x.union.start = x.current.start) :
    settled (x :: events) x.current = settled events x.union := by
  rw [settled, lastFrom_cons_of_eq rfl, settled, h]
  cases lastFrom events x.current.start <;> rfl

end Extension

open Extension (lastFrom settled Sound Follows)

/-- What a record of extensions says of the merge of a list. -/
structure Recounts (l : List Subinterval) (log : Logged Extension (List Subinterval)) : Prop where
  sound : ∀ x ∈ log.events, x.Sound l
  follows : log.events.IsChain (Follows l)
  first_mem : ∀ x, log.events.head? = some x → x.current ∈ l
  /-- What comes out was there before, or is what the last extension from its start led to. -/
  origin : ∀ s ∈ log.value, s ∈ l ∨ ∃ x, lastFrom log.events s.start = some x ∧ x.union = s
  /-- What the last extension from a start led to comes out. -/
  kept : ∀ x ∈ log.events, ∃ last, lastFrom log.events x.current.start = some last ∧
    last.union ∈ log.value
  /-- In the order of the sweep, some of the subintervals come out with all their extensions. -/
  replay : ∃ starts : List Subinterval, starts.Sublist (l.mergeSort startsBefore) ∧
    log.value = starts.map (settled log.events)

namespace Subinterval

variable {current next : Subinterval} {rest l : List Subinterval}

/-! ## The record of a sweep -/

theorem sound_of_meeting {union : Subinterval} (hm : meeting current next = .extended union)
    (h : Ordered (current :: next :: rest)) (hl : next ∈ l) :
    Sound l ⟨current, next, union⟩ := by
  have hu := extends_of_meeting hm
  constructor
  case bounded => exact hu.kind_eq
  case next_mem => exact hl
  case start_le => exact h.next_le
  case start_union => exact hu.start
  case mem_union_iff => exact fun v => hu.mem_iff h.head h.next_ne_wildcard h.next_le
  case exists_new => exact hu.exists_mem_union h.head
  case message => rw [← hu.toString_union]; rfl

/-- Every extension of a sweep is sound. -/
theorem sound_of_mem_events_sweep (h : Ordered (current :: rest)) (hl : ∀ s ∈ rest, s ∈ l) :
    ∀ x ∈ (sweep current rest).events, x.Sound l := by
  induction current, rest using sweep_induction with
  | nil current => exact List.forall_mem_nil _
  | endless current next rest hm =>
    rw [sweep_of_endless hm]
    exact List.forall_mem_nil _
  | apart current next rest hm ih =>
    rw [sweep_of_apart hm]
    exact ih h.tail (List.forall_mem_cons.mp hl).2
  | covered current next rest hm ih =>
    rw [sweep_of_covered hm]
    exact ih (h.replace rfl h.head) (List.forall_mem_cons.mp hl).2
  | extended current next rest union hm ih =>
    obtain ⟨hnext, hrest⟩ := List.forall_mem_cons.mp hl
    have hu := extends_of_meeting hm
    rw [events_sweep_of_extended hm]
    refine List.forall_mem_cons.mpr ⟨sound_of_meeting hm h hnext, ?_⟩
    exact ih (h.replace hu.start hu.ne_wildcard) hrest

/-- The first extension of a sweep is one of the current subinterval, or of one that is apart from
it; every further extension follows the one before it. -/
theorem isChain_events_sweep (h : Ordered (current :: rest)) (hl : ∀ s ∈ rest, s ∈ l) :
    (∀ x, (sweep current rest).events.head? = some x →
      x.current = current ∨ (x.current ∈ l ∧ Apart current x.current)) ∧
    (sweep current rest).events.IsChain (Follows l) := by
  induction current, rest using sweep_induction with
  | nil current => exact ⟨by simp [sweep_nil], .nil⟩
  | endless current next rest hm =>
    rw [sweep_of_endless hm]
    exact ⟨by simp, .nil⟩
  | apart current next rest hm ih =>
    obtain ⟨hnext, hrest⟩ := List.forall_mem_cons.mp hl
    obtain ⟨hfirst, hchain⟩ := ih h.tail hrest
    have hapart := meeting_eq_apart_iff.mp hm
    rw [sweep_of_apart hm]
    refine ⟨fun x hx => .inr ?_, hchain⟩
    obtain hx | ⟨hx, hlater⟩ := hfirst x hx
    · rw [hx]
      exact ⟨hnext, hapart⟩
    · exact ⟨hx, hapart.trans hlater⟩
  | covered current next rest hm ih =>
    rw [sweep_of_covered hm]
    exact ih (h.replace rfl h.head) (List.forall_mem_cons.mp hl).2
  | extended current next rest union hm ih =>
    have hu := extends_of_meeting hm
    obtain ⟨hfirst, hchain⟩ :=
      ih (h.replace hu.start hu.ne_wildcard) (List.forall_mem_cons.mp hl).2
    rw [events_sweep_of_extended hm]
    refine ⟨fun x hx => .inl ?_, List.isChain_cons.mpr ⟨hfirst, hchain⟩⟩
    cases hx
    rfl

/-- The result of a sweep by its record: some of the subintervals with ascending starts, the current
one first, each with all its extensions; and no other has extensions. -/
theorem exists_starts_sweep (h : Ordered (current :: rest)) : ∃ starts,
    starts.Sublist rest ∧ (∀ s ∈ starts, current.start < s.start) ∧
    (sweep current rest).value = (current :: starts).map (settled (sweep current rest).events) ∧
    ∀ x ∈ (sweep current rest).events, ∃ s ∈ current :: starts, x.current.start = s.start := by
  induction current, rest using sweep_induction with
  | nil current => exact ⟨[], List.nil_sublist _, List.forall_mem_nil _, rfl, List.forall_mem_nil _⟩
  | endless current next rest hm =>
    rw [sweep_of_endless hm]
    exact ⟨[], List.nil_sublist _, List.forall_mem_nil _, rfl, List.forall_mem_nil _⟩
  | apart current next rest hm ih =>
    obtain ⟨starts, hsub, hlt, hvalue, hevents⟩ := ih h.tail
    have hnext : current.start < next.start := by
      obtain ⟨last, hlast, hgap⟩ := meeting_eq_apart_iff.mp hm
      have := start_le_last hlast
      omega
    have hall : ∀ s ∈ next :: starts, current.start < s.start :=
      List.forall_mem_cons.mpr ⟨hnext, fun s hs => Nat.lt_trans hnext (hlt s hs)⟩
    rw [sweep_of_apart hm, Logged.value_map, Logged.events_map]
    refine ⟨next :: starts, hsub.cons_cons next, hall, ?_, fun x hx => ?_⟩
    · -- The current subinterval is left for good, and no later one has its start.
      have hsettled : settled (sweep next rest).events current = current := by
        refine Extension.settled_of_forall_ne fun x hx => ?_
        obtain ⟨s, hs, heq⟩ := hevents x hx
        have := hall s hs
        omega
      rw [List.map_cons, hsettled, hvalue]
    · obtain ⟨s, hs, heq⟩ := hevents x hx
      exact ⟨s, List.mem_cons_of_mem _ hs, heq⟩
  | covered current next rest hm ih =>
    obtain ⟨starts, hsub, hlt, hvalue, hevents⟩ := ih (h.replace rfl h.head)
    rw [sweep_of_covered hm]
    exact ⟨starts, hsub.cons next, hlt, hvalue, hevents⟩
  | extended current next rest union hm ih =>
    have hu := extends_of_meeting hm
    obtain ⟨starts, hsub, hlt, hvalue, hevents⟩ := ih (h.replace hu.start hu.ne_wildcard)
    rw [hu.start] at hlt
    rw [events_sweep_of_extended hm, sweep_of_extended hm, Logged.value_bind]
    refine ⟨starts, hsub.cons next, hlt, ?_, List.forall_mem_cons.mpr ⟨?_, fun x hx => ?_⟩⟩
    · rw [hvalue, List.map_cons, List.map_cons, Extension.settled_cons_current hu.start]
      refine congrArg _ (List.map_congr_left fun s hs => ?_)
      have hne : current.start ≠ s.start := Nat.ne_of_lt (hlt s hs)
      rw [Extension.settled_cons_of_ne hne]
    · exact ⟨current, List.mem_cons_self, rfl⟩
    · obtain ⟨s, hs, heq⟩ := hevents x hx
      obtain rfl | hs := List.mem_cons.mp hs
      · exact ⟨current, List.mem_cons_self, heq.trans hu.start⟩
      · exact ⟨s, List.mem_cons_of_mem _ hs, heq⟩

/-! ## The record of a merge -/

/-- A sweep over a list in order is recorded. -/
theorem recounts_sweep (h : Ordered (current :: rest))
    (hsort : l.mergeSort startsBefore = current :: rest) : Recounts l (sweep current rest) := by
  have hall : ∀ s ∈ current :: rest, s ∈ l := fun s hs => by
    rwa [← hsort, List.mem_mergeSort] at hs
  obtain ⟨hc, hl⟩ := List.forall_mem_cons.mp hall
  obtain ⟨hfirst, hchain⟩ := isChain_events_sweep h hl
  obtain ⟨starts, hsub, -, hvalue, hevents⟩ := exists_starts_sweep h
  have hstarts : (current :: starts).Sublist (current :: rest) := hsub.cons_cons current
  have hsound := sound_of_mem_events_sweep h hl
  constructor
  case sound => exact hsound
  case follows => exact hchain
  case first_mem =>
    intro x hx
    obtain hx | ⟨hx, -⟩ := hfirst x hx
    · exact hx ▸ hc
    · exact hx
  case origin =>
    intro t ht
    rw [hvalue] at ht
    obtain ⟨s, hs, rfl⟩ := List.mem_map.mp ht
    cases hlast : lastFrom (sweep current rest).events s.start with
    | none => exact .inl (by simpa [settled, hlast] using hall s (hstarts.subset hs))
    | some x =>
      obtain ⟨hx, hstart⟩ := Extension.of_lastFrom_eq_some hlast
      refine .inr ⟨x, ?_, ?_⟩
      · simp [settled, hlast, (hsound x hx).start_union, hstart]
      · simp [settled, hlast]
  case kept =>
    intro x hx
    obtain ⟨s, hs, heq⟩ := hevents x hx
    cases hlast : lastFrom (sweep current rest).events x.current.start with
    | none => exact absurd rfl (Extension.lastFrom_eq_none_iff.mp hlast x hx)
    | some last =>
      refine ⟨last, rfl, ?_⟩
      rw [hvalue, List.mem_map]
      rw [heq] at hlast
      exact ⟨s, hs, by simp [settled, hlast]⟩
  case replay => exact ⟨current :: starts, hsort ▸ hstarts, hvalue⟩

/-- A merge without extensions is recorded. -/
theorem recounts_pure {result : List Subinterval}
    (h : result.Sublist (l.mergeSort startsBefore)) : Recounts l (pure result) := by
  refine ⟨nofun, .nil, nofun, fun s hs => .inl ?_, nofun, result, h, ?_⟩
  · exact List.mem_mergeSort.mp (h.subset hs)
  · exact (List.map_id result).symm

/-- A merge records its extensions one by one. Each of them puts a bounded subinterval and one of
the list together, without a gap, to a longer one; the next one goes on with the union, or with a
subinterval of the list that is apart from it. What comes out of the merge is what the list held
and what the last extension from each start led to. -/
theorem mergeLogged_recounts (l : List Subinterval) : Recounts l (mergeLogged l) := by
  unfold mergeLogged
  by_cases hw : .wildcard ∈ l
  · rw [mergeBy_of_wildcard hw]
    exact recounts_pure (List.singleton_sublist.mpr (List.mem_mergeSort.mpr hw))
  · obtain rfl | ⟨first, rest, hs, hord⟩ := exists_mergeSort_eq_cons hw
    · exact recounts_pure (List.nil_sublist _)
    · rw [mergeBy_eq_sweepBy hw hs]
      exact recounts_sweep hord hs

end Subinterval

-- The first range is extended twice; what lies in it, and what comes after a gap, is not recorded.
example : (mergeLogged [.single 9, .bounded 3 5 (by decide), .bounded 1 2 (by decide),
    .bounded 4 6 (by decide), .single 4]).events =
    [⟨.bounded 1 2 (by decide), .bounded 3 5 (by decide), .bounded 1 5 (by decide)⟩,
      ⟨.bounded 1 5 (by decide), .bounded 4 6 (by decide), .bounded 1 6 (by decide)⟩] := by cbv

end IntervalExpr
