import IntervalExpr.Logged
import IntervalExpr.Subinterval.Basic

/-!
# Merging subintervals

Merging turns a list of subintervals into the fewest ones that hold the same integers, in the order
of their starts. A wildcard swallows all else. Otherwise the subintervals are taken in the order of
their starts, and each is folded into the current one as long as no number is left out between
them.

* `meetingBy`, `sweepBy`, `mergeBy`: a meeting of two subintervals, the fold over subintervals in
  order, and a merge, in any monad.
* `meeting`: how a subinterval relates to the one before it.
* `sweep`: the fold with a record of every proper extension.
* `sweep_of_apart`, `sweep_of_covered`, …: a sweep, step by step.
* `sweep_induction`: induction along the steps of a sweep.
* `mergeLogged`, `merge`: the merged subintervals of a list, with and without the record.
-/

namespace IntervalExpr

/-- The current subinterval grew: `next` reaches beyond `current`, and `union` covers both. -/
structure Extension where
  current : Subinterval
  next : Subinterval
  union : Subinterval
  deriving DecidableEq

/-- How a subinterval relates to the current one, which does not start after it. -/
inductive Meeting where
  /-- The current one has no end, so that nothing extends it. -/
  | endless
  /-- At least one number lies between the two. -/
  | apart
  /-- The current one holds all of the other. -/
  | covered
  /-- The two overlap or touch, and together they are more than the current one. -/
  | extended (union : Subinterval)
  deriving DecidableEq

namespace Subinterval

/-- How far beyond `last` a subinterval starts. A distance of one means that the two touch. -/
def distance (last : Nat) (next : Subinterval) : Int :=
  next.start - last

/-- What becomes of a closed range where `next` overlaps or touches it. -/
def joined (first last : Nat) (ordered : first ≤ last) (next : Subinterval) : Meeting :=
  match next.last? with
  | none => .extended (.unbounded first)
  | some stop =>
    if longer : last < stop then
      .extended (.bounded first stop (Nat.le_trans ordered (Nat.le_of_lt longer)))
    else .covered

section Monadic

variable {m : Type → Type} [Monad m]

/-- How `next` relates to the current subinterval, by a way to measure the distance. -/
def meetingBy (measure : Nat → Subinterval → m Int) (current next : Subinterval) : m Meeting :=
  match current with
  | .bounded first last ordered => do
    let gap ← measure last next
    return if gap ≤ 1 then joined first last ordered next else .apart
  | .unbounded _ => return .endless
  | .wildcard => return .endless

/-- How a sweep goes on after a meeting: `onward` sweeps the remaining subintervals. -/
def resume (onward : Subinterval → m (List Subinterval)) (current next : Subinterval) :
    Meeting → m (List Subinterval)
  | .endless => return [current]
  | .apart => (current :: ·) <$> onward next
  | .covered => onward current
  | .extended union => onward union

/-- Folds the remaining subintervals into the current one, by a way to let two of them meet. The
remaining ones come in the order of their starts, none of them starts before the current one, and
none is a wildcard. -/
def sweepBy (meet : Subinterval → Subinterval → m Meeting) (current : Subinterval) :
    List Subinterval → m (List Subinterval)
  | [] => return [current]
  | next :: rest => do
    let met ← meet current next
    resume (sweepBy meet · rest) current next met

/-- The order in which subintervals are swept. -/
def startsBefore (s t : Subinterval) : Bool :=
  s.start ≤ t.start

/-- Merges a list of subintervals by a sweep. Equal starts keep their relative order in the sweep.
Sorting leaves a first subinterval to start from; `nothing` is what comes out if it did not. -/
def mergeBy (meet : Subinterval → Subinterval → m Meeting) (nothing : m (List Subinterval))
    (subintervals : List Subinterval) : m (List Subinterval) :=
  if subintervals.isEmpty then return []
  else if subintervals.any isWildcard then return [.wildcard]
  else
    match subintervals.mergeSort startsBefore with
    | [] => nothing
    | first :: rest => sweepBy meet first rest

end Monadic

/-- How `next` relates to the current subinterval. -/
def meeting (current next : Subinterval) : Meeting :=
  Id.run (meetingBy (fun last next => pure (distance last next)) current next)

theorem meeting_bounded {first last : Nat} {ordered : first ≤ last} {next : Subinterval} :
    meeting (.bounded first last ordered) next =
      if distance last next ≤ 1 then joined first last ordered next else .apart := rfl

theorem meeting_unbounded {first : Nat} {next : Subinterval} :
    meeting (.unbounded first) next = .endless := rfl

theorem meeting_wildcard {next : Subinterval} : meeting .wildcard next = .endless := rfl

/-- Lets two subintervals meet, and records a proper extension. -/
def meetLogged (current next : Subinterval) : Logged Extension Meeting :=
  match meeting current next with
  | .extended union => do
    .tell ⟨current, next, union⟩
    return .extended union
  | met => return met

/-- Folds the remaining subintervals into the current one, with a record of every proper
extension. -/
def sweep (current : Subinterval) (rest : List Subinterval) :
    Logged Extension (List Subinterval) :=
  sweepBy meetLogged current rest

section Step

variable {current next union : Subinterval} {rest : List Subinterval}

theorem sweep_nil : sweep current [] = pure [current] := rfl

theorem sweep_of_endless (h : meeting current next = .endless) :
    sweep current (next :: rest) = pure [current] := by
  simp only [sweep, sweepBy, meetLogged, h, resume, pure_bind]

theorem sweep_of_apart (h : meeting current next = .apart) :
    sweep current (next :: rest) = (current :: ·) <$> sweep next rest := by
  simp only [sweep, sweepBy, meetLogged, h, resume, pure_bind]

theorem sweep_of_covered (h : meeting current next = .covered) :
    sweep current (next :: rest) = sweep current rest := by
  simp only [sweep, sweepBy, meetLogged, h, resume, pure_bind]

theorem sweep_of_extended (h : meeting current next = .extended union) :
    sweep current (next :: rest) = (do
      Logged.tell ⟨current, next, union⟩
      sweep union rest) := by
  simp only [sweep, sweepBy, meetLogged, h, resume, bind_assoc, pure_bind]

theorem events_sweep_of_extended (h : meeting current next = .extended union) :
    (sweep current (next :: rest)).events =
      ⟨current, next, union⟩ :: (sweep union rest).events := by
  rw [sweep_of_extended h, Logged.events_bind, Logged.events_tell, List.singleton_append]

/-- Induction along a sweep, one case for each outcome of a meeting. -/
@[elab_as_elim]
theorem sweep_induction {motive : Subinterval → List Subinterval → Prop}
    (nil : ∀ current, motive current [])
    (endless : ∀ current next rest, meeting current next = .endless →
      motive current (next :: rest))
    (apart : ∀ current next rest, meeting current next = .apart → motive next rest →
      motive current (next :: rest))
    (covered : ∀ current next rest, meeting current next = .covered → motive current rest →
      motive current (next :: rest))
    (extended : ∀ current next rest union, meeting current next = .extended union →
      motive union rest → motive current (next :: rest))
    (current : Subinterval) (rest : List Subinterval) : motive current rest := by
  induction rest generalizing current with
  | nil => exact nil current
  | cons next rest ih =>
    cases hm : meeting current next with
    | endless => exact endless current next rest hm
    | apart => exact apart current next rest hm (ih next)
    | covered => exact covered current next rest hm (ih current)
    | extended union => exact extended current next rest union hm (ih union)

end Step

/-- Merges a list of subintervals, with a record of every proper extension. -/
def mergeLogged (subintervals : List Subinterval) : Logged Extension (List Subinterval) :=
  mergeBy meetLogged (pure []) subintervals

/-- The merged subintervals of a list. -/
def merge (subintervals : List Subinterval) : List Subinterval :=
  (mergeLogged subintervals).value

theorem merge_nil : merge [] = [] := rfl

theorem merge_of_wildcard {subintervals : List Subinterval}
    (h : subintervals.any isWildcard = true) : merge subintervals = [.wildcard] := by
  cases subintervals with
  | nil => cases h
  | cons s rest => simp [merge, mergeLogged, mergeBy, h]

end Subinterval

end IntervalExpr
