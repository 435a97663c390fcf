import IntervalExpr.Subinterval.Basic

/-!
# Describing a subinterval by numbers

A subinterval can be asked for by its kind and by integers of any size and sign. The request is
refused if the start is negative or the count is not positive, in this order.

* `Description.build`: the subinterval asked for, or the reason of the refusal.
* `BuildError.write`: the message of a refusal, unless the number in it is too long to be written.
* `Subinterval.description`: a request for a given subinterval.
* `build_description`: asking for what a subinterval says of itself gives that subinterval.
-/

namespace IntervalExpr

/-- A request for a subinterval. -/
inductive Description where
  /-- The `count` numbers from `start` on. -/
  | bounded (start count : Int)
  /-- The numbers from `first` to `last`, both included. -/
  | span (first last : Int)
  /-- All numbers from `start` on. -/
  | unbounded (start : Int)
  /-- All integers. -/
  | wildcard
  deriving DecidableEq

/-- Why no subinterval meets a request. -/
inductive BuildError where
  | negativeStart (start : Int)
  | nonpositiveCount (count : Int)
  deriving DecidableEq

def BuildError.message : BuildError → String
  | .negativeStart start => "Subinterval start must be non-negative, got " ++ toString start
  | .nonpositiveCount count => "Bounded subinterval count must be positive, got " ++ toString count

/-- The number that is written out in the message. -/
def BuildError.number : BuildError → Int
  | .negativeStart start => start
  | .nonpositiveCount count => count

/-- The message, unless the number in it is too long to be written. -/
def BuildError.write (error : BuildError) : Except DigitLimit String :=
  writeWith [error.number] error.message

/-- The `count` numbers from `start` on; the start is judged before the count. -/
def Subinterval.ofCount (start count : Int) : Except BuildError Subinterval :=
  if start < 0 then .error (.negativeStart start)
  else if _ : count < 1 then .error (.nonpositiveCount count)
  else .ok (.bounded start.toNat (start + count - 1).toNat (by omega))

/-- The subinterval a description asks for. A span is judged by the count of its numbers. -/
def Description.build : Description → Except BuildError Subinterval
  | .bounded start count => Subinterval.ofCount start count
  | .span first last => Subinterval.ofCount first (last - first + 1)
  | .unbounded start =>
    if start < 0 then .error (.negativeStart start) else .ok (.unbounded start.toNat)
  | .wildcard => .ok .wildcard

/-- A request for the subinterval itself. -/
def Subinterval.description (s : Subinterval) : Description :=
  match s with
  | .bounded first _ _ => .bounded first s.count
  | .unbounded first => .unbounded first
  | .wildcard => .wildcard

/-- Asking for what a subinterval says of itself gives that subinterval. -/
theorem build_description (s : Subinterval) : s.description.build = .ok s := by
  cases s with
  | bounded first last h =>
    simp only [Subinterval.description, Description.build, Subinterval.ofCount, Subinterval.count]
    rw [if_neg (by omega), dif_neg (by omega)]
    simp only [Except.ok.injEq, Subinterval.bounded.injEq]
    omega
  | unbounded first =>
    simp only [Subinterval.description, Description.build]
    rw [if_neg (by omega)]
    simp
  | wildcard => rfl

end IntervalExpr
