import IntervalExpr.Subinterval.Basic

/-!
# What subintervals refuse

A subinterval is a value: its fields are never assigned or removed. And membership is a question
for a subinterval of one of the three kinds; where the kind is left open there is no answer.

* `Subinterval.edit`: every edit is refused with the kind of the subinterval.
* `containsIn`: membership in a subinterval that may be missing.
-/

namespace IntervalExpr

/-- Why a request to a subinterval is refused. -/
inductive Refusal where
  /-- A subinterval of this kind cannot be changed. -/
  | immutable (kind : Kind)
  /-- The operation has no meaning without a kind. -/
  | undefined (operation : String)
  deriving DecidableEq

def Refusal.message : Refusal → String
  | .immutable kind => kind.name ++ " is immutable"
  | .undefined operation => operation

/-- An attempt to change a field. -/
inductive Edit where
  | assign (field : String)
  | erase (field : String)
  deriving DecidableEq

/-- No edit is accepted, whatever the field. -/
def Subinterval.edit (s : Subinterval) : Edit → Except Refusal Subinterval
  | .assign _ => .error (.immutable s.kind)
  | .erase _ => .error (.immutable s.kind)

/-- Membership in a subinterval, refused where there is none. -/
def containsIn : Option Subinterval → Int → Except Refusal Bool
  | some s, v => .ok (s.contains v)
  | none, _ => .error (.undefined "contains")

end IntervalExpr
