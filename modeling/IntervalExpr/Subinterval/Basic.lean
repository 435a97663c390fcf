import IntervalExpr.Decimal

/-!
# Subintervals

A subinterval is a set of integers that an expression names as one unit: a closed range of natural
numbers, all numbers from a first one on, or all integers.

* `Subinterval`: the three forms; a closed range is never empty, by its type.
* `Subinterval.contains`: the set a subinterval stands for, also as membership `v ∈ s`.
* `Subinterval.toString`: the text `n`, `a-b`, `n-` or `*` that an expression has for it.
* `Subinterval.write`: the same, refused where a number in it is too long to be written.
* `Subinterval.mem_bounded`, `mem_unbounded`, `mem_wildcard`: membership, form by form.
-/

namespace IntervalExpr

/-- A set of integers that an expression names as one unit. -/
inductive Subinterval where
  /-- The natural numbers from `first` to `last`, both included. -/
  | bounded (first last : Nat) (ordered : first ≤ last)
  /-- The natural numbers from `first` on. -/
  | unbounded (first : Nat)
  /-- All integers. -/
  | wildcard
  deriving DecidableEq

/-- The form of a subinterval, without its bounds. -/
inductive Kind where
  | bounded
  | unbounded
  | wildcard
  deriving DecidableEq

/-- The name of a kind in messages. -/
def Kind.name : Kind → String
  | .bounded => "Bounded"
  | .unbounded => "Unbounded"
  | .wildcard => "Wildcard"

namespace Subinterval

/-- The set that holds one natural number. -/
def single (n : Nat) : Subinterval :=
  .bounded n n (Nat.le_refl n)

def kind : Subinterval → Kind
  | .bounded .. => .bounded
  | .unbounded _ => .unbounded
  | .wildcard => .wildcard

/-- The first number of a set of natural numbers; a wildcard counts as starting at zero. -/
def start : Subinterval → Nat
  | .bounded first _ _ => first
  | .unbounded first => first
  | .wildcard => 0

/-- The last number, where there is one. -/
def last? : Subinterval → Option Nat
  | .bounded _ last _ => some last
  | .unbounded _ => none
  | .wildcard => none

/-- How many numbers a closed range holds; zero stands for infinitely many. -/
def count : Subinterval → Nat
  | .bounded first last _ => last - first + 1
  | .unbounded _ => 0
  | .wildcard => 0

def isUnbounded (s : Subinterval) : Bool :=
  s.kind = .unbounded

def isWildcard (s : Subinterval) : Bool :=
  s.kind = .wildcard

/-! ## Membership -/

/-- Whether an integer belongs to the set. -/
def contains : Subinterval → Int → Bool
  | .bounded first last _, v => (first : Int) ≤ v && v ≤ last
  | .unbounded first, v => (first : Int) ≤ v
  | .wildcard, _ => true

instance : Membership Int Subinterval where
  mem s v := s.contains v = true

instance (v : Int) (s : Subinterval) : Decidable (v ∈ s) :=
  inferInstanceAs (Decidable (s.contains v = true))

theorem contains_iff_mem {s : Subinterval} {v : Int} : s.contains v = true ↔ v ∈ s := Iff.rfl

@[simp] theorem mem_bounded {first last : Nat} {h : first ≤ last} {v : Int} :
    v ∈ bounded first last h ↔ (first : Int) ≤ v ∧ v ≤ last := by
  simp [← contains_iff_mem, contains]

@[simp] theorem mem_unbounded {first : Nat} {v : Int} :
    v ∈ unbounded first ↔ (first : Int) ≤ v := by
  simp [← contains_iff_mem, contains]

@[simp] theorem mem_wildcard {v : Int} : v ∈ wildcard := rfl

/-- No subinterval is empty: each holds its start. -/
theorem start_mem (s : Subinterval) : (s.start : Int) ∈ s := by
  cases s <;> simp [start]
  omega

/-! ## Text -/

/-- The text of a subinterval in an expression. -/
protected def toString : Subinterval → String
  | .bounded first last _ =>
    if first = last then ToString.toString first
    else ToString.toString first ++ "-" ++ ToString.toString last
  | .unbounded first => ToString.toString first ++ "-"
  | .wildcard => "*"

instance : ToString Subinterval := ⟨Subinterval.toString⟩

/-- The text of a subinterval together with its kind, between angle brackets. -/
def display (s : Subinterval) : String :=
  "<" ++ s.kind.name ++ " " ++ s.toString ++ ">"

/-- The numbers that are written out in the text of a subinterval. -/
def bounds : Subinterval → List Int
  | .bounded first last _ => [first, last]
  | .unbounded first => [first]
  | .wildcard => []

/-- The text of a subinterval, unless a number in it is too long to be written. -/
def write (s : Subinterval) : Except DigitLimit String :=
  writeWith s.bounds s.toString

end Subinterval

end IntervalExpr
