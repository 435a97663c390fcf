import IntervalExpr.Trace

/-!
# Expressions

An expression is a sequence of subintervals with the options it was written under. It stands for
the union of its subintervals.

* `Expression.contains`: the set an expression stands for, also as membership `v ∈ e`.
* `Expression.toString`: the subintervals in order, with the delimiter between them.
* `Expression.write`: the same, refused where a number in it is too long to be written.
* `Expression.reportNormalized`: reports what an expression is normalized to, which is written out.
* `Expression.normalizeLogged`, `normalize`: the same set by the fewest subintervals, with and
  without a report of the steps; refused where a number in these is too long to be written.
* `Expression.append`: one expression after the other, under the options of the first.
-/

namespace IntervalExpr

open Text (quote)

/-- How a text is read as an expression. -/
structure Options where
  /-- What stands between subexpressions. -/
  delimiter : String := ","
  /-- Whether a text may hold no subexpression at all. -/
  allowEmpty : Bool := false
  /-- Whether the expression is normalized after reading. -/
  normalize : Bool := false
  deriving DecidableEq

/-- Commas between subexpressions, at least one of them, and no normalization. -/
def Options.default : Options := {}

/-- A sequence of subintervals, with the options it was written under. -/
structure Expression where
  subintervals : List Subinterval
  options : Options := .default
  deriving DecidableEq

namespace Expression

/-! ## Membership -/

/-- Whether an integer belongs to one of the subintervals. -/
def contains (e : Expression) (v : Int) : Bool :=
  e.subintervals.any (·.contains v)

instance : Membership Int Expression where
  mem e v := e.contains v = true

instance (v : Int) (e : Expression) : Decidable (v ∈ e) :=
  inferInstanceAs (Decidable (e.contains v = true))

theorem contains_iff_mem {e : Expression} {v : Int} : e.contains v = true ↔ v ∈ e := Iff.rfl

theorem mem_iff_exists {e : Expression} {v : Int} : v ∈ e ↔ ∃ s ∈ e.subintervals, v ∈ s := by
  simp [← contains_iff_mem, ← Subinterval.contains_iff_mem, contains]

/-- Whether there is no subinterval, so that nothing belongs to the expression. -/
def matchesNone (e : Expression) : Bool :=
  e.subintervals.isEmpty

/-- Whether there is a wildcard, so that everything belongs to the expression. -/
def matchesAll (e : Expression) : Bool :=
  e.subintervals.any (·.isWildcard)

/-! ## Text -/

/-- The text of an expression: its subintervals in order, with the delimiter between them. -/
protected def toString (e : Expression) : String :=
  e.options.delimiter.intercalate (e.subintervals.map Subinterval.toString)

instance : ToString Expression := ⟨Expression.toString⟩

/-- The text of an expression, unless a number in it is too long to be written. -/
def write (e : Expression) : Except DigitLimit String :=
  writeWith (e.subintervals.flatMap Subinterval.bounds) e.toString

/-- The text of an expression and its delimiter, both in quoted form. -/
def display (e : Expression) : String :=
  "Expression(" ++ quote e.toString ++ ", delimiter=" ++ quote e.options.delimiter ++ ")"

/-! ## Operations -/

/-- One expression after the other, under the options of the first. -/
def append (e f : Expression) : Expression :=
  { e with subintervals := e.subintervals ++ f.subintervals }

instance : Append Expression := ⟨append⟩

/-- An integer belongs to two expressions in a row if it belongs to one of them. -/
theorem mem_append {e f : Expression} {v : Int} : v ∈ e ++ f ↔ v ∈ e ∨ v ∈ f := by
  show (e.subintervals ++ f.subintervals).any (·.contains v) = true ↔ _
  rw [List.any_append, Bool.or_eq_true]
  rfl

/-- Reports what an expression is normalized to. The text of the normal form is made for the report,
whether anyone reads that or not; the text of the expression is made where the report is read. -/
def reportNormalized (e normal : Expression) : Logged Event (Except DigitLimit Expression) :=
  match normal.write with
  | .ok after => do
    Logged.tell (.normalized e.toString after)
    return .ok normal
  | .error limit => return .error limit

/-- The expression of the fewest subintervals that stands for the same set, with a report of the
steps. An expression without subintervals stays as it is, and one with a wildcard comes to that
wildcard, both without a report. -/
def normalizeLogged (e : Expression) : Logged Event (Except DigitLimit Expression) :=
  if e.matchesNone then pure (.ok e)
  else if e.matchesAll then pure (.ok { e with subintervals := [.wildcard] })
  else do
    let merged ← (Subinterval.mergeLogged e.subintervals).mapEvents Event.extended
    e.reportNormalized { e with subintervals := merged }

/-- The expression of the fewest subintervals that stands for the same set, unless a number in it is
too long to be written. -/
def normalize (e : Expression) : Except DigitLimit Expression :=
  e.normalizeLogged.value

end Expression

end IntervalExpr
