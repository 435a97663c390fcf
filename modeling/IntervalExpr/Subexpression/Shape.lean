import IntervalExpr.Trace

/-!
# The shapes of a subexpression

A subexpression has one of four shapes: `*`, `n`, `n-` and `a-b`. Each of them is a sequence of
symbols, and every beginning of a shape is itself a shape, so that a parser needs to know only the
shape it has read so far.

* `Shape.symbols`: the symbols of a shape.
* `Shape.ofSymbol?`, `Shape.extend?`: the shape after the first symbol, and after one symbol more.
* `Shape.isClosed`: the shapes that no symbol extends (`isClosed_iff`).
* `Shape.convert`: the subinterval of a shape, or the error that its numbers cause.
-/

namespace IntervalExpr

/-- A subexpression as it is written: its numbers are still runs of digits. -/
inductive Shape where
  /-- All integers. -/
  | star
  /-- One number. -/
  | number (digits : List Char)
  /-- A number and all above it. -/
  | opened (digits : List Char)
  /-- The numbers between two numbers, both included. -/
  | range (firstDigits lastDigits : List Char)
  deriving DecidableEq

/-- The value of a run of decimal digits. The number of digits is judged before the value. -/
def readLiteral (text : String) (digits : List Char) : Except ParseError Nat :=
  if maxDigits < digits.length then .error (.tooManyDigits digits.length)
  else if maxValue < Nat.ofDigitChars 10 digits 0 then
    .error (.outOfRange text (String.ofList digits))
  else .ok (Nat.ofDigitChars 10 digits 0)

namespace Shape

def symbols : Shape → List Symbol
  | .star => [.star]
  | .number digits => [.integer digits]
  | .opened digits => [.integer digits, .dash]
  | .range firstDigits lastDigits => [.integer firstDigits, .dash, .integer lastDigits]

/-- The shape of a single symbol, if it has one. -/
def ofSymbol? : Symbol → Option Shape
  | .star => some .star
  | .integer digits => some (.number digits)
  | .dash => none

/-- The shape after one more symbol, if there is one. -/
def extend? : Shape → Symbol → Option Shape
  | .number digits, .dash => some (.opened digits)
  | .opened firstDigits, .integer lastDigits => some (.range firstDigits lastDigits)
  | _, _ => none

/-- Whether the shape is known to be whole before anything more is read. -/
def isClosed : Shape → Bool
  | .star => true
  | .number _ => false
  | .opened _ => false
  | .range .. => true

theorem symbols_of_ofSymbol? {shape : Shape} {symbol : Symbol} (h : ofSymbol? symbol = some shape) :
    shape.symbols = [symbol] := by
  cases symbol <;> simp only [ofSymbol?, Option.some.injEq, reduceCtorEq] at h <;> subst h <;> rfl

theorem symbols_of_extend? {shape longer : Shape} {symbol : Symbol}
    (h : shape.extend? symbol = some longer) : longer.symbols = shape.symbols ++ [symbol] := by
  unfold extend? at h
  split at h <;> simp only [Option.some.injEq, reduceCtorEq] at h <;> subst h <;> rfl

/-- The closed shapes are those that no symbol extends. -/
theorem isClosed_iff {shape : Shape} :
    shape.isClosed = true ↔ ∀ symbol, shape.extend? symbol = none := by
  cases shape with
  | star => simp [isClosed, extend?]
  | number digits => simpa [isClosed] using ⟨.dash, by simp [extend?]⟩
  | opened digits => simpa [isClosed] using ⟨.integer [], by simp [extend?]⟩
  | range firstDigits lastDigits => simp [isClosed, extend?]

/-- The subinterval of a shape. The first number of a range is judged before the second, and both
before their order. -/
def convert (text : String) : Shape → Traced Subinterval
  | .star => pure .wildcard
  | .number digits => do
    let n ← readLiteral text digits
    return .single n
  | .opened digits => do
    let first ← readLiteral text digits
    return .unbounded first
  | .range firstDigits lastDigits => do
    let first ← readLiteral text firstDigits
    let last ← readLiteral text lastDigits
    if ordered : first ≤ last then
      return .bounded first last ordered
    else
      Traced.report (.reversed first last)
      throw (.reversedRange text first last)

end Shape

end IntervalExpr
