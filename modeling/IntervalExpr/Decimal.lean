/-!
# The limit on the length of numbers

Numbers are unlimited as values, but a number of too many decimal digits is neither read from a
text nor written into one.

* `DigitLimit`: why a number is not converted, with its message.
* `isWritable`: a number is short enough to be written.
* `writeWith`: a text in which some numbers stand, unless one of them is too long.
-/

namespace IntervalExpr

/-- The greatest number of digits, leading zeros included, of a number that is read or written. -/
def maxDigits : Nat := 4300

/-- A number has too many digits to be converted. -/
inductive DigitLimit where
  /-- A text of so many digits is not read. -/
  | reading (count : Nat)
  /-- The value is not written. -/
  | writing
  deriving DecidableEq

namespace DigitLimit

/-- How many digits were found, where they can be counted. -/
def finding : DigitLimit → String
  | .reading count => ": value has " ++ toString count ++ " digits"
  | .writing => ""

def message (limit : DigitLimit) : String :=
  "Exceeds the limit (" ++ toString maxDigits ++ " digits) for integer string conversion" ++
    limit.finding ++ "; use sys.set_int_max_str_digits() to increase the limit"

end DigitLimit

/-- Whether a number, its sign left aside, is short enough to be written. -/
def isWritable (n : Int) : Bool :=
  (toString n.natAbs).length ≤ maxDigits

/-- A text in which the given numbers stand, refused if one of them is too long. -/
def writeWith (numbers : List Int) (text : String) : Except DigitLimit String :=
  if numbers.all isWritable then .ok text else .error .writing

/-- A text is written as it is, exactly if all numbers in it are short enough. -/
theorem writeWith_eq_ok_iff {numbers : List Int} {text written : String} :
    writeWith numbers text = .ok written ↔
      (∀ n ∈ numbers, isWritable n = true) ∧ text = written := by
  rw [← List.all_eq_true, writeWith]
  cases numbers.all isWritable <;> simp

end IntervalExpr
