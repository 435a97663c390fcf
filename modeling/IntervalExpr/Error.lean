import IntervalExpr.Decimal
import IntervalExpr.Subexpression.Token
import IntervalExpr.Text.Quoted

/-!
# Errors of parsing

* `Fault`: why a subexpression has none of the four shapes `*`, `n`, `n-` and `a-b`.
* `ParseError`: why a text is no expression, with all that its message tells.
* `ParseError.message`: the message. Foreign text stands in it in quoted form.
* `ParseError.write`: the same, refused where a number in it is too long to be written.
-/

namespace IntervalExpr

open Text (quote)

/-- Why a subexpression has none of the four shapes. -/
inductive Fault where
  /-- A character that belongs to no token. -/
  | illegal (char : Char) (position : Nat)
  /-- A token that continues none of the shapes. -/
  | unexpected (token : Token)
  /-- The end of the text where a token is missing. -/
  | incomplete
  deriving DecidableEq

/-- Where a fault was found, counted in characters from zero; the end of the text is no place. -/
def Fault.position? : Fault → Option Nat
  | .illegal _ position => some position
  | .unexpected token => some token.position
  | .incomplete => none

/-- What was found. -/
def Fault.detail : Fault → String
  | .illegal char _ => "illegal character " ++ quote (String.singleton char)
  | .unexpected token => "unexpected " ++ quote (String.ofList token.symbol.lexeme)
  | .incomplete => "unexpected end of subexpression"

/-- Why a text is no expression. -/
inductive ParseError where
  /-- The options give an empty delimiter. -/
  | emptyDelimiter (text : String)
  /-- The text holds no subexpression, and the options forbid that. -/
  | emptyExpression (text : String)
  /-- A subexpression has none of the four shapes. The position counts characters from zero. -/
  | malformed (text : String) (position : Option Int) (detail : Option String)
  /-- A range ends before it starts. -/
  | reversedRange (text : String) (first last : Int)
  /-- A number is above the greatest value. -/
  | outOfRange (text literal : String)
  /-- A number has too many digits to be read at all. -/
  | tooManyDigits (count : Nat)
  /-- A number has too many digits to be written into a report. -/
  | tooLong
  deriving DecidableEq

/-- The greatest value of a number: the greatest signed integer of 64 bits. -/
def maxValue : Nat := 0x7fffffffffffffff

namespace ParseError

/-- A subexpression with a fault. -/
def ofFault (text : String) (fault : Fault) : ParseError :=
  .malformed text (fault.position?.map Int.ofNat) (some fault.detail)

/-- A number is not converted. -/
def ofLimit : DigitLimit → ParseError
  | .reading count => .tooManyDigits count
  | .writing => .tooLong

/-- The part of a message that tells the column, which counts from one. -/
def columnNote : Option Int → String
  | none => ""
  | some position => " at column " ++ toString (position + 1)

/-- The part of a message that tells the detail; an empty detail is left out. -/
def detailNote : Option String → String
  | none => ""
  | some detail => if detail = "" then "" else ": " ++ detail

def message : ParseError → String
  | .emptyDelimiter _ => "ParseOptions.delimiter is empty"
  | .emptyExpression text => "Empty expression not allowed by current options: " ++ quote text
  | .malformed text position detail =>
    "Invalid syntax in subexpression " ++ quote text ++ columnNote position ++ detailNote detail
  | .reversedRange text first last =>
    "Invalid interval " ++ quote text ++ ": end " ++ toString last ++ " is less than start " ++
      toString first
  | .outOfRange text literal =>
    "Value " ++ literal ++ " in subexpression " ++ quote text ++ " is out of range"
  | .tooManyDigits count => (DigitLimit.reading count).message
  | .tooLong => DigitLimit.writing.message

/-- The numbers that are written out in a message. -/
def numbers : ParseError → List Int
  | .malformed _ (some position) _ => [position + 1]
  | .reversedRange _ first last => [first, last]
  | _ => []

/-- The message, unless a number in it is too long to be written. -/
def write (error : ParseError) : Except DigitLimit String :=
  writeWith error.numbers error.message

end ParseError

end IntervalExpr
