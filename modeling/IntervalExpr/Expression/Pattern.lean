import IntervalExpr.Expression.Parse

/-!
# Patterns

An integer can be tested against the text of an expression as well as against an expression.

* `Pattern`: what an integer may be tested against, and what is offered in its place.
* `Pattern.test`: the answer, or why there is none.
-/

namespace IntervalExpr

/-- What an integer is tested against. -/
inductive Pattern where
  /-- A text that is still to be parsed. -/
  | text (text : String)
  | expression (expression : Expression)
  /-- A value of some other type. -/
  | other (typeName : String)
  deriving DecidableEq

/-- Why a test has no answer. -/
inductive PatternError where
  | parse (error : ParseError)
  | unsupported (typeName : String)
  deriving DecidableEq

def PatternError.message : PatternError → String
  | .parse error => error.message
  | .unsupported typeName => "Unsupported pattern type: " ++ typeName

/-- Tests an integer. The options count for a text only: an expression has its own. -/
def Pattern.test (pattern : Pattern) (v : Int) (options : Options) : Except PatternError Bool :=
  match pattern with
  | .text written =>
    match Expression.parse written options with
    | .ok e => .ok (e.contains v)
    | .error error => .error (.parse error)
  | .expression e => .ok (e.contains v)
  | .other typeName => .error (.unsupported typeName)

end IntervalExpr
