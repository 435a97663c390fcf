import IntervalExpr.Expression.Basic
import IntervalExpr.Subexpression.Parser
import IntervalExpr.Text.Pieces

/-!
# Parsing expressions

A text is cut at the delimiter, and every piece that is not empty is read as a subexpression. The
first piece that is none decides the error.

* `parsePieces`: the subintervals of the pieces, read one after the other by one parser.
* `Expression.normalizeTraced`: normalizes what has been read.
* `Expression.parseTraced`, `Expression.parse`: the expression a text stands for under some
  options, with and without a report of the steps.
* `Expression.reparse`: reads the text of an expression under its own options.
-/

namespace IntervalExpr

/-- Reads pieces one after the other by the same parser, up to the first that is no
subexpression. -/
def parsePieces (parser : Parser) : List (List Char) → Traced (List Subinterval)
  | [] => pure []
  | piece :: pieces => do
    let (parser, outcome) ← parser.parse (String.ofList piece)
    let subinterval ← outcome
    let subintervals ← parsePieces parser pieces
    return subinterval :: subintervals

namespace Expression

/-- Normalizes an expression that has been read, and reports the steps. -/
def normalizeTraced (e : Expression) : Traced Expression := do
  let outcome ← e.normalizeLogged
  liftM (outcome.mapError ParseError.ofLimit)

/-- Reads a text as an expression and reports the steps. The delimiter is judged first, then the
pieces from left to right, then whether there is any. -/
def parseTraced (text : String) (options : Options) : Traced Expression :=
  if empty : options.delimiter.toList = [] then throw (.emptyDelimiter text)
  else do
    let pieces := Text.nonEmptyPieces options.delimiter.toList empty text.toList
    let subintervals ← parsePieces .fresh pieces
    let expression : Expression := ⟨subintervals, options⟩
    if expression.matchesNone && !options.allowEmpty then
      throw (.emptyExpression text)
    else
      Traced.report (.parsed text subintervals.length)
      if options.normalize then expression.normalizeTraced else pure expression

/-- The expression a text stands for. -/
def parse (text : String) (options : Options) : Except ParseError Expression :=
  (parseTraced text options).outcome

/-- The expression a text stands for under the default options. -/
def parseDefault (text : String) : Except ParseError Expression :=
  parse text .default

/-- Reads the text of an expression under its own options. -/
def reparse (e : Expression) : Except ParseError Expression :=
  parse e.toString e.options

end Expression

end IntervalExpr
