import IntervalExpr.Subexpression.Shape

/-!
# Parsing subexpressions

A parser reads one subexpression at a time. Between two texts it keeps what the last one left
behind, whether that was read to its end or given up halfway.

Tokens are read on demand. A closed shape is converted before the next token is read, so that a
reversed range is reported as such whatever follows it; a number, and a number with a dash, may go
on, so that the next token is judged before the number.

* `Progress`: how far a subexpression has been read.
* `Parser.load`: puts the parser at the start of a new text.
* `Parser.run`: reads on to the end of the text or to the first failure.
* `Parser.parse`: reads a new text and reports success.
* `parseSubexpression`: the outcome for one text, with a new parser.
-/

namespace IntervalExpr

/-! ## Progress -/

/-- How far a subexpression has been read. -/
inductive Progress where
  | nothing
  /-- The symbols read so far make this shape. -/
  | shape (shape : Shape)
  /-- The symbols read so far have been converted. -/
  | complete (subinterval : Subinterval)
  deriving DecidableEq

namespace Progress

/-- The progress after one more symbol, if some shape goes on with it. -/
def shift? : Progress → Symbol → Option Progress
  | .nothing, symbol => (Shape.ofSymbol? symbol).map .shape
  | .shape s, symbol => (s.extend? symbol).map .shape
  | .complete _, _ => none

/-- The closed shape that has been read, if that is so. -/
def closed? : Progress → Option Shape
  | .nothing => none
  | .shape s => if s.isClosed then some s else none
  | .complete _ => none

/-- What the symbols read so far come to where the text ends. -/
def conclude (text : String) : Progress → Traced Subinterval
  | .nothing => Traced.reject text .incomplete
  | .shape s => s.convert text
  | .complete subinterval => pure subinterval

/-- How many steps are left at most. -/
def rank : Progress → Nat
  | .nothing => 4
  | .shape (.number _) => 3
  | .shape (.opened _) => 2
  | .shape .star => 1
  | .shape (.range ..) => 1
  | .complete _ => 0

theorem rank_of_shift? {p q : Progress} {symbol : Symbol} (h : p.shift? symbol = some q) :
    q.rank < p.rank := by
  cases p with
  | nothing => cases symbol <;> simp [shift?, Shape.ofSymbol?] at h <;> subst h <;> simp [rank]
  | shape s =>
    cases s <;> cases symbol <;> simp [shift?, Shape.extend?] at h <;> subst h <;> simp [rank]
  | complete subinterval => simp [shift?] at h

theorem rank_of_closed? {p : Progress} {shape : Shape} (h : p.closed? = some shape)
    (subinterval : Subinterval) : (complete subinterval).rank < p.rank := by
  cases p with
  | nothing => simp [closed?] at h
  | shape s => cases s <;> simp [rank]
  | complete _ => simp [closed?] at h

end Progress

/-! ## The parser -/

/-- A parser for subexpressions: the text at hand, the place reached in it and the progress
made. -/
structure Parser where
  text : String
  cursor : Cursor
  progress : Progress
  deriving DecidableEq

namespace Parser

/-- A parser that has read nothing yet. -/
def fresh : Parser :=
  ⟨"", .ofText "", .nothing⟩

/-- Puts the parser at the start of a new text. -/
def load (parser : Parser) (text : String) : Parser :=
  { parser with text := text, cursor := .ofText text, progress := .nothing }

/-- Ends the reading with a given outcome. -/
def stop (parser : Parser) (outcome : Traced Subinterval) :
    Logged Event (Parser × Except ParseError Subinterval) :=
  (parser, ·) <$> outcome.run

/-- Reads on from where the parser stands, to the end of the text or to the first failure. -/
def run (parser : Parser) : Logged Event (Parser × Except ParseError Subinterval) :=
  match closed : parser.progress.closed? with
  | some shape => do
    match ← (shape.convert parser.text).run with
    | .ok subinterval =>
      have := Progress.rank_of_closed? closed subinterval
      run { parser with progress := .complete subinterval }
    | .error error => pure (parser, .error error)
  | none =>
    match parser.cursor.scan with
    | .finished => parser.stop (parser.progress.conclude parser.text)
    | .illegal char position => parser.stop (Traced.reject parser.text (.illegal char position))
    | .token token rest =>
      match shifted : parser.progress.shift? token.symbol with
      | none => { parser with cursor := rest }.stop (Traced.reject parser.text (.unexpected token))
      | some progress =>
        have := Progress.rank_of_shift? shifted
        run { parser with cursor := rest, progress := progress }
termination_by parser.progress.rank

/-- Reads a text as one subexpression, and reports it if that succeeds. -/
def parse (parser : Parser) (text : String) :
    Logged Event (Parser × Except ParseError Subinterval) := do
  let (parser, outcome) ← (parser.load text).run
  match outcome with
  | .ok subinterval => Logged.tell (.accepted text subinterval)
  | .error _ => pure ()
  return (parser, outcome)

/-- The outcomes for several texts, read one after the other by the same parser. -/
def parseEach (parser : Parser) : List String → List (Except ParseError Subinterval)
  | [] => []
  | text :: texts =>
    let (parser, outcome) := (parser.parse text).value
    outcome :: parser.parseEach texts

end Parser

/-- The subinterval a text stands for. -/
def parseSubexpression (text : String) : Except ParseError Subinterval :=
  (Parser.fresh.parse text).value.2

end IntervalExpr
