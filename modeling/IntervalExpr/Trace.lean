import IntervalExpr.Error
import IntervalExpr.Logged
import IntervalExpr.Subinterval.Merge

/-!
# The trace of parsing and normalizing

Parsing and normalizing report what they do as a sequence of events.

* `Event`: what is reported, with its message and its topic.
* `Traced`: a computation that reports events and may end with a parse error.
* `Traced.reject`: a subexpression is given up because of a fault.
* `outcome_bind`, `events_bind_of_ok`, `events_bind_of_error`: a sequence of two computations ends
  as the second does, and reports what both report, unless the first ends with an error.
-/

namespace IntervalExpr

open Text (quote)

/-- What parsing and normalizing report. -/
inductive Event where
  /-- A subexpression was read. -/
  | accepted (text : String) (subinterval : Subinterval)
  /-- A subexpression was given up. -/
  | rejected (text : String) (fault : Fault)
  /-- A range ends before it starts. -/
  | reversed (first last : Nat)
  /-- A text was read as so many subintervals. -/
  | parsed (text : String) (count : Nat)
  /-- Merging extended a subinterval. -/
  | extended (extension : Extension)
  /-- An expression was normalized. -/
  | normalized (before after : String)
  deriving DecidableEq

/-- What an event is about. -/
inductive Topic where
  | subexpression
  | expression
  | merging
  deriving DecidableEq

namespace Event

def topic : Event → Topic
  | .accepted .. | .rejected .. | .reversed .. => .subexpression
  | .parsed .. | .normalized .. => .expression
  | .extended _ => .merging

def message : Event → String
  | .accepted text subinterval => "Subexpression " ++ quote text ++ " => " ++ subinterval.display
  | .rejected text (.illegal char position) =>
    "Illegal character '" ++ String.singleton char ++ "' at " ++ toString position ++ " in " ++
      quote text
  | .rejected text (.unexpected token) =>
    toString (token.position + 1) ++ ": Syntax error at '" ++
      String.ofList token.symbol.lexeme ++ "' in " ++ quote text
  | .rejected text .incomplete => "Syntax error at end of " ++ quote text
  | .reversed first last =>
    "Range " ++ toString first ++ "-" ++ toString last ++ " in non-increasing order"
  | .parsed text count => "Parsed " ++ quote text ++ " into " ++ toString count ++ " subintervals"
  | .extended extension =>
    "Merge " ++ extension.current.toString ++ " and " ++ extension.next.toString ++ " into " ++
      extension.union.toString
  | .normalized before after => "Normalized " ++ before ++ " => " ++ after

end Event

/-- A computation that reports events and may end with a parse error. -/
abbrev Traced (α : Type) : Type := ExceptT ParseError (Logged Event) α

namespace Traced

/-- Reports one event. -/
def report (event : Event) : Traced Unit :=
  ExceptT.lift (Logged.tell event)

/-- What a computation ends with. -/
def outcome {α : Type} (x : Traced α) : Except ParseError α :=
  x.run.value

/-- What a computation reports, in order. -/
def events {α : Type} (x : Traced α) : List Event :=
  x.run.events

/-- Gives a subexpression up because of a fault. -/
def reject {α : Type} (text : String) (fault : Fault) : Traced α := do
  report (.rejected text fault)
  throw (.ofFault text fault)

/-! ## Outcome and events of a sequence -/

variable {α β : Type}

@[simp] theorem outcome_pure (a : α) : (pure a : Traced α).outcome = .ok a := rfl

@[simp] theorem outcome_throw (error : ParseError) :
    (throw error : Traced α).outcome = .error error := rfl

@[simp] theorem outcome_report (event : Event) : (report event).outcome = .ok () := rfl

@[simp] theorem outcome_liftLogged (x : Logged Event α) :
    (liftM x : Traced α).outcome = .ok x.value := rfl

@[simp] theorem outcome_liftExcept (x : Except ParseError α) :
    (liftM x : Traced α).outcome = x := by
  cases x <;> rfl

@[simp] theorem outcome_reject (text : String) (fault : Fault) :
    (reject text fault : Traced α).outcome = .error (.ofFault text fault) := rfl

@[simp] theorem events_pure (a : α) : (pure a : Traced α).events = [] := rfl

@[simp] theorem events_throw (error : ParseError) : (throw error : Traced α).events = [] := rfl

@[simp] theorem events_report (event : Event) : (report event).events = [event] := rfl

@[simp] theorem events_liftLogged (x : Logged Event α) :
    (liftM x : Traced α).events = x.events :=
  Logged.events_map Except.ok x

@[simp] theorem events_liftExcept (x : Except ParseError α) :
    (liftM x : Traced α).events = [] := by
  cases x <;> rfl

@[simp] theorem events_reject (text : String) (fault : Fault) :
    (reject text fault : Traced α).events = [.rejected text fault] := rfl

/-- A sequence ends as its second part does, unless the first ends with an error. -/
@[simp] theorem outcome_bind (x : Traced α) (f : α → Traced β) :
    (x >>= f).outcome = x.outcome >>= fun a => (f a).outcome := by
  show (ExceptT.bindCont f x.run.value).value = x.run.value.bind fun a => (f a).run.value
  cases x.run.value <;> rfl

/-- After a first part without an error, the events of both parts are reported in order. -/
theorem events_bind_of_ok {x : Traced α} {a : α} (h : x.outcome = .ok a) (f : α → Traced β) :
    (x >>= f).events = x.events ++ (f a).events := by
  show (x.run >>= ExceptT.bindCont f).events = x.run.events ++ (f a).run.events
  rw [Logged.events_bind, show x.run.value = .ok a from h]
  rfl

/-- After an error, nothing more is reported. -/
theorem events_bind_of_error {x : Traced α} {error : ParseError} (h : x.outcome = .error error)
    (f : α → Traced β) : (x >>= f).events = x.events := by
  show (x.run >>= ExceptT.bindCont f).events = x.run.events
  rw [Logged.events_bind, show x.run.value = .error error from h]
  exact List.append_nil _

/-- What is made of the value of a computation is not reported. -/
@[simp] theorem events_bind_pure (x : Traced α) (f : α → β) :
    (x >>= fun a => pure (f a)).events = x.events := by
  cases h : x.outcome with
  | ok a => rw [events_bind_of_ok h, events_pure, List.append_nil]
  | error error => rw [events_bind_of_error h]

end Traced

end IntervalExpr
