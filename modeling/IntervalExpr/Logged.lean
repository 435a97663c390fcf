/-!
# Values with a log

A computation that keeps a log yields the events it met, in order, beside its value.

* `Logged ε α`: the events and the value; a monad that joins the logs of its steps in order.
* `Logged.tell`: the log of one event.
* `events_bind`, `value_bind`: the log of a sequence is the sequence of the logs.
-/

namespace IntervalExpr

/-- A value and the events met on the way to it. -/
structure Logged (ε α : Type) where
  events : List ε
  value : α
  deriving DecidableEq

namespace Logged

variable {ε α β : Type}

/-- One log after the other. The first is not copied where the second is empty. -/
def join (first : List ε) : List ε → List ε
  | [] => first
  | event :: events => first ++ event :: events

theorem join_eq_append (first second : List ε) : join first second = first ++ second := by
  cases second <;> simp [join]

instance : Monad (Logged ε) where
  pure value := ⟨[], value⟩
  bind first next :=
    let second := next first.value
    ⟨join first.events second.events, second.value⟩

/-- The log of one event. -/
def tell (event : ε) : Logged ε Unit :=
  ⟨[event], ()⟩

/-- The same value, with every event renamed. -/
def mapEvents {δ : Type} (f : ε → δ) (x : Logged ε α) : Logged δ α :=
  ⟨x.events.map f, x.value⟩

@[simp] theorem events_pure (a : α) : (pure a : Logged ε α).events = [] := rfl

@[simp] theorem value_pure (a : α) : (pure a : Logged ε α).value = a := rfl

@[simp] theorem events_bind (x : Logged ε α) (f : α → Logged ε β) :
    (x >>= f).events = x.events ++ (f x.value).events :=
  join_eq_append x.events (f x.value).events

@[simp] theorem value_bind (x : Logged ε α) (f : α → Logged ε β) :
    (x >>= f).value = (f x.value).value := rfl

@[simp] theorem events_map (f : α → β) (x : Logged ε α) : (f <$> x).events = x.events := rfl

@[simp] theorem value_map (f : α → β) (x : Logged ε α) : (f <$> x).value = f x.value := rfl

@[simp] theorem events_tell (event : ε) : (tell event).events = [event] := rfl

@[simp] theorem events_mapEvents {δ : Type} (f : ε → δ) (x : Logged ε α) :
    (x.mapEvents f).events = x.events.map f := rfl

/-- Two logged values with the same events and the same value are equal. -/
@[ext] theorem ext {x y : Logged ε α} (events : x.events = y.events) (value : x.value = y.value) :
    x = y := by
  cases x
  cases y
  simp_all

instance : LawfulMonad (Logged ε) := LawfulMonad.mk' _
  (fun x => by ext <;> simp)
  (fun a f => by ext <;> simp)
  (fun x f g => by ext <;> simp)

end Logged

end IntervalExpr
