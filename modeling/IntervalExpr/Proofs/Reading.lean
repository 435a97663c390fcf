import IntervalExpr.Proofs.Beginning
import IntervalExpr.Subexpression.Parser

/-!
# What a parser makes of the items of a text

A parser reads the longest beginning of the items that makes a shape, or nothing, and looks at no
more than one item after it. A closed shape is converted first, anything else only if no item
follows.

* `Parser.run_closed`, `run_finished`, `run_illegal`, `run_unexpected`, `run_shift`: the steps of a
  run.
* `judge`: the outcome that a shape and the item after it lead to.
* `parseSubexpression_eq_judge`, `parseSubexpression_eq_iff`: every text has that outcome.
-/

namespace IntervalExpr

/-! ## The steps of a run -/

namespace Parser

variable {text : String} {cursor rest : Cursor} {progress longer : Progress} {shape : Shape}
  {token : Token} {c : Char} {p : Nat}

/-- A closed shape is converted before anything else is read. -/
theorem run_closed (h : progress.closed? = some shape) :
    (Parser.mk text cursor progress).run = (shape.convert text).run >>= fun outcome =>
      match outcome with
      | .ok subinterval => (Parser.mk text cursor (.complete subinterval)).run
      | .error error => pure (Parser.mk text cursor progress, .error error) := by
  rw [run]
  split
  · rename_i shape' h'
    simp only [h, Option.some.injEq] at h'
    subst h'
    rfl
  · simp_all

theorem run_finished (h : progress.closed? = none) (hs : cursor.scan = .finished) :
    (Parser.mk text cursor progress).run =
      (Parser.mk text cursor progress).stop (progress.conclude text) := by
  rw [run]
  split
  · simp_all
  · simp only [hs]

theorem run_illegal (h : progress.closed? = none) (hs : cursor.scan = .illegal c p) :
    (Parser.mk text cursor progress).run =
      (Parser.mk text cursor progress).stop (Traced.reject text (.illegal c p)) := by
  rw [run]
  split
  · simp_all
  · simp only [hs]

theorem run_unexpected (h : progress.closed? = none) (hs : cursor.scan = .token token rest)
    (hshift : progress.shift? token.symbol = none) :
    (Parser.mk text cursor progress).run =
      (Parser.mk text rest progress).stop (Traced.reject text (.unexpected token)) := by
  rw [run]
  split
  · simp_all
  · simp only [hs]
    split
    · rfl
    · simp_all

theorem run_shift (h : progress.closed? = none) (hs : cursor.scan = .token token rest)
    (hshift : progress.shift? token.symbol = some longer) :
    (Parser.mk text cursor progress).run = (Parser.mk text rest longer).run := by
  rw [run]
  split
  · simp_all
  · simp only [hs]
    split
    · simp_all
    · rename_i h'
      simp only [hshift, Option.some.injEq] at h'
      subst h'
      rfl

/-- The outcome of a parser does not depend on what it has read before. -/
theorem value_parse (parser : Parser) (text : String) :
    (parser.parse text).value.2 = (parser.load text).run.value.2 := by
  simp only [parse, Logged.value_bind]
  split <;> rfl

/-- A parser that has read other texts comes to the outcome of a new one. -/
theorem value_parse_eq_parseSubexpression (parser : Parser) (text : String) :
    (parser.parse text).value.2 = parseSubexpression text := by
  rw [parseSubexpression, value_parse, value_parse]
  rfl

end Parser

/-! ## The outcome of a run -/

/-- The error of a text that is given up at an item. -/
def Item.rejection (text : String) : Item → ParseError
  | .token t => .malformed text (some t.position)
      (some ("unexpected " ++ Text.quote (String.ofList t.symbol.lexeme)))
  | .foreign c position => .malformed text (some position)
      (some ("illegal character " ++ Text.quote (String.singleton c)))

/-- An outcome that stands only if no item follows. -/
def orNext (text : String) (next? : Option Item) (outcome : Except ParseError Subinterval) :
    Except ParseError Subinterval :=
  match next? with
  | none => outcome
  | some x => .error (x.rejection text)

/-- The outcome of a text of which the longest beginning makes `shape?`, before `next?`. -/
def judge (text : String) (shape? : Option Shape) (next? : Option Item) :
    Except ParseError Subinterval :=
  match shape? with
  | none => orNext text next? (.error (.ofFault text .incomplete))
  | some shape =>
    if shape.isClosed then (shape.convert text).outcome >>= fun s => orNext text next? (.ok s)
    else orNext text next? (shape.convert text).outcome

/-- The progress of a parser that has read a shape, or nothing. -/
def Progress.ofShape? : Option Shape → Progress
  | none => .nothing
  | some s => .shape s

theorem shift?_ofShape? (shape? : Option Shape) (symbol : Symbol) :
    (Progress.ofShape? shape?).shift? symbol = (grow? shape? symbol).map .shape := by
  cases shape? <;> rfl

section Run

variable {text : String} {p : Nat} {unread : List Char} {progress : Progress} {items : List Item}

/-- A run ends where the next item, if there is one, goes on with no shape. -/
theorem value_run_of_stuck (hi : Itemized p unread items) (hc : progress.closed? = none)
    (hx : ∀ x, items.head? = some x → x.symbol?.bind progress.shift? = none) :
    (Parser.mk text ⟨unread, p⟩ progress).run.value.2 =
      orNext text items.head? (progress.conclude text).outcome := by
  cases hi with
  | nil hw => rw [Parser.run_finished hc (scan_blanks hw)]; rfl
  | symbol hw hs hrest => rw [Parser.run_unexpected hc (scan_symbol hw hs) (hx _ rfl)]; rfl
  | foreign hw hf hrest => rw [Parser.run_illegal hc (scan_foreign hw hf)]; rfl

/-- After a closed shape the run converts it, and then stands only if no item follows. -/
theorem value_run_of_closed (hi : Itemized p unread items) {shape : Shape}
    (hc : progress.closed? = some shape) :
    (Parser.mk text ⟨unread, p⟩ progress).run.value.2 =
      (shape.convert text).outcome >>= fun s => orNext text items.head? (.ok s) := by
  rw [Parser.run_closed hc, Logged.value_bind]
  show _ = (shape.convert text).run.value >>= _
  cases (shape.convert text).run.value with
  | error error => rfl
  | ok s => exact value_run_of_stuck hi rfl fun x _ => by cases x <;> rfl

theorem closed?_of_isClosed {shape? : Option Shape} {shape : Shape}
    (h : (Progress.ofShape? shape?).closed? = some shape) :
    shape? = some shape ∧ shape.isClosed = true := by
  cases shape? with
  | none => cases h
  | some s =>
    simp only [Progress.ofShape?, Progress.closed?] at h
    split at h
    · rename_i hs
      cases h
      exact ⟨rfl, hs⟩
    · cases h

/-- A shape that goes on is not closed. -/
theorem closed?_of_grow? {shape? : Option Shape} {symbol : Symbol} {longer : Shape}
    (h : grow? shape? symbol = some longer) : (Progress.ofShape? shape?).closed? = none := by
  cases hc : (Progress.ofShape? shape?).closed? with
  | none => rfl
  | some shape =>
    obtain ⟨rfl, hs⟩ := closed?_of_isClosed hc
    rw [show grow? (some shape) symbol = none from Shape.isClosed_iff.mp hs symbol] at h
    cases h

/-- If no item goes on with the shape, the run comes to what `judge` says of the next item. -/
theorem value_run_of_stuck_shape (hi : Itemized p unread items) {shape? : Option Shape}
    (hx : ∀ x, items.head? = some x → x.symbol?.bind (grow? shape?) = none) :
    (Parser.mk text ⟨unread, p⟩ (.ofShape? shape?)).run.value.2 =
      judge text shape? items.head? := by
  cases hc : (Progress.ofShape? shape?).closed? with
  | some shape =>
    obtain ⟨rfl, hs⟩ := closed?_of_isClosed hc
    rw [value_run_of_closed hi hc, judge, if_pos hs]
  | none =>
    have hshift : ∀ x, items.head? = some x →
        x.symbol?.bind (Progress.ofShape? shape?).shift? = none := by
      intro x hhead
      have hgrow := hx x hhead
      cases hs : x.symbol? with
      | none => rfl
      | some symbol =>
        rw [hs, Option.bind_some] at hgrow
        rw [Option.bind_some, shift?_ofShape?, hgrow, Option.map_none]
    rw [value_run_of_stuck hi hc hshift]
    cases shape? with
    | none => rfl
    | some shape =>
      have hs : ¬ shape.isClosed = true := by
        simpa [Progress.ofShape?, Progress.closed?] using hc
      rw [judge, if_neg hs]
      rfl

/-- Reading on from a shape, or from nothing, comes to what `judge` says. -/
theorem value_run_eq_judge (hi : Itemized p unread items) (shape? : Option Shape) :
    (Parser.mk text ⟨unread, p⟩ (.ofShape? shape?)).run.value.2 =
      judge text (readOn shape? items).1 (readOn shape? items).2.head? := by
  induction hi generalizing shape? with
  | nil hw => exact value_run_of_stuck_shape (.nil hw) nofun
  | symbol hw hs hrest ih =>
    rename_i q w symbol rest more
    simp only [readOn, Item.symbol?, Option.bind_some]
    cases hgrow : grow? shape? symbol with
    | none => exact value_run_of_stuck_shape (.symbol hw hs hrest) (by simpa [Item.symbol?])
    | some longer =>
      have hshift : (Progress.ofShape? shape?).shift? symbol = some (.ofShape? (some longer)) := by
        rw [shift?_ofShape?, hgrow]; rfl
      rw [Parser.run_shift (closed?_of_grow? hgrow) (scan_symbol hw hs) hshift]
      exact ih (some longer)
  | foreign hw hf hrest =>
    exact value_run_of_stuck_shape (.foreign hw hf hrest) (by simp [Item.symbol?])

end Run

/-- A text comes to what `judge` says of its longest beginning and the item after it. -/
theorem parseSubexpression_eq_judge {text : String} {items : List Item} {shape? : Option Shape}
    {next? : Option Item} (hi : Itemized 0 text.toList items)
    (hl : LongestBeginning items shape? next?) :
    parseSubexpression text = judge text shape? next? := by
  obtain ⟨rfl, rfl⟩ := hl.unique (longestBeginning_readOn items)
  rw [parseSubexpression, Parser.value_parse]
  exact value_run_eq_judge hi none

/-- The outcome of a text is what its longest beginning and the item after it are judged to be. -/
theorem parseSubexpression_eq_iff {text : String} {outcome : Except ParseError Subinterval} :
    parseSubexpression text = outcome ↔
      ∃ items shape? next?, Itemized 0 text.toList items ∧
        LongestBeginning items shape? next? ∧ judge text shape? next? = outcome := by
  constructor
  · intro h
    obtain ⟨items, hi⟩ := exists_itemized 0 text.toList
    have hl := longestBeginning_readOn items
    rw [parseSubexpression_eq_judge hi hl] at h
    exact ⟨items, _, _, hi, hl, h⟩
  · rintro ⟨items, shape?, next?, hi, hl, h⟩
    rw [parseSubexpression_eq_judge hi hl, h]

end IntervalExpr
