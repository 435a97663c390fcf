import IntervalExpr.Proofs.Lexing
import IntervalExpr.Proofs.Reading

/-!
# Parsers that have read other texts

Between two texts a parser keeps what the last one left behind: the text, the place reached in it
and the progress made, which may be any part of a shape. None of this shows in what it makes of the
next text.

* `Parser.StandsIn`: a parser stands somewhere in a text.
* `Parser.standsIn_run`: reading on does not leave the text.
* `Parser.next`, `Parser.after`: a parser as one text, and as several texts leave it.
* `Parser.parseEach_append`: a row of texts is read in two parts.
* `Parser.reuse_exact`: whatever a parser has read before, it reads a text as a new one does.
-/

namespace IntervalExpr

namespace Parser

/-- The parser stands at a place of the text that it remembers. -/
structure StandsIn (parser : Parser) (text : String) : Prop where
  text_eq : parser.text = text
  drop_eq : text.toList.drop parser.cursor.position = parser.cursor.unread

variable {parser : Parser} {text : String}

theorem standsIn_load (parser : Parser) (text : String) : (parser.load text).StandsIn text :=
  ⟨rfl, rfl⟩

/-- Reading on does not leave the text, wherever it ends. -/
theorem standsIn_run (h : parser.StandsIn text) : parser.run.value.1.StandsIn text := by
  induction parser using run.induct with
  | case1 parser shape hc ih =>
    rw [run_closed hc, Logged.value_bind]
    split
    · exact ih _ ⟨h.text_eq, h.drop_eq⟩
    · exact h
  | case2 parser hc hs =>
    rw [run_finished hc hs]
    exact h
  | case3 parser hc c p hs =>
    rw [run_illegal hc hs]
    exact h
  | case4 parser hc t rest hs hshift =>
    rw [run_unexpected hc hs hshift]
    exact ⟨h.text_eq, drop_of_scan h.drop_eq hs⟩
  | case5 parser hc t rest hs longer hshift hlt ih =>
    rw [run_shift hc hs hshift]
    exact ih ⟨h.text_eq, drop_of_scan h.drop_eq hs⟩

/-! ## Rows of texts -/

/-- The parser as one more text leaves it. -/
def next (parser : Parser) (text : String) : Parser := (parser.parse text).value.1

/-- The parser as some more texts leave it. -/
def after (parser : Parser) (history : List String) : Parser := history.foldl next parser

theorem next_eq (parser : Parser) (text : String) :
    parser.next text = (parser.load text).run.value.1 := by
  simp only [next, parse, Logged.value_bind]
  split <;> rfl

/-- A parser comes to the outcome of a new one, and is left behind. -/
theorem value_parse_eq_next (parser : Parser) (text : String) :
    (parser.parse text).value = (parser.next text, parseSubexpression text) :=
  Prod.ext rfl (parser.value_parse_eq_parseSubexpression text)

/-- After a text the parser stands in that text, be it read to its end or given up halfway. -/
theorem standsIn_next (parser : Parser) (text : String) : (parser.next text).StandsIn text := by
  rw [next_eq]
  exact standsIn_run (parser.standsIn_load text)

theorem after_concat (parser : Parser) (history : List String) (text : String) :
    parser.after (history ++ [text]) = (parser.after history).next text := by
  simp [after]

/-- Everything a parser keeps of earlier texts is replaced before a new one is read. -/
theorem parse_eq_fresh (parser : Parser) (text : String) :
    parser.parse text = fresh.parse text := by
  have hload : parser.load text = fresh.load text := rfl
  rw [parse, hload, parse]

theorem parseEach_cons (parser : Parser) (text : String) (texts : List String) :
    parser.parseEach (text :: texts) =
      parseSubexpression text :: (parser.next text).parseEach texts := by
  rw [parseEach, value_parse_eq_next]

/-- After some texts, the others are read by the parser as the first ones leave it. -/
theorem parseEach_append (parser : Parser) (history more : List String) :
    parser.parseEach (history ++ more) =
      parser.parseEach history ++ (parser.after history).parseEach more := by
  induction history generalizing parser with
  | nil => rfl
  | cons text history ih =>
    rw [List.cons_append, parseEach_cons, parseEach_cons, List.cons_append, ih]
    rfl

theorem parseEach_eq_map (parser : Parser) (texts : List String) :
    parser.parseEach texts = texts.map parseSubexpression := by
  induction texts generalizing parser with
  | nil => rfl
  | cons text texts ih => rw [parseEach_cons, List.map_cons, ih]

/-- Whatever a parser has read before, and wherever that has left it, each further text comes to
what a new parser makes of it alone: the same outcome, the same report and the same things left
behind, which are a place in that text and the progress up to there. -/
theorem reuse_exact (parser : Parser) (history more : List String) (text : String) :
    parser.parseEach history = history.map parseSubexpression ∧
    parser.parseEach (history ++ more) =
      parser.parseEach history ++ (parser.after history).parseEach more ∧
    (parser.after history).parse text = fresh.parse text ∧
    (parser.after (history ++ [text])).StandsIn text := by
  refine ⟨parser.parseEach_eq_map history, parser.parseEach_append history more,
    parse_eq_fresh _ text, ?_⟩
  rw [after_concat]
  exact standsIn_next _ text

-- The range is given up before the foreign character behind it is read.
example : fresh.after ["1-2", "5-3x"] = ⟨"5-3x", ⟨['x'], 3⟩, .shape (.range ['5'] ['3'])⟩ := by cbv

end Parser

end IntervalExpr
