import IntervalExpr.Proofs.Composition
import IntervalExpr.Proofs.Quotation
import IntervalExpr.Proofs.Reuse

/-!
# The log of a parse

Parsing logs what it does, line by line, and the lines mirror the outcome: each subexpression that
is read has its line, and so has the fault or the order for which one is refused; a number that is
not read has none. An expression that comes out is logged once, and how it is normalized after that.

* `Line`, `Event.line`: the lines of the log.
* `Notice`, `Notice.unique`: the lines of a refused subexpression, by its error.
* `Shape.reports_convert`, `Parser.reports_run`: what a run of the parser logs.
* `Parser.lines_parse_of_ok`, `Parser.notice_parse`: what one subexpression logs.
* `lines_parsePieces_append`: the lines of several pieces, up to the first that is refused.
* `Expression.lines_normalizeLogged`: the lines of a normalization.
* `Expression.Transcript`, `Expression.transcript_exact`: the log of a parse, by its outcome.
-/

namespace IntervalExpr

open Text (quote)

/-- A line of the log: what it is about, and the message. -/
abbrev Line : Type := Topic × String

/-- The line in which an event is logged. -/
def Event.line (event : Event) : Line := (event.topic, event.message)

/-- What a computation logs, line by line. -/
def Traced.lines {α : Type} (x : Traced α) : List Line := x.events.map Event.line

/-! ## The lines of a subexpression -/

/-- The line of a subexpression that is read. -/
def acceptedLine (text : String) (s : Subinterval) : Line :=
  (.subexpression, "Subexpression " ++ quote text ++ " => " ++ s.display)

/-- The lines of a subexpression that is refused with an error. A foreign character is told with its
position counted from zero, a token with its column counted from one. -/
inductive Notice (text : String) : ParseError → List Line → Prop
  | illegal {c : Char} {position : Nat} :
      Notice text
        (.malformed text (some position)
          (some ("illegal character " ++ quote (String.singleton c))))
        [(.subexpression, "Illegal character '" ++ String.singleton c ++ "' at " ++
          toString position ++ " in " ++ quote text)]
  | unexpected {lexeme : String} {position : Nat} :
      Notice text (.malformed text (some position) (some ("unexpected " ++ quote lexeme)))
        [(.subexpression, toString (position + 1) ++ ": Syntax error at '" ++ lexeme ++ "' in " ++
          quote text)]
  | incomplete :
      Notice text (.malformed text none (some "unexpected end of subexpression"))
        [(.subexpression, "Syntax error at end of " ++ quote text)]
  | reversed {first last : Nat} :
      Notice text (.reversedRange text first last)
        [(.subexpression, "Range " ++ toString first ++ "-" ++ toString last ++
          " in non-increasing order")]
  | outOfRange {literal} : Notice text (.outOfRange text literal) []
  | tooManyDigits {count} : Notice text (.tooManyDigits count) []

/-- What is logged up to an outcome: nothing, unless a subexpression is refused. -/
inductive Reports (text : String) : Except ParseError Subinterval → List Line → Prop
  | ok {s} : Reports text (.ok s) []
  | error {error lines} : Notice text error lines → Reports text (.error error) lines

theorem Reports.lines_eq_nil {text : String} {s : Subinterval} {lines : List Line}
    (h : Reports text (.ok s) lines) : lines = [] := by
  cases h
  rfl

theorem Reports.notice {text : String} {error : ParseError} {lines : List Line}
    (h : Reports text (.error error) lines) : Notice text error lines := by
  cases h with
  | error hn => exact hn

theorem detail_illegal_ne (found other : String) :
    "illegal character " ++ found ≠ "unexpected " ++ other := by
  intro h
  have hchars := congrArg String.toList h
  simp at hchars

/-- An error tells which of its lines stands in the log. -/
theorem Notice.unique {text : String} {error : ParseError} {lines more : List Line}
    (h : Notice text error lines) (h' : Notice text error more) : lines = more := by
  generalize he : error = same at h'
  cases h with
  | illegal =>
    cases h' with
    | illegal =>
      simp only [ParseError.malformed.injEq, Option.some.injEq, true_and, Nat.cast_inj,
        String.append_right_inj, Text.quote_inj, String.singleton_inj] at he
      rw [he.1, he.2]
    | unexpected =>
      simp only [ParseError.malformed.injEq, Option.some.injEq] at he
      exact absurd he.2.2 (detail_illegal_ne _ _)
    | _ => cases he
  | unexpected =>
    cases h' with
    | illegal =>
      simp only [ParseError.malformed.injEq, Option.some.injEq] at he
      exact absurd he.2.2.symm (detail_illegal_ne _ _)
    | unexpected =>
      simp only [ParseError.malformed.injEq, Option.some.injEq, true_and, Nat.cast_inj,
        String.append_right_inj, Text.quote_inj] at he
      rw [he.1, he.2]
    | _ => cases he
  | reversed =>
    cases h' with
    | reversed =>
      simp only [ParseError.reversedRange.injEq, true_and, Nat.cast_inj] at he
      rw [he.1, he.2]
    | _ => cases he
  | incomplete | outOfRange | tooManyDigits =>
    cases h' <;> first | rfl | cases he

theorem Unreadable.notice {text : String} {digits : List Char} {error : ParseError}
    (h : Unreadable text digits error) : Notice text error [] := by
  cases h with
  | tooManyDigits hlength => exact .tooManyDigits
  | outOfRange hlength hlt => exact .outOfRange

theorem notice_ofFault (text : String) (fault : Fault) :
    Notice text (.ofFault text fault) [(Event.rejected text fault).line] := by
  cases fault with
  | illegal c position => exact .illegal
  | unexpected token => exact .unexpected
  | incomplete => exact .incomplete

theorem reports_reject (text : String) (fault : Fault) :
    Reports text (Traced.reject text fault : Traced Subinterval).outcome
      (Traced.reject text fault : Traced Subinterval).lines :=
  .error (notice_ofFault text fault)

/-- A literal is read silently, and what follows it decides the rest. -/
theorem reports_readLiteral_bind {text : String} {digits : List Char}
    {f : Nat → Traced Subinterval} (h : ∀ n, Reports text (f n).outcome (f n).lines) :
    Reports text ((liftM (readLiteral text digits) : Traced Nat) >>= f).outcome
      ((liftM (readLiteral text digits) : Traced Nat) >>= f).lines := by
  rw [Traced.outcome_bind, Traced.outcome_liftExcept, Traced.lines]
  cases hd : readLiteral text digits with
  | ok n =>
    rw [Traced.events_bind_of_ok rfl]
    exact h n
  | error error =>
    rw [Traced.events_bind_of_error rfl]
    exact .error (readLiteral_eq_error_iff.mp hd).notice

/-- A shape is converted silently, unless it is a range that ends before it starts. -/
theorem Shape.reports_convert (text : String) (shape : Shape) :
    Reports text (shape.convert text).outcome (shape.convert text).lines := by
  cases shape with
  | star => exact .ok
  | number digits => exact reports_readLiteral_bind fun n => .ok
  | opened digits => exact reports_readLiteral_bind fun first => .ok
  | range firstDigits lastDigits =>
    refine reports_readLiteral_bind fun first => reports_readLiteral_bind fun last => ?_
    split
    · exact .ok
    · exact .error .reversed

theorem Progress.reports_conclude (text : String) (progress : Progress) :
    Reports text (progress.conclude text).outcome (progress.conclude text).lines := by
  cases progress with
  | nothing => exact reports_reject text .incomplete
  | shape shape => exact shape.reports_convert text
  | complete subinterval => exact .ok

namespace Parser

variable {parser : Parser} {text : String} {s : Subinterval} {error : ParseError}

theorem value_run_load (parser : Parser) (text : String) :
    (parser.load text).run.value.2 = parseSubexpression text := by
  rw [← value_parse, value_parse_eq_parseSubexpression]

/-- A run logs nothing before it ends, and then what its outcome calls for. -/
theorem reports_run (parser : Parser) :
    Reports parser.text parser.run.value.2 (parser.run.events.map Event.line) := by
  induction parser using run.induct with
  | case1 parser shape hc ih =>
    have hconvert : Reports parser.text (shape.convert parser.text).run.value
        ((shape.convert parser.text).run.events.map Event.line) :=
      shape.reports_convert parser.text
    rw [run_closed hc, Logged.value_bind, Logged.events_bind, List.map_append]
    cases hs : (shape.convert parser.text).run.value with
    | ok subinterval =>
      rw [hs] at hconvert
      rw [hconvert.lines_eq_nil]
      exact ih subinterval
    | error error =>
      rw [hs] at hconvert
      simpa using hconvert
  | case2 parser hc hs =>
    rw [run_finished hc hs]
    exact parser.progress.reports_conclude parser.text
  | case3 parser hc c p hs =>
    rw [run_illegal hc hs]
    exact reports_reject parser.text (.illegal c p)
  | case4 parser hc t rest hs hshift =>
    rw [run_unexpected hc hs hshift]
    exact reports_reject parser.text (.unexpected t)
  | case5 parser hc t rest hs longer hshift hlt ih =>
    rw [run_shift hc hs hshift]
    exact ih

/-- A text is reported after the run over it, if that succeeds. -/
theorem events_parse (parser : Parser) (text : String) :
    (parser.parse text).events = (parser.load text).run.events ++
      match parseSubexpression text with
      | .ok s => [.accepted text s]
      | .error _ => [] := by
  rw [← parser.value_run_load text, parse, Logged.events_bind]
  congr 1
  split
  rename_i outcome hr
  rw [hr]
  cases outcome <;> rfl

/-- A subexpression that is read logs one line. -/
theorem lines_parse_of_ok (parser : Parser) (h : parseSubexpression text = .ok s) :
    (parser.parse text).events.map Event.line = [acceptedLine text s] := by
  have hrun := reports_run (parser.load text)
  rw [value_run_load, h] at hrun
  rw [events_parse, h, List.map_append, hrun.lines_eq_nil]
  rfl

/-- A subexpression that is refused logs what its error calls for. -/
theorem notice_parse (parser : Parser) (h : parseSubexpression text = .error error) :
    Notice text error ((parser.parse text).events.map Event.line) := by
  have hrun := reports_run (parser.load text)
  rw [value_run_load, h] at hrun
  rw [events_parse, h, List.append_nil]
  exact hrun.notice

end Parser

/-! ## The lines of several subexpressions -/

section Pieces

variable {before : List String} {read : List Subinterval} {part : String} {s : Subinterval}
  {error : ParseError}

/-- A piece that is read has its line, before the parser goes on as that piece leaves it. -/
theorem lines_parsePieces_cons_of_ok (parser : Parser) (pieces : List (List Char))
    (h : parseSubexpression part = .ok s) :
    (parsePieces parser (part.toList :: pieces)).lines =
      acceptedLine part s :: (parsePieces (parser.next part) pieces).lines := by
  rw [Traced.lines, parsePieces, String.ofList_toList,
    Traced.events_bind_of_ok (Traced.outcome_liftLogged _), List.map_append,
    Traced.events_liftLogged, parser.lines_parse_of_ok h, parser.value_parse_eq_next, h,
    Traced.events_bind_of_ok (Traced.outcome_liftExcept _), Traced.events_liftExcept,
    Traced.events_bind_pure]
  rfl

/-- The first piece that is refused ends the log. -/
theorem notice_parsePieces_cons (parser : Parser) (pieces : List (List Char))
    (h : parseSubexpression part = .error error) :
    Notice part error (parsePieces parser (part.toList :: pieces)).lines := by
  rw [Traced.lines, parsePieces, String.ofList_toList,
    Traced.events_bind_of_ok (Traced.outcome_liftLogged _), List.map_append,
    Traced.events_liftLogged, parser.value_parse_eq_next, h,
    Traced.events_bind_of_error (Traced.outcome_liftExcept _), Traced.events_liftExcept,
    List.map_nil, List.append_nil]
  exact parser.notice_parse h

/-- The pieces that are read have a line each, in order, before those of the other pieces. -/
theorem lines_parsePieces_append (parser : Parser) (pieces : List (List Char))
    (h : before.map parseSubexpression = read.map .ok) :
    (parsePieces parser (before.map String.toList ++ pieces)).lines =
      List.zipWith acceptedLine before read ++
        (parsePieces (parser.after before) pieces).lines := by
  induction before generalizing parser read with
  | nil => rfl
  | cons part before ih =>
    cases read with
    | nil => cases h
    | cons s read =>
      obtain ⟨hpart, hbefore⟩ := List.cons.inj h
      rw [List.map_cons, List.cons_append, lines_parsePieces_cons_of_ok parser _ hpart,
        ih (parser.next part) hbefore]
      rfl

theorem lines_parsePieces (parser : Parser) (h : before.map parseSubexpression = read.map .ok) :
    (parsePieces parser (before.map String.toList)).lines =
      List.zipWith acceptedLine before read := by
  rw [← List.append_nil (before.map String.toList), lines_parsePieces_append parser [] h]
  exact List.append_nil _

theorem outcome_parsePieces_toList (parser : Parser) (parts : List String) :
    (parsePieces parser (parts.map String.toList)).outcome = parts.mapM parseSubexpression := by
  rw [outcome_parsePieces, List.map_map]
  exact congrArg _ (List.map_id'' (fun _ => String.ofList_toList) _)

end Pieces

namespace Expression

/-! ## The lines of a normalization -/

/-- The line of an extension in a merge. -/
def extendedLine (x : Extension) : Line :=
  (.merging, "Merge " ++ x.current.toString ++ " and " ++ x.next.toString ++ " into " ++
    x.union.toString)

/-- The line of an expression that is normalized. -/
def normalizedLine (e : Expression) : Line :=
  (.expression, "Normalized " ++ e.toString ++ " => " ++ e.merged.toString)

/-- The lines of a normalization: those of the merge and then its own. There are none where nothing
is to be merged. -/
def normalizationLines (e : Expression) : List Line :=
  if e.subintervals = [] ∨ .wildcard ∈ e.subintervals then []
  else (Subinterval.mergeLogged e.subintervals).events.map extendedLine ++ [e.normalizedLine]

/-- Where no number is too long, these lines are what normalizing logs. -/
theorem lines_normalizeLogged {e : Expression} (h : ¬ e.Oversized) :
    e.normalizeLogged.events.map Event.line = e.normalizationLines := by
  unfold normalizeLogged normalizationLines
  simp only [matchesNone, List.isEmpty_iff, matchesAll, Subinterval.any_isWildcard_iff]
  by_cases hnil : e.subintervals = []
  · rw [if_pos hnil, if_pos (.inl hnil)]
    rfl
  by_cases hw : .wildcard ∈ e.subintervals
  · rw [if_neg hnil, if_pos hw, if_pos (.inr hw)]
    rfl
  rw [if_neg hnil, if_neg hw, if_neg (not_or.mpr ⟨hnil, hw⟩), Logged.events_bind, List.map_append,
    Logged.events_mapEvents, List.map_map]
  congr 1
  show (e.reportNormalized e.merged).events.map Event.line = [e.normalizedLine]
  rw [reportNormalized, write_merged h]
  rfl

/-- Whether normalizing is refused or not, its log is the log of a parse that ends with it. -/
theorem events_normalizeTraced (e : Expression) :
    e.normalizeTraced.events = e.normalizeLogged.events := by
  rw [normalizeTraced, Traced.events_bind_of_ok (Traced.outcome_liftLogged _),
    Traced.events_liftLogged, Traced.events_liftExcept, List.append_nil]

/-! ## The lines of a parse -/

/-- The line of a text that is read as so many subintervals. -/
def parsedLine (text : String) (count : Nat) : Line :=
  (.expression, "Parsed " ++ quote text ++ " into " ++ toString count ++ " subintervals")

/-- What a parse comes to, and its log. The subexpressions are logged from left to right, up to the
first that is refused. Only an expression that comes out is logged, and the normalization after
that, if it is asked for. -/
inductive Transcript (text : String) (options : Options) :
    Except ParseError Expression → List Line → Prop
  | emptyDelimiter : options.delimiter = "" →
      Transcript text options (.error (.emptyDelimiter text)) []
  | refused {before read part after error lines} : options.delimiter ≠ "" →
      Subexpressions options.delimiter text (before ++ part :: after) →
      before.map parseSubexpression = read.map .ok →
      parseSubexpression part = .error error → Notice part error lines →
      Transcript text options (.error error) (List.zipWith acceptedLine before read ++ lines)
  | nothing : options.delimiter ≠ "" → Subexpressions options.delimiter text [] →
      options.allowEmpty = false → Transcript text options (.error (.emptyExpression text)) []
  | parsed {parts read} : options.delimiter ≠ "" →
      Subexpressions options.delimiter text parts →
      parts.map parseSubexpression = read.map .ok →
      (parts = [] → options.allowEmpty = true) → options.normalize = false →
      Transcript text options (.ok ⟨read, options⟩)
        (List.zipWith acceptedLine parts read ++ [parsedLine text parts.length])
  | normalized {parts read} : options.delimiter ≠ "" →
      Subexpressions options.delimiter text parts →
      parts.map parseSubexpression = read.map .ok →
      (parts = [] → options.allowEmpty = true) → options.normalize = true →
      Transcript text options (.ok ⟨Subinterval.merge read, options⟩)
        (List.zipWith acceptedLine parts read ++
          parsedLine text parts.length :: normalizationLines ⟨read, options⟩)

variable {text : String} {options : Options} {outcome : Except ParseError Expression}
  {lines : List Line}

theorem Transcript.comesTo (h : Transcript text options outcome lines) :
    ComesTo text options outcome := by
  cases h with
  | emptyDelimiter hd => exact .emptyDelimiter hd
  | refused hd hparts hread hpart hn =>
    exact .refused hd hparts (exists_results_iff.mp ⟨_, hread⟩) hpart
      (isAbout_of_parseSubexpression hpart)
  | nothing hd hparts hempty => exact .nothing hd hparts hempty
  | parsed hd hparts hread hempty hnorm =>
    simpa [hnorm] using ComesTo.expression hd hparts hread hempty
  | normalized hd hparts hread hempty hnorm =>
    simpa [hnorm] using ComesTo.expression hd hparts hread hempty

theorem ComesTo.exists_transcript (h : ComesTo text options outcome) :
    ∃ lines, Transcript text options outcome lines := by
  cases h with
  | emptyDelimiter hd => exact ⟨_, .emptyDelimiter hd⟩
  | refused hd hparts hbefore hpart _ =>
    obtain ⟨read, hread⟩ := exists_results_iff.mpr hbefore
    exact ⟨_, .refused hd hparts hread hpart (Parser.fresh.notice_parse hpart)⟩
  | nothing hd hparts hempty => exact ⟨_, .nothing hd hparts hempty⟩
  | expression hd hparts hread hempty =>
    cases hnorm : options.normalize with
    | false => exact ⟨_, .parsed hd hparts hread hempty hnorm⟩
    | true => exact ⟨_, .normalized hd hparts hread hempty hnorm⟩

/-- A refusal ends the log of a parse. -/
theorem lines_parseTraced_of_refused {before after : List String} {read : List Subinterval}
    {part : String} {error : ParseError} (hd : options.delimiter ≠ "")
    (hparts : Subexpressions options.delimiter text (before ++ part :: after))
    (hread : before.map parseSubexpression = read.map .ok)
    (hpart : parseSubexpression part = .error error) :
    ∃ lines, Notice part error lines ∧
      (parseTraced text options).lines = List.zipWith acceptedLine before read ++ lines := by
  have houtcome : (parsePieces .fresh
      ((before ++ part :: after).map String.toList)).outcome = .error error := by
    rw [outcome_parsePieces_toList, mapM_eq_error_iff]
    exact ⟨before, part, after, rfl, exists_results_iff.mp ⟨read, hread⟩, hpart⟩
  refine ⟨_, notice_parsePieces_cons (Parser.fresh.after before) (after.map String.toList) hpart,
    ?_⟩
  rw [← lines_parsePieces_append .fresh _ hread, ← List.map_cons, ← List.map_append,
    parseTraced, dif_neg (toList_ne_nil hd), hparts.nonEmptyPieces_eq, Traced.lines,
    Traced.events_bind_of_error houtcome, Traced.lines]

/-- Where all subexpressions are read, what follows them is logged after them. -/
theorem lines_parseTraced_of_read {parts : List String} {read : List Subinterval}
    (hd : options.delimiter ≠ "") (hparts : Subexpressions options.delimiter text parts)
    (hread : parts.map parseSubexpression = read.map .ok) :
    (parseTraced text options).lines = List.zipWith acceptedLine parts read ++
      if parts = [] ∧ options.allowEmpty = false then [] else
        parsedLine text parts.length ::
          if options.normalize then normalizationLines ⟨read, options⟩ else [] := by
  have houtcome : (parsePieces .fresh (parts.map String.toList)).outcome = .ok read := by
    rw [outcome_parsePieces_toList, mapM_eq_ok_iff.mpr hread]
  rw [parseTraced, dif_neg (toList_ne_nil hd), hparts.nonEmptyPieces_eq, Traced.lines,
    Traced.events_bind_of_ok houtcome, List.map_append, ← Traced.lines, lines_parsePieces _ hread]
  have hlength : parts.length = read.length := by
    rw [← List.length_map parseSubexpression, hread, List.length_map]
  congr 1
  simp only [matchesNone, Bool.and_eq_true, List.isEmpty_iff, Bool.not_eq_true',
    ← List.length_eq_zero_iff, hlength]
  split
  · rfl
  · rw [Traced.events_bind_of_ok (Traced.outcome_report _), Traced.events_report]
    cases options.normalize with
    | false => rfl
    | true =>
      have hshort : ¬ Oversized ⟨read, options⟩ :=
        not_oversized_of_inRange (inRange_of_map_eq hread)
      have hlines := lines_normalizeLogged hshort
      rw [← events_normalizeTraced] at hlines
      exact congrArg _ hlines

theorem Transcript.lines_eq (h : Transcript text options outcome lines) :
    (parseTraced text options).lines = lines := by
  cases h with
  | emptyDelimiter hd =>
    rw [parseTraced, dif_pos (by rw [hd]; rfl)]
    rfl
  | refused hd hparts hread hpart hn =>
    obtain ⟨lines, hn', hlines⟩ := lines_parseTraced_of_refused hd hparts hread hpart
    rw [hlines, hn'.unique hn]
  | nothing hd hparts hempty =>
    have hread : [].map parseSubexpression = [].map .ok := rfl
    rw [lines_parseTraced_of_read hd hparts hread, if_pos ⟨rfl, hempty⟩]
    rfl
  | parsed hd hparts hread hempty hnorm =>
    rw [lines_parseTraced_of_read hd hparts hread, if_neg (by grind), hnorm]
    rfl
  | normalized hd hparts hread hempty hnorm =>
    rw [lines_parseTraced_of_read hd hparts hread, if_neg (by grind), hnorm]
    rfl

/-- Parsing a text comes to the outcome and to the log that its transcript tells, and to no other:
a line for each subexpression that is read, from left to right; after these the line of the one that
is refused, unless it is refused for a number that is not read; and one line for the expression, but
only if it comes out, with those of its normalization behind it. -/
theorem transcript_exact (text : String) (options : Options)
    (outcome : Except ParseError Expression) (lines : List Line) :
    parse text options = outcome ∧ (parseTraced text options).lines = lines ↔
      Transcript text options outcome lines := by
  constructor
  · rintro ⟨houtcome, rfl⟩
    obtain ⟨lines, h⟩ := (comesTo_of_parse_eq houtcome).exists_transcript
    rwa [h.lines_eq]
  · intro h
    exact ⟨h.comesTo.parse_eq, h.lines_eq⟩

-- The reversed range ends the log, before the expression could be logged.
example : (parseTraced "7,,5-3" .default).events = [.accepted "7" (.single 7), .reversed 5 3] := by
  cbv

end Expression

end IntervalExpr
