import IntervalExpr.Expression.Parse
import IntervalExpr.Proofs.Range
import IntervalExpr.Proofs.Rejection
import IntervalExpr.Proofs.Splitting

/-!
# Expressions by their subexpressions

The subexpressions of a text are its pieces that hold at least one character. What the text comes
to is decided by what each of them comes to on its own, from left to right.

* `Subexpressions`: the subexpressions of a text, in order.
* `mapM_eq_ok_iff`, `mapM_eq_error_iff`: reading a list succeeds for each member, or fails as its
  first failing member does.
* `Expression.parse_eq_mapM`: parsing reads the subexpressions and assembles the expression.
* `ParseError.IsAbout`: the text that an error tells.
* `Expression.inRange_of_parse`, `Expression.parse_ne_tooLong`: what is read is in range, so that
  normalizing it is not refused.
* `Expression.ComesTo`, `Expression.parse_eq_iff`: the order in which a text is judged.
-/

namespace IntervalExpr

/-! ## Subexpressions -/

/-- The subexpressions of a text: the pieces between delimiters, in order, that are not empty. -/
def Subexpressions (delimiter text : String) (parts : List String) : Prop :=
  ∃ pieces, Text.Decomposition delimiter.toList text.toList pieces ∧
    parts = (pieces.filter (· ≠ [])).map String.ofList

theorem toList_ne_nil {s : String} (h : s ≠ "") : s.toList ≠ [] := by
  simpa using h

theorem subexpressions_iff {delimiter text : String} {parts : List String}
    (hd : delimiter.toList ≠ []) : Subexpressions delimiter text parts ↔
      parts = (Text.nonEmptyPieces delimiter.toList hd text.toList).map String.ofList := by
  simp only [Subexpressions, Text.decomposition_iff hd, exists_eq_left']
  rfl

/-- The pieces that are not empty are the characters of the subexpressions. -/
theorem Subexpressions.nonEmptyPieces_eq {delimiter text : String} {parts : List String}
    (h : Subexpressions delimiter text parts) (hd : delimiter.toList ≠ []) :
    Text.nonEmptyPieces delimiter.toList hd text.toList = parts.map String.toList := by
  rw [(subexpressions_iff hd).mp h, List.map_map]
  exact (List.map_id'' (fun _ => String.toList_ofList) _).symm

/-- Under a delimiter that is not empty, a text has its subexpressions. -/
theorem exists_subexpressions {delimiter : String} (hd : delimiter ≠ "") (text : String) :
    ∃ parts, Subexpressions delimiter text parts :=
  ⟨_, (subexpressions_iff (toList_ne_nil hd)).mpr rfl⟩

theorem Subexpressions.unique {delimiter text : String} {parts more : List String}
    (hd : delimiter ≠ "") (h : Subexpressions delimiter text parts)
    (h' : Subexpressions delimiter text more) : parts = more := by
  rw [subexpressions_iff (toList_ne_nil hd)] at h h'
  rw [h, h']

/-! ## Reading a list -/

section MapM

variable {ε α β : Type} {f : α → Except ε β} {l : List α} {error : ε}

/-- A list is read if each of its members is. -/
theorem mapM_eq_ok_iff {r : List β} : l.mapM f = .ok r ↔ l.map f = r.map .ok := by
  induction l generalizing r with
  | nil => cases r <;> simp [pure, Except.pure]
  | cons a l ih =>
    rw [List.mapM_cons, List.map_cons]
    cases ha : f a with
    | error e => cases r <;> simp [bind, Except.bind]
    | ok b =>
      cases hl : l.mapM f with
      | error e => cases r <;> simp [bind, Except.bind, ← ih, hl]
      | ok bs => cases r <;> simp [bind, Except.bind, pure, Except.pure, ← ih, hl]

/-- A list fails as the first member that fails, whatever follows that. -/
theorem mapM_eq_error_iff : l.mapM f = .error error ↔ ∃ before a after,
    l = before ++ a :: after ∧ (∀ x ∈ before, ∃ b, f x = .ok b) ∧ f a = .error error := by
  constructor
  · intro h
    induction l with
    | nil => cases h
    | cons a l ih =>
      rw [List.mapM_cons] at h
      cases ha : f a with
      | error e =>
        rw [ha] at h
        cases h
        exact ⟨[], a, l, rfl, nofun, ha⟩
      | ok b =>
        cases hl : l.mapM f with
        | ok bs =>
          rw [ha, hl] at h
          cases h
        | error e =>
          rw [ha, hl] at h
          cases h
          obtain ⟨before, a', after, rfl, hbefore, ha'⟩ := ih hl
          exact ⟨a :: before, a', after, rfl, List.forall_mem_cons.mpr ⟨⟨b, ha⟩, hbefore⟩, ha'⟩
  · rintro ⟨before, a, after, rfl, hbefore, ha⟩
    induction before with
    | nil =>
      rw [List.nil_append, List.mapM_cons, ha]
      rfl
    | cons x before ih =>
      obtain ⟨⟨b, hx⟩, hrest⟩ := List.forall_mem_cons.mp hbefore
      rw [List.cons_append, List.mapM_cons, hx, ih hrest]
      rfl

theorem exists_result_of_mem {r : List β} {a : α} (h : l.map f = r.map .ok) (ha : a ∈ l) :
    ∃ b ∈ r, f a = .ok b := by
  have hmem : f a ∈ r.map .ok := h ▸ List.mem_map_of_mem ha
  obtain ⟨b, hb, heq⟩ := List.mem_map.mp hmem
  exact ⟨b, hb, heq.symm⟩

/-- The members of a list are read all together if each of them is. -/
theorem exists_results_iff :
    (∃ r : List β, l.map f = r.map .ok) ↔ ∀ a ∈ l, ∃ b, f a = .ok b := by
  constructor
  · rintro ⟨r, h⟩ a ha
    exact (exists_result_of_mem h ha).imp fun _ hb => hb.2
  · intro h
    induction l with
    | nil => exact ⟨[], rfl⟩
    | cons a l ih =>
      obtain ⟨⟨b, hb⟩, hl⟩ := List.forall_mem_cons.mp h
      obtain ⟨r, hr⟩ := ih hl
      exact ⟨b :: r, by rw [List.map_cons, List.map_cons, hb, hr]⟩

theorem exists_source_of_mem {r : List β} {b : β} (h : l.map f = r.map .ok) (hb : b ∈ r) :
    ∃ a ∈ l, f a = .ok b := by
  have hmem : .ok b ∈ l.map f := h ▸ List.mem_map_of_mem hb
  exact List.mem_map.mp hmem

end MapM

/-! ## Assembling -/

/-- A parser that has read other texts reads pieces as a new one does. -/
theorem outcome_parsePieces (parser : Parser) (pieces : List (List Char)) :
    (parsePieces parser pieces).outcome = (pieces.map String.ofList).mapM parseSubexpression := by
  induction pieces generalizing parser with
  | nil => rfl
  | cons piece pieces ih =>
    simp only [parsePieces, Traced.outcome_bind, Traced.outcome_liftLogged,
      Traced.outcome_liftExcept, Traced.outcome_pure, ih, List.map_cons, List.mapM_cons,
      ← parser.value_parse_eq_parseSubexpression (String.ofList piece)]
    rfl

namespace Expression

variable {text : String} {options : Options} {parts : List String}

/-- What parsing comes to once all subexpressions are read. -/
def assemble (text : String) (options : Options) (subintervals : List Subinterval) :
    Except ParseError Expression :=
  if subintervals = [] ∧ options.allowEmpty = false then .error (.emptyExpression text)
  else .ok ⟨if options.normalize then Subinterval.merge subintervals else subintervals, options⟩

theorem parse_of_delimiter_eq (hd : options.delimiter = "") :
    parse text options = .error (.emptyDelimiter text) := by
  rw [parse, parseTraced, dif_pos (by rw [hd]; rfl)]
  rfl

/-- Subintervals that were read are in range. -/
theorem inRange_of_map_eq {subintervals : List Subinterval}
    (h : parts.map parseSubexpression = subintervals.map .ok) : ∀ s ∈ subintervals, s.InRange := by
  intro s hs
  obtain ⟨part, -, hpart⟩ := exists_source_of_mem h hs
  exact inRange_of_parseSubexpression hpart

theorem outcome_normalizeTraced (e : Expression) :
    e.normalizeTraced.outcome = e.normalize.mapError .ofLimit := by
  simp only [normalizeTraced, Traced.outcome_bind, Traced.outcome_liftLogged,
    Traced.outcome_liftExcept]
  rfl

/-- Parsing reads the subexpressions from left to right and assembles the expression. -/
theorem parse_eq_mapM (hd : options.delimiter ≠ "")
    (h : Subexpressions options.delimiter text parts) :
    parse text options = parts.mapM parseSubexpression >>= assemble text options := by
  rw [parse, parseTraced, dif_neg (toList_ne_nil hd), Traced.outcome_bind, outcome_parsePieces,
    ← (subexpressions_iff (toList_ne_nil hd)).mp h]
  cases hm : parts.mapM parseSubexpression with
  | error error => rfl
  | ok subintervals =>
    show Traced.outcome (if _ then _ else _) = assemble text options subintervals
    have hread : ∀ s ∈ subintervals, s.InRange := inRange_of_map_eq (mapM_eq_ok_iff.mp hm)
    simp only [assemble, matchesNone, Bool.and_eq_true, List.isEmpty_iff, Bool.not_eq_true']
    split
    · rfl
    · cases options.normalize with
      | false => rfl
      | true =>
        show (normalizeTraced ⟨subintervals, options⟩).outcome = _
        rw [outcome_normalizeTraced, normalize_of_inRange hread]
        rfl

end Expression

/-! ## Errors -/

/-- The text that an error tells. That a number has too many digits to be read is told without a
text; that one has too many to be written is not told of a text at all. -/
def ParseError.IsAbout (text : String) : ParseError → Prop
  | .emptyDelimiter told => told = text
  | .emptyExpression told => told = text
  | .malformed told _ _ => told = text
  | .reversedRange told _ _ => told = text
  | .outOfRange told _ => told = text
  | .tooManyDigits _ => True
  | .tooLong => False

theorem Unreadable.isAbout {text : String} {digits : List Char} {error : ParseError}
    (h : Unreadable text digits error) : error.IsAbout text := by
  cases h with
  | tooManyDigits hlength => trivial
  | outOfRange hlength hlt => rfl

theorem Shape.Fails.isAbout {text : String} {shape : Shape} {error : ParseError}
    (h : shape.Fails text error) : error.IsAbout text := by
  cases h with
  | number hu => exact hu.isAbout
  | opened hu => exact hu.isAbout
  | first hu => exact hu.isAbout
  | last hd hu => exact hu.isAbout
  | order hd hd' hlt => rfl

theorem Item.isAbout_rejection (text : String) (x : Item) : (x.rejection text).IsAbout text := by
  cases x <;> rfl

theorem Rejects.isAbout {text : String} {shape? : Option Shape} {next? : Option Item}
    {error : ParseError} (h : Rejects text shape? next? error) : error.IsAbout text := by
  cases h with
  | range hf => exact hf.isAbout
  | afterRange hm => exact Item.isAbout_rejection text _
  | next hnot => exact Item.isAbout_rejection text _
  | nothing => rfl
  | number hu => exact hu.isAbout
  | opened hu => exact hu.isAbout

/-- The error of a subexpression tells the subexpression. -/
theorem isAbout_of_parseSubexpression {text : String} {error : ParseError}
    (h : parseSubexpression text = .error error) : error.IsAbout text := by
  obtain ⟨items, shape?, next?, -, -, hj⟩ := parseSubexpression_eq_iff.mp h
  exact (judge_eq_error_iff.mp hj).isAbout

/-! ## The order of judgement -/

namespace Expression

/-- What a text comes to under some options: first the delimiter is judged, then the subexpressions
from left to right, each as if it stood alone, then whether there is any. -/
inductive ComesTo (text : String) (options : Options) : Except ParseError Expression → Prop
  | emptyDelimiter : options.delimiter = "" →
      ComesTo text options (.error (.emptyDelimiter text))
  /-- The first subexpression that is refused decides the error, whatever follows it. -/
  | refused {before part after error} : options.delimiter ≠ "" →
      Subexpressions options.delimiter text (before ++ part :: after) →
      (∀ earlier ∈ before, ∃ s, parseSubexpression earlier = .ok s) →
      parseSubexpression part = .error error → error.IsAbout part →
      ComesTo text options (.error error)
  | nothing : options.delimiter ≠ "" → Subexpressions options.delimiter text [] →
      options.allowEmpty = false → ComesTo text options (.error (.emptyExpression text))
  | expression {parts subintervals} : options.delimiter ≠ "" →
      Subexpressions options.delimiter text parts →
      parts.map parseSubexpression = subintervals.map .ok →
      (parts = [] → options.allowEmpty = true) →
      ComesTo text options (.ok
        ⟨if options.normalize then Subinterval.merge subintervals else subintervals, options⟩)

variable {text : String} {options : Options} {outcome : Except ParseError Expression}

theorem comesTo_of_parse_eq (h : parse text options = outcome) : ComesTo text options outcome := by
  subst h
  by_cases hd : options.delimiter = ""
  · rw [parse_of_delimiter_eq hd]
    exact .emptyDelimiter hd
  obtain ⟨parts, hparts⟩ := exists_subexpressions hd text
  rw [parse_eq_mapM hd hparts]
  cases hm : parts.mapM parseSubexpression with
  | error error =>
    obtain ⟨before, part, after, rfl, hbefore, hpart⟩ := mapM_eq_error_iff.mp hm
    exact .refused hd hparts hbefore hpart (isAbout_of_parseSubexpression hpart)
  | ok subintervals =>
    have hmap := mapM_eq_ok_iff.mp hm
    have hnil : parts = [] ↔ subintervals = [] := by
      rw [← List.map_eq_nil_iff, hmap, List.map_eq_nil_iff]
    show ComesTo text options (assemble text options subintervals)
    unfold assemble
    split
    · rename_i hempty
      rw [hnil.mpr hempty.1] at hparts
      exact .nothing hd hparts hempty.2
    · rename_i hempty
      refine .expression hd hparts hmap fun hp => ?_
      simpa [hnil.mp hp] using hempty

theorem ComesTo.parse_eq (h : ComesTo text options outcome) : parse text options = outcome := by
  cases h with
  | emptyDelimiter hd => exact parse_of_delimiter_eq hd
  | refused hd hparts hbefore hpart _ =>
    rw [parse_eq_mapM hd hparts, mapM_eq_error_iff.mpr ⟨_, _, _, rfl, hbefore, hpart⟩]
    rfl
  | nothing hd hparts hempty =>
    rw [parse_eq_mapM hd hparts]
    exact if_pos ⟨rfl, hempty⟩
  | expression hd hparts hmap hempty =>
    rw [parse_eq_mapM hd hparts, mapM_eq_ok_iff.mpr hmap]
    refine if_neg fun h => ?_
    rw [h.1, List.map_nil, List.map_eq_nil_iff] at hmap
    rw [hempty hmap] at h
    exact nomatch h.2

/-- The subintervals of an expression that was read are in range. -/
theorem inRange_of_parse {e : Expression} (h : parse text options = .ok e) :
    ∀ s ∈ e.subintervals, s.InRange := by
  cases comesTo_of_parse_eq h with
  | @expression parts subintervals hd hparts hmap hempty =>
    have hread := inRange_of_map_eq hmap
    split
    · exact Subinterval.inRange_merge hread
    · exact hread

/-- Parsing does not end for the length of a number in its report: what was read is in range. -/
theorem parse_ne_tooLong (text : String) (options : Options) :
    parse text options ≠ .error .tooLong := by
  intro h
  cases comesTo_of_parse_eq h with
  | refused hd hparts hbefore hpart habout => exact habout

/-- Parsing a text comes to the outcome that its delimiter, its subexpressions and their number
lead to, in this order, and to no other. -/
theorem parse_eq_iff (text : String) (options : Options) (outcome : Except ParseError Expression) :
    parse text options = outcome ↔ ComesTo text options outcome := by
  exact ⟨comesTo_of_parse_eq, ComesTo.parse_eq⟩

-- The foreign character comes after the subexpression that is refused first.
example : parse "1,,5-3,x" .default = .error (.reversedRange "5-3" 5 3) := by cbv

end Expression

end IntervalExpr
