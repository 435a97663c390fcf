import IntervalExpr.Proofs.Canonical
import IntervalExpr.Proofs.Failures
import IntervalExpr.Proofs.Quotation

/-!
# Messages that tell their errors

In a message the text of the error is quoted, and what follows a number begins with neither a digit
nor a dash. So every part of a message ends where a reader can find it, and the error can be told
from its message. What a message shows without quotes is foreign text only where an error is built
by hand: parsing shows digits and its own words.

* `toString_append_inj`: a number and what follows it are told from the two in a row.
* `ParseError.message_emptyExpression_iff`, `ParseError.message_malformed_iff`,
  `ParseError.message_reversedRange_iff`, `ParseError.message_outOfRange_iff`: what two errors of
  one kind have in common if their messages are equal.
* `ParseError.unquoted`, `ParseError.printable_message`: a message is printable if what stands in it
  without quotes is.
* `printable_unquoted_of_parseSubexpression`: that is so where a subexpression is refused.
* `ParseError.message_exact`: both for all errors, and for the errors of all texts.
-/

namespace IntervalExpr

open Text (Printable isPrintable quoted toList_quote)

/-! ## Written numbers -/

/-- A character of which written numbers are made. -/
def isNumeral (c : Char) : Bool := c.isDigit || c = '-'

theorem IsLiteral.isNumeral {digits : List Char} (h : IsLiteral digits) :
    ∀ c ∈ digits, IntervalExpr.isNumeral c = true := by
  intro c hc
  simp [IntervalExpr.isNumeral, h.isDigit c hc]

theorem isNumeral_of_mem_toString {n : Int} {c : Char} (h : c ∈ (toString n).toList) :
    isNumeral c = true := by
  rw [Int.toString_eq_repr, Int.repr_eq_if] at h
  split at h
  · rw [Nat.toList_repr] at h
    exact (isLiteral_toDigits _).isNumeral c h
  · rw [String.toList_append, Nat.toList_repr] at h
    rcases List.mem_append.mp h with h | h
    · obtain rfl := List.mem_singleton.mp h
      rfl
    · exact (isLiteral_toDigits _).isNumeral c h

/-- A written number tells where it ends if neither a digit nor a dash follows. -/
theorem toString_append_inj {m n : Int} {rest rest' : List Char} (hrest : NotBefore isNumeral rest)
    (hrest' : NotBefore isNumeral rest')
    (h : (toString m).toList ++ rest = (toString n).toList ++ rest') : m = n ∧ rest = rest' := by
  have hm : ∀ c ∈ (toString m).toList, isNumeral c = true := fun c => isNumeral_of_mem_toString
  have hn : ∀ c ∈ (toString n).toList, isNumeral c = true := fun c => isNumeral_of_mem_toString
  have htext : (toString m).toList = (toString n).toList := by
    rw [← takeWhile_run hm hrest, h, takeWhile_run hn hrest']
  rw [htext] at h
  rw [String.toList_inj, Int.toString_eq_repr, Int.toString_eq_repr] at htext
  exact ⟨Int.repr_injective htext, List.append_cancel_left h⟩

theorem isPrintable_of_isNumeral {c : Char} (h : isNumeral c = true) : isPrintable c = true := by
  rcases Bool.or_eq_true_iff.mp h with h | h
  · obtain ⟨hge, hle⟩ := toNat_of_isDigit h
    apply Text.isPrintable_of_ascii
    · omega
    · omega
  · obtain rfl := of_decide_eq_true h
    rfl

@[simp] theorem printable_toString (n : Int) : Printable (toString n).toList :=
  fun _ hc => isPrintable_of_isNumeral (isNumeral_of_mem_toString hc)

theorem IsLiteral.printable {digits : List Char} (h : IsLiteral digits) : Printable digits :=
  fun c hc => isPrintable_of_isNumeral (h.isNumeral c hc)

theorem printable_append_quote {words : String} (h : Printable words.toList) (text : String) :
    Printable (words ++ Text.quote text).toList := by
  rw [String.toList_append, Text.printable_append, toList_quote]
  exact ⟨h, Text.printable_quoted _⟩

theorem DigitLimit.printable_message (limit : DigitLimit) : Printable limit.message.toList := by
  have hnumber : ∀ n : Nat, Printable (toString n).toList := by
    intro n
    rw [Nat.toString_eq_repr, Nat.toList_repr]
    exact (isLiteral_toDigits n).printable
  have hfinding : Printable limit.finding.toList := by
    cases limit with
    | reading count =>
      unfold finding
      simp only [String.toList_append, Text.printable_append, hnumber, and_true]
      decide +kernel
    | writing => exact Text.printable_nil
  unfold message
  simp only [String.toList_append, Text.printable_append, hnumber, hfinding, and_true]
  decide +kernel

namespace ParseError

/-! ## The characters of a message -/

theorem toList_message_emptyExpression (text : String) :
    (emptyExpression text).message.toList =
      "Empty expression not allowed by current options: ".toList ++ quoted text.toList := by
  unfold message
  rw [String.toList_append, toList_quote]

theorem toList_message_malformed (text : String) (position : Option Int) (detail : Option String) :
    (malformed text position detail).message.toList =
      "Invalid syntax in subexpression ".toList ++ (quoted text.toList ++
        ((columnNote position).toList ++ (detailNote detail).toList)) := by
  unfold message
  simp only [String.toList_append, toList_quote, List.append_assoc]

theorem toList_message_reversedRange (text : String) (first last : Int) :
    (reversedRange text first last).message.toList =
      "Invalid interval ".toList ++ (quoted text.toList ++ (": end ".toList ++
        ((toString last).toList ++
          (" is less than start ".toList ++ (toString first).toList)))) := by
  unfold message
  simp only [String.toList_append, toList_quote, List.append_assoc]

theorem toList_message_outOfRange (text literal : String) :
    (outOfRange text literal).message.toList =
      "Value ".toList ++ ((literal.toList ++ " in subexpression".toList) ++
        ' ' :: quoted text.toList) ++ " is out of range".toList := by
  unfold message
  simp [toList_quote]

/-! ## Errors told by their messages -/

section Tell

variable {text text' literal literal' : String} {position position' : Option Int}
  {detail detail' : Option String} {first first' last last' : Int}

theorem message_emptyExpression_iff :
    (emptyExpression text).message = (emptyExpression text').message ↔ text = text' := by
  refine ⟨fun h => ?_, fun h => by rw [h]⟩
  rw [← String.toList_inj, toList_message_emptyExpression, toList_message_emptyExpression] at h
  exact String.toList_inj.mp (Text.quoted_inj (List.append_cancel_left h))

/-- An absent detail is noted as an empty one. -/
theorem detailNote_eq (detail : Option String) :
    detailNote detail = if detail.getD "" = "" then "" else ": " ++ detail.getD "" := by
  cases detail <;> rfl

/-- The note of a detail, if there is one, starts with a colon. -/
theorem eq_colon_of_head?_detailNote {c : Char} (h : (detailNote detail).toList.head? = some c) :
    c = ':' := by
  rw [detailNote_eq] at h
  split at h
  · cases h
  · rw [String.toList_append] at h
    exact (Option.some.inj h).symm

theorem notBefore_detailNote (detail : Option String) :
    NotBefore isNumeral (detailNote detail).toList := by
  intro c hc
  rw [eq_colon_of_head?_detailNote hc]
  rfl

theorem detailNote_iff :
    detailNote detail = detailNote detail' ↔ detail.getD "" = detail'.getD "" := by
  have hcolon : ∀ s : String, ": " ++ s ≠ "" := fun s => by simp [← String.toList_inj]
  rw [detailNote_eq, detailNote_eq]
  refine ⟨fun h => ?_, fun h => by rw [h]⟩
  by_cases hd : detail.getD "" = ""
  · by_cases hd' : detail'.getD "" = ""
    · rw [hd, hd']
    · rw [if_pos hd, if_neg hd'] at h
      exact absurd h.symm (hcolon _)
  · by_cases hd' : detail'.getD "" = ""
    · rw [if_neg hd, if_pos hd'] at h
      exact absurd h (hcolon _)
    · rw [if_neg hd, if_neg hd', ← String.toList_inj, String.toList_append,
        String.toList_append] at h
      exact String.toList_inj.mp (List.append_cancel_left h)

/-- A column is noted behind a blank, which no note of a detail starts with. -/
theorem detailNote_ne_columnNote_append {p : Int} {rest : List Char} :
    (detailNote detail).toList ≠ (columnNote (some p)).toList ++ rest := by
  intro h
  have hhead : (detailNote detail).toList.head? = some ' ' := by
    rw [h, columnNote, String.toList_append]
    rfl
  exact absurd (eq_colon_of_head?_detailNote hhead) (by decide)

theorem notes_iff :
    (columnNote position).toList ++ (detailNote detail).toList =
        (columnNote position').toList ++ (detailNote detail').toList ↔
      position = position' ∧ detail.getD "" = detail'.getD "" := by
  rw [← detailNote_iff]
  refine ⟨fun h => ?_, fun ⟨hposition, hdetail⟩ => by rw [hposition, hdetail]⟩
  cases position with
  | none =>
    cases position' with
    | none => exact ⟨rfl, String.toList_inj.mp h⟩
    | some q => exact absurd h detailNote_ne_columnNote_append
  | some p =>
    cases position' with
    | none => exact absurd h.symm detailNote_ne_columnNote_append
    | some q =>
      simp only [columnNote, String.toList_append, List.append_assoc] at h
      obtain ⟨hcolumn, hdetail⟩ := toString_append_inj (notBefore_detailNote detail)
        (notBefore_detailNote detail') (List.append_cancel_left h)
      exact ⟨congrArg some (by omega), String.toList_inj.mp hdetail⟩

theorem message_malformed_iff :
    (malformed text position detail).message = (malformed text' position' detail').message ↔
      text = text' ∧ position = position' ∧ detail.getD "" = detail'.getD "" := by
  constructor
  · intro h
    rw [← String.toList_inj, toList_message_malformed, toList_message_malformed] at h
    obtain ⟨htext, hnotes⟩ := Text.quoted_append_inj (List.append_cancel_left h)
    exact ⟨String.toList_inj.mp htext, notes_iff.mp hnotes⟩
  · rintro ⟨rfl, rfl, hdetail⟩
    rw [← String.toList_inj, toList_message_malformed, toList_message_malformed,
      detailNote_iff.mpr hdetail]

theorem message_reversedRange_iff :
    (reversedRange text first last).message = (reversedRange text' first' last').message ↔
      text = text' ∧ first = first' ∧ last = last' := by
  constructor
  · intro h
    rw [← String.toList_inj, toList_message_reversedRange, toList_message_reversedRange] at h
    obtain ⟨htext, hnumbers⟩ := Text.quoted_append_inj (List.append_cancel_left h)
    have hblank : ∀ n : Int,
        NotBefore isNumeral (" is less than start ".toList ++ (toString n).toList) := by
      intro n c hc
      cases hc
      rfl
    obtain ⟨hlast, hnumber⟩ := toString_append_inj (hblank first) (hblank first')
      (List.append_cancel_left hnumbers)
    have hfirst := String.toList_inj.mp (List.append_cancel_left hnumber)
    rw [Int.toString_eq_repr, Int.toString_eq_repr] at hfirst
    exact ⟨String.toList_inj.mp htext, Int.repr_injective hfirst, hlast⟩
  · rintro ⟨rfl, rfl, rfl⟩
    rfl

/-- The quoted text is found from the end of the message, since the literal may hold anything. -/
theorem message_outOfRange_iff :
    (outOfRange text literal).message = (outOfRange text' literal').message ↔
      text = text' ∧ literal = literal' := by
  constructor
  · intro h
    rw [← String.toList_inj, toList_message_outOfRange, toList_message_outOfRange] at h
    obtain ⟨hfront, htext⟩ :=
      Text.blank_quoted_inj (List.append_cancel_left (List.append_cancel_right h))
    exact ⟨String.toList_inj.mp htext, String.toList_inj.mp (List.append_cancel_right hfront)⟩
  · rintro ⟨rfl, rfl⟩
    rfl

end Tell

/-! ## Printable messages -/

/-- What the message shows as it is: neither in quotes nor as a written number. -/
def unquoted : ParseError → String
  | .malformed _ _ detail => detail.getD ""
  | .outOfRange _ literal => literal
  | _ => ""

theorem printable_columnNote (position : Option Int) : Printable (columnNote position).toList := by
  cases position with
  | none => exact Text.printable_nil
  | some p =>
    rw [columnNote, String.toList_append, Text.printable_append]
    exact ⟨by decide, printable_toString _⟩

theorem printable_detailNote {detail : Option String} (h : Printable (detail.getD "").toList) :
    Printable (detailNote detail).toList := by
  rw [detailNote_eq]
  split
  · exact Text.printable_nil
  · rw [String.toList_append, Text.printable_append]
    exact ⟨by decide, h⟩

theorem printable_message {error : ParseError} (h : Printable error.unquoted.toList) :
    Printable error.message.toList := by
  cases error with
  | emptyDelimiter text =>
    show Printable "ParseOptions.delimiter is empty".toList
    decide +kernel
  | emptyExpression text =>
    show Printable ("Empty expression not allowed by current options: " ++ Text.quote text).toList
    exact printable_append_quote (by decide +kernel) text
  | malformed text position detail =>
    simp only [toList_message_malformed, Text.printable_append, Text.printable_quoted,
      printable_columnNote, printable_detailNote h, and_true]
    decide +kernel
  | reversedRange text first last =>
    simp only [toList_message_reversedRange, Text.printable_append, Text.printable_quoted,
      printable_toString, and_true, true_and]
    decide +kernel
  | outOfRange text literal =>
    have hliteral : Printable literal.toList := h
    simp only [toList_message_outOfRange, Text.printable_append, Text.printable_cons,
      Text.printable_quoted, hliteral, and_true, true_and]
    decide +kernel
  | tooManyDigits count => exact (DigitLimit.reading count).printable_message
  | tooLong => exact DigitLimit.writing.printable_message

end ParseError

/-! ## Messages of refused texts -/

section Refused

variable {text : String} {p : Nat} {written digits : List Char} {items : List Item} {shape : Shape}
  {shape? : Option Shape} {next? : Option Item} {error : ParseError}

/-- The literals of a shape are runs of digits if the shape is read off the items of a text. -/
theorem LongestBeginning.isLiteral (hl : LongestBeginning items (some shape) next?)
    (hi : Itemized p written items) (hd : digits ∈ shape.literals) : IsLiteral digits := by
  obtain ⟨w, rest, rfl, -, hw, -⟩ := hl
  apply hi.isLiteral
  rw [List.map_append, hw]
  exact List.mem_append_left _ (List.mem_map_of_mem (Shape.mem_literals_iff.mp hd))

theorem Unreadable.printable_unquoted (h : Unreadable text digits error) (hd : IsLiteral digits) :
    Printable error.unquoted.toList := by
  cases h with
  | tooManyDigits hlength => exact Text.printable_nil
  | outOfRange hlength hlt =>
    show Printable (String.ofList digits).toList
    rw [String.toList_ofList]
    exact hd.printable

theorem Shape.Fails.printable_unquoted (h : shape.Fails text error)
    (hd : ∀ digits ∈ shape.literals, IsLiteral digits) : Printable error.unquoted.toList := by
  obtain ⟨digits, hobstacle, hu⟩ | ⟨-, first, last, rfl⟩ := Shape.obstacle?_of_fails h
  · exact hu.printable_unquoted (hd digits (List.mem_of_find?_eq_some hobstacle))
  · exact Text.printable_nil

theorem Item.printable_unquoted_rejection (text : String) (x : Item) :
    Printable (x.rejection text).unquoted.toList := by
  cases x with
  | token t =>
    show Printable ("unexpected " ++ Text.quote _).toList
    exact printable_append_quote (by decide +kernel) _
  | foreign c position =>
    show Printable ("illegal character " ++ Text.quote _).toList
    exact printable_append_quote (by decide +kernel) _

/-- A refusal shows its own words, foreign text in quotes, and literals. -/
theorem Rejects.printable_unquoted (h : Rejects text shape? next? error)
    (hd : ∀ shape ∈ shape?, ∀ digits ∈ shape.literals, IsLiteral digits) :
    Printable error.unquoted.toList := by
  cases h with
  | range hf => exact hf.printable_unquoted (hd _ rfl)
  | afterRange hm => exact Item.printable_unquoted_rejection text _
  | next hnot => exact Item.printable_unquoted_rejection text _
  | nothing =>
    show Printable "unexpected end of subexpression".toList
    decide +kernel
  | number hu => exact hu.printable_unquoted (hd _ rfl _ List.mem_cons_self)
  | opened hu => exact hu.printable_unquoted (hd _ rfl _ List.mem_cons_self)

theorem printable_unquoted_of_parseSubexpression (h : parseSubexpression text = .error error) :
    Printable error.unquoted.toList := by
  obtain ⟨items, shape?, next?, hi, hl, hr⟩ := (parseSubexpression_eq_error_iff text error).mp h
  apply hr.printable_unquoted
  rintro shape rfl digits hd
  exact hl.isLiteral hi hd

theorem Expression.printable_unquoted_of_parse {options : Options}
    (h : Expression.parse text options = .error error) : Printable error.unquoted.toList := by
  cases Expression.comesTo_of_parse_eq h with
  | emptyDelimiter hd => exact Text.printable_nil
  | refused hd hparts hbefore hpart _ => exact printable_unquoted_of_parseSubexpression hpart
  | nothing hd hparts hempty => exact Text.printable_nil

end Refused

/-- Two errors of one kind have equal messages exactly if they agree in all that they tell, where an
absent detail is told as an empty one. And whatever text is refused, the message holds no control
character and no other unprintable one. -/
theorem ParseError.message_exact :
    (∀ text text', (emptyExpression text).message = (emptyExpression text').message ↔
      text = text') ∧
    (∀ text text' position position' detail detail',
      (malformed text position detail).message = (malformed text' position' detail').message ↔
        text = text' ∧ position = position' ∧ detail.getD "" = detail'.getD "") ∧
    (∀ text text' first first' last last',
      (reversedRange text first last).message = (reversedRange text' first' last').message ↔
        text = text' ∧ first = first' ∧ last = last') ∧
    (∀ text text' literal literal',
      (outOfRange text literal).message = (outOfRange text' literal').message ↔
        text = text' ∧ literal = literal') ∧
    (∀ text error, parseSubexpression text = .error error →
      ∀ c ∈ error.message.toList, isPrintable c = true ∧ ¬ Text.IsControl c) ∧
    ∀ text options error, Expression.parse text options = .error error →
      ∀ c ∈ error.message.toList, isPrintable c = true ∧ ¬ Text.IsControl c := by
  have hsafe : ∀ {error : ParseError}, Printable error.unquoted.toList →
      ∀ c ∈ error.message.toList, isPrintable c = true ∧ ¬ Text.IsControl c := by
    intro error h c hc
    have hprint := printable_message h c hc
    exact ⟨hprint, Text.not_isControl_of_isPrintable hprint⟩
  refine ⟨?_, ?_, ?_, ?_, ?_, ?_⟩
  · intro text text'
    exact message_emptyExpression_iff
  · intro text text' position position' detail detail'
    exact message_malformed_iff
  · intro text text' first first' last last'
    exact message_reversedRange_iff
  · intro text text' literal literal'
    exact message_outOfRange_iff
  · intro text error h
    exact hsafe (printable_unquoted_of_parseSubexpression h)
  · intro text options error h
    exact hsafe (Expression.printable_unquoted_of_parse h)

/-- A vertical tab is a blank that messages show escaped, and so is a form feed. And a text with a
mark and the words of a message in it is not taken for a message that goes on behind the mark. -/
theorem ParseError.message_exact_blanks :
    parseSubexpression "\x0b5-3" = .error (.reversedRange "\x0b5-3" 5 3) ∧
    (∀ c ∈ (reversedRange "\x0b5-3" 5 3).message.toList,
      isPrintable c = true ∧ ¬ Text.IsControl c) ∧
    Expression.parse "1,7-\x0c6" .default = .error (.reversedRange "7-\x0c6" 7 6) ∧
    (∀ c ∈ (reversedRange "7-\x0c6" 7 6).message.toList,
      isPrintable c = true ∧ ¬ Text.IsControl c) ∧
    (malformed "1' at column 2" none none).message ≠ (malformed "1" (some 1) none).message := by
  obtain ⟨-, hmalformed, -, -, hsubexpression, hparse⟩ := message_exact
  have hvertical : parseSubexpression "\x0b5-3" = .error (.reversedRange "\x0b5-3" 5 3) := by cbv
  have hfeed : Expression.parse "1,7-\x0c6" .default =
      .error (.reversedRange "7-\x0c6" 7 6) := by cbv
  refine ⟨hvertical, hsubexpression _ _ hvertical, hfeed, hparse _ _ _ hfeed, ?_⟩
  rw [Ne, hmalformed]
  decide

end IntervalExpr
