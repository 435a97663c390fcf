import IntervalExpr.Proofs.RoundTrip
import IntervalExpr.Proofs.Seams
import IntervalExpr.Proofs.Totality

/-!
# What can be read under a delimiter

A delimiter that stands inside a number or another symbol cuts it in two. So the subintervals that
are read under a delimiter are written with symbols that do not hold it, and there are no other
limits. Merging adds dashes, but no digits.

* `Subinterval.ReadableUnder`: no symbol of the text holds the delimiter.
* `readableUnder_merge`, `Expression.readableUnder_of_parse`: reading and merging lead to such
  subintervals.
* `Expression.exists_text`: every list of them is read from some text.
-/

namespace IntervalExpr

/-- The numbers of the subinterval are in range, and no symbol of its text holds the delimiter. -/
structure Subinterval.ReadableUnder (delimiter : String) (s : Subinterval) : Prop where
  inRange : s.InRange
  lacks : ∀ symbol ∈ s.shape.symbols, ¬ delimiter.toList <:+: symbol.lexeme

variable {delimiter text : String} {s : Subinterval} {l : List Subinterval}

/-! ## Symbols of a text -/

section Symbols

variable {written : List Char} {symbols : List Symbol} {symbol : Symbol} {shape : Shape}

/-- The characters of a symbol stand in the text. -/
theorem Spelt.lexeme_occurs (h : Spelt written symbols) (hs : symbol ∈ symbols) :
    symbol.lexeme <:+: written := by
  induction h with
  | nil hw => exact nomatch hs
  | @cons w head rest symbols hw hb hrest ih =>
    rw [← List.append_assoc]
    rcases List.mem_cons.mp hs with rfl | hs
    · exact ⟨w, rest, rfl⟩
    · exact (ih hs).trans (List.suffix_append ..).isInfix

theorem Spelt.isLiteral {digits : List Char} (h : Spelt written symbols)
    (hs : .integer digits ∈ symbols) : IsLiteral digits := by
  obtain ⟨items, hi, hsymbols⟩ := (spelt_iff_itemized 0).mp h
  apply hi.isLiteral
  rw [hsymbols]
  exact List.mem_map_of_mem hs

/-- A text without blanks is its symbols in a row. -/
theorem Spelt.eq_flatMap (h : Spelt written symbols) (hblank : ∀ c ∈ written, isBlank c = false) :
    written = symbols.flatMap Symbol.lexeme := by
  have hnil : ∀ {w : List Char}, Blanks w → (∀ c ∈ w, c ∈ written) → w = [] := by
    intro w hw hmem
    refine List.eq_nil_iff_forall_not_mem.mpr fun c hc => ?_
    have := hblank c (hmem c hc)
    rw [hw c hc] at this
    cases this
  induction h with
  | nil hw => exact hnil hw fun _ => id
  | @cons w symbol rest symbols hw hb hrest ih =>
    obtain rfl := hnil hw fun c hc => by simp [hc]
    have hrest' := ih (fun c hc => hblank c (by simp [hc])) fun hw' hmem =>
      hnil hw' fun c hc => by simp [hmem c hc]
    rw [List.flatMap_cons, ← hrest', List.nil_append]

/-- The text of a subinterval has no symbols but those of the shape it was read from, without the
zeros at their front. -/
theorem Shape.Means.exists_symbol (h : shape.Means s)
    (hl : ∀ digits, .integer digits ∈ shape.symbols → IsLiteral digits)
    (hs : symbol ∈ s.shape.symbols) :
    ∃ source ∈ shape.symbols, symbol.lexeme <:+ source.lexeme := by
  have hliteral : ∀ {digits n}, Denotes digits n → .integer digits ∈ shape.symbols →
      (Symbol.integer (Nat.toDigits 10 n)).lexeme <:+ (Symbol.integer digits).lexeme :=
    fun hd hmem => hd.value ▸ toDigits_suffix (hl _ hmem)
  cases h with
  | star => exact ⟨symbol, hs, List.suffix_rfl⟩
  | number hd =>
    simp only [Subinterval.single, Subinterval.shape, if_true, Shape.symbols,
      List.mem_singleton] at hs
    subst hs
    exact ⟨_, List.mem_cons_self, hliteral hd List.mem_cons_self⟩
  | opened hd =>
    rcases List.mem_cons.mp hs with rfl | hs
    · exact ⟨_, List.mem_cons_self, hliteral hd List.mem_cons_self⟩
    · exact ⟨symbol, List.mem_cons_of_mem _ hs, List.suffix_rfl⟩
  | @range firstDigits lastDigits first last hd hd' hle =>
    have hfirst : .integer firstDigits ∈ (Shape.range firstDigits lastDigits).symbols := by
      simp [Shape.symbols]
    have hlast : .integer lastDigits ∈ (Shape.range firstDigits lastDigits).symbols := by
      simp [Shape.symbols]
    obtain ⟨hw, -⟩ | rfl | ⟨-, n, rfl | hn, rfl⟩ := Subinterval.symbol_cases hs
    · cases hw
    · exact ⟨.dash, by simp [Shape.symbols], List.suffix_rfl⟩
    · exact ⟨_, hfirst, hliteral hd hfirst⟩
    · obtain rfl : last = n := Option.some.inj hn
      exact ⟨_, hlast, hliteral hd' hlast⟩

end Symbols

/-! ## Reading and merging -/

/-- No subexpression of a text holds the delimiter. -/
theorem Subexpressions.lacks {parts : List String} (hd : delimiter ≠ "")
    (h : Subexpressions delimiter text parts) :
    ∀ part ∈ parts, ¬ delimiter.toList <:+: part.toList := by
  obtain ⟨pieces, hpieces, rfl⟩ := h
  intro part hpart
  obtain ⟨piece, hpiece, rfl⟩ := List.mem_map.mp hpart
  rw [String.toList_ofList]
  exact hpieces.lacks (toList_ne_nil hd) piece (List.mem_of_mem_filter hpiece)

/-- A subinterval that is read from a text without the delimiter is readable under it. -/
theorem readableUnder_of_parseSubexpression (hocc : ¬ delimiter.toList <:+: text.toList)
    (h : parseSubexpression text = .ok s) : s.ReadableUnder delimiter := by
  refine ⟨inRange_of_parseSubexpression h, fun symbol hs hocc' => hocc ?_⟩
  obtain ⟨shape, hspelling, hm⟩ := exists_means_of_parseSubexpression h
  rw [spelling_iff_spelt] at hspelling
  obtain ⟨source, hsource, hsuffix⟩ := hm.exists_symbol (fun _ => hspelling.isLiteral) hs
  exact (hocc'.trans hsuffix.isInfix).trans (hspelling.lexeme_occurs hsource)

/-- A subinterval that shares no character with the delimiter is readable under it. -/
theorem readableUnder_of_not_mem (hd : delimiter ≠ "") (hs : s.InRange)
    (h : ∀ c ∈ s.toString.toList, c ∉ delimiter.toList) : s.ReadableUnder delimiter := by
  refine ⟨hs, fun symbol hsymbol hocc => ?_⟩
  obtain ⟨c, rest, heq⟩ := List.exists_cons_of_ne_nil (toList_ne_nil hd)
  have hc : c ∈ delimiter.toList := heq ▸ List.mem_cons_self
  refine h c ?_ hc
  rw [Subinterval.toList_toString, List.mem_flatMap]
  exact ⟨symbol, hsymbol, hocc.subset hc⟩

/-- Merging keeps subintervals readable, unless the dashes it adds are the delimiter. -/
theorem readableUnder_merge (hd : delimiter ≠ "") (hdash : delimiter ≠ "-")
    (h : ∀ s ∈ l, s.ReadableUnder delimiter) :
    ∀ s ∈ Subinterval.merge l, s.ReadableUnder delimiter := by
  intro s hs
  refine ⟨Subinterval.inRange_merge (fun t ht => (h t ht).inRange) s hs, fun symbol hsymbol => ?_⟩
  obtain ⟨rfl, rfl⟩ | rfl | ⟨hw, n, hn, rfl⟩ := Subinterval.symbol_cases hsymbol
  · exact (h _ (Subinterval.wildcard_mem_merge_iff.mp hs)).lacks _ hsymbol
  · rw [Symbol.lexeme, List.infix_singleton_iff, not_or]
    exact ⟨toList_ne_nil hd, fun heq => hdash (String.toList_injective heq)⟩
  · have hnone : .wildcard ∉ l := fun hmem =>
      hw (Subinterval.kind_eq_wildcard_iff.mp
        ((Subinterval.kind_eq_wildcard_of_mem_merge hs).mpr hmem))
    have hbound : ∀ t ∈ l, ∀ m, m = t.start ∨ t.last? = some m →
        ¬ delimiter.toList <:+: Nat.toDigits 10 m := fun t ht m hm =>
      (h t ht).lacks _ (Subinterval.integer_mem_symbols (fun heq => hnone (heq ▸ ht)) hm)
    have hmerge := Subinterval.forall_mem_merge
      (P := fun m => ¬ delimiter.toList <:+: Nat.toDigits 10 m)
      (Q := fun last? => ∀ m, last? = some m → ¬ delimiter.toList <:+: Nat.toDigits 10 m)
      (fun t ht => ⟨hbound t ht _ (.inl rfl), fun m hm => hbound t ht m (.inr hm)⟩) s hs
    rcases hn with rfl | hn
    · exact hmerge.1
    · exact hmerge.2 n hn

namespace Expression

variable {options : Options} {e : Expression}

/-- The subintervals of a text are readable under its delimiter, and so are those that normalizing
comes to if the delimiter is no dash. -/
theorem readableUnder_of_parse (h : parse text options = .ok e)
    (hdash : options.normalize = false ∨ options.delimiter ≠ "-") :
    ∀ s ∈ e.subintervals, s.ReadableUnder options.delimiter := by
  cases comesTo_of_parse_eq h with
  | @expression parts subintervals hd hparts hmap hempty =>
    have hread : ∀ s ∈ subintervals, s.ReadableUnder options.delimiter := by
      intro s hs
      obtain ⟨part, hpart, hread⟩ := exists_source_of_mem hmap hs
      exact readableUnder_of_parseSubexpression (hparts.lacks hd part hpart) hread
    simp only
    split
    · rename_i hnormal
      exact readableUnder_merge hd (hdash.resolve_left (by simp [hnormal])) hread
    · exact hread

end Expression

/-! ## Texts of readable subintervals -/

/-- Symbols in a row, each of them with a blank behind it. -/
def spaced (symbols : List Symbol) : List Char :=
  symbols.flatMap fun symbol => symbol.lexeme ++ [' ']

section Spaced

variable {written : List Char} {symbols : List Symbol} {symbol : Symbol}

theorem spaced_cons : spaced (symbol :: symbols) = symbol.lexeme ++ ' ' :: spaced symbols := by
  simp [spaced]

theorem Spelt.blank (h : Spelt written symbols) : Spelt (' ' :: written) symbols := by
  cases h with
  | nil hw => exact .nil (List.forall_mem_cons.mpr ⟨rfl, hw⟩)
  | @cons w symbol rest symbols hw hb hrest =>
    exact Spelt.cons (w := ' ' :: w) (List.forall_mem_cons.mpr ⟨rfl, hw⟩) hb hrest

/-- No symbol runs into the next one where blanks stand between them. -/
theorem spelt_spaced (h : ∀ digits, .integer digits ∈ symbols → IsLiteral digits) :
    Spelt (spaced symbols) symbols := by
  induction symbols with
  | nil => exact .nil blanks_nil
  | cons symbol symbols ih =>
    have hrest := (ih fun digits hd => h digits (List.mem_cons_of_mem symbol hd)).blank
    have hbefore : symbol.Before (' ' :: spaced symbols) := by
      cases symbol with
      | star => exact Symbol.before_star
      | dash => exact Symbol.before_dash
      | integer digits =>
        exact Symbol.before_integer (h digits List.mem_cons_self) (by simp [NotBefore])
    rw [spaced_cons]
    exact Spelt.cons blanks_nil hbefore hrest

/-- A word without blanks occurs in symbols with blanks between them only within one of them. -/
theorem not_infix_spaced {word : List Char} (hword : word ≠ []) (hblank : ' ' ∉ word)
    (h : ∀ symbol ∈ symbols, ¬ word <:+: symbol.lexeme) : ¬ word <:+: spaced symbols := by
  induction symbols with
  | nil => simpa [spaced] using hword
  | cons symbol symbols ih =>
    obtain ⟨hhead, htail⟩ := List.forall_mem_cons.mp h
    rw [spaced_cons]
    intro hocc
    rcases Text.infix_append_cons hblank hocc with hocc | hocc
    · exact hhead hocc
    · exact ih htail hocc

/-- A delimiter without blanks is not found early behind symbols that do not hold it, if a blank
stands behind the last one. -/
theorem not_foundEarly_spaced {word : List Char} (hword : word ≠ []) (hblank : ' ' ∉ word)
    (hsymbols : symbols ≠ []) (h : ∀ symbol ∈ symbols, ¬ word <:+: symbol.lexeme) :
    ¬ Text.FoundEarly word (spaced symbols) := by
  have hocc := not_infix_spaced hword hblank h
  obtain ⟨front, symbol, rfl⟩ := List.eq_nil_or_concat' symbols |>.resolve_left hsymbols
  have hlast : spaced (front ++ [symbol]) = spaced front ++ symbol.lexeme ++ [' '] := by
    simp [spaced]
  rw [hlast] at hocc ⊢
  exact Text.not_foundEarly_concat hblank hocc

/-- A text of the symbols of a subinterval with blanks between them is read as the subinterval. -/
theorem parseSubexpression_spaced (h : s.InRange) :
    parseSubexpression (String.ofList (spaced s.shape.symbols)) = .ok s := by
  have hs : Spelling (String.ofList (spaced s.shape.symbols)).toList s.shape := by
    rw [String.toList_ofList, spelling_iff_spelt]
    exact spelt_spaced fun digits => (spelling_iff_spelt.mp s.spelling_toString).isLiteral
  rw [parseSubexpression_of_spelling hs, Shape.outcome_of_means h.means]

end Spaced

/-- Under a delimiter without blanks, every list of readable subintervals is read from some text. -/
theorem Expression.exists_text (hd : delimiter ≠ "") (hblank : ' ' ∉ delimiter.toList)
    (hne : l ≠ []) (h : ∀ s ∈ l, s.ReadableUnder delimiter) (allowEmpty : Bool) :
    ∃ text, parse text ⟨delimiter, allowEmpty, false⟩ =
      .ok ⟨l, ⟨delimiter, allowEmpty, false⟩⟩ := by
  have hsymbols : ∀ s : Subinterval, s.shape.symbols ≠ [] := fun s => by
    cases s.shape <;> simp [Shape.symbols]
  have hwords : ∀ word ∈ l.map fun s => spaced s.shape.symbols,
      word ≠ [] ∧ ¬ Text.FoundEarly delimiter.toList word := by
    intro word hword
    obtain ⟨s, hs, rfl⟩ := List.mem_map.mp hword
    refine ⟨?_, not_foundEarly_spaced (toList_ne_nil hd) hblank (hsymbols s) (h s hs).lacks⟩
    obtain ⟨symbol, symbols, heq⟩ := List.exists_cons_of_ne_nil (hsymbols s)
    simp [heq, spaced_cons]
  have hparts := subexpressions_of_intercalate hd (by simpa using hne) String.toList_ofList hwords
  refine ⟨_, (ComesTo.expression hd hparts ?_ fun hnil => ?_).parse_eq⟩
  · rw [List.map_map, List.map_map, List.map_inj_left]
    exact fun s hs => parseSubexpression_spaced (h s hs).inRange
  · exact absurd (List.map_eq_nil_iff.mp (List.map_eq_nil_iff.mp hnil)) hne

end IntervalExpr
