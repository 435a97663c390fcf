import IntervalExpr.Proofs.Meaning
import IntervalExpr.Proofs.Reading

/-!
# The language of subexpressions

The texts of the four shapes, said without scanning or parsing, and the texts that are parsed.

* `Spelling`: the texts of a shape, with any blanks around its symbols.
* `spelling_iff_itemized`: a text of a shape is a text whose items make the shape.
* `Spelling.unique`: no text is of two shapes.
* `parseSubexpression_eq_ok_iff`: exactly the texts of shapes that stand for something are parsed,
  and they are parsed as what they stand for.
-/

namespace IntervalExpr

/-! ## Texts of shapes -/

/-- The text is a shape with any blanks before, between and after its symbols. -/
inductive Spelling : List Char → Shape → Prop
  | star {w₁ w₂} : Blanks w₁ → Blanks w₂ → Spelling (w₁ ++ '*' :: w₂) .star
  | number {w₁ digits w₂} : Blanks w₁ → IsLiteral digits → Blanks w₂ →
      Spelling (w₁ ++ digits ++ w₂) (.number digits)
  | opened {w₁ digits w₂ w₃} : Blanks w₁ → IsLiteral digits → Blanks w₂ → Blanks w₃ →
      Spelling (w₁ ++ digits ++ w₂ ++ '-' :: w₃) (.opened digits)
  | range {w₁ firstDigits w₂ w₃ lastDigits w₄} : Blanks w₁ → IsLiteral firstDigits → Blanks w₂ →
      Blanks w₃ → IsLiteral lastDigits → Blanks w₄ →
      Spelling (w₁ ++ firstDigits ++ w₂ ++ '-' :: w₃ ++ lastDigits ++ w₄)
        (.range firstDigits lastDigits)

/-- The text is a sequence of symbols with any blanks around them, and no digit follows a literal
at once. -/
inductive Spelt : List Char → List Symbol → Prop
  | nil {w} : Blanks w → Spelt w []
  | cons {w symbol rest symbols} : Blanks w → symbol.Before rest → Spelt rest symbols →
      Spelt (w ++ (symbol.lexeme ++ rest)) (symbol :: symbols)

theorem notBefore_dash {rest : List Char} : NotBefore Char.isDigit ('-' :: rest) := by
  simp [NotBefore]

theorem notBefore_blanks_append {w rest : List Char} (hw : Blanks w)
    (h : NotBefore Char.isDigit rest) : NotBefore Char.isDigit (w ++ rest) := by
  cases w with
  | nil => exact h
  | cons b w =>
    intro c hc
    obtain rfl : b = c := by simpa using hc
    have hblank := hw b List.mem_cons_self
    rw [← Bool.not_eq_true]
    intro hdigit
    rw [not_blank_of_isDigit hdigit] at hblank
    cases hblank

theorem notBefore_blanks {w : List Char} (hw : Blanks w) : NotBefore Char.isDigit w := by
  have h : NotBefore Char.isDigit (w ++ []) := notBefore_blanks_append hw nofun
  rwa [List.append_nil] at h

/-- A text of a shape is a text of its symbols: where a literal ends, a blank, a dash or nothing
follows. -/
theorem spelling_iff_spelt {text : List Char} {shape : Shape} :
    Spelling text shape ↔ Spelt text shape.symbols := by
  constructor
  · intro h
    cases h with
    | star h₁ h₂ => exact .cons h₁ Symbol.before_star (.nil h₂)
    | number h₁ hd h₂ =>
      rw [List.append_assoc]
      exact .cons h₁ (Symbol.before_integer hd (notBefore_blanks h₂)) (.nil h₂)
    | opened h₁ hd h₂ h₃ =>
      rw [List.append_assoc, List.append_assoc]
      refine .cons h₁ (Symbol.before_integer hd ?_) (.cons h₂ Symbol.before_dash (.nil h₃))
      exact notBefore_blanks_append h₂ notBefore_dash
    | range h₁ hd h₂ h₃ hd' h₄ =>
      simp only [List.append_assoc, List.cons_append]
      have hlast := Spelt.cons h₃ (Symbol.before_integer hd' (notBefore_blanks h₄)) (.nil h₄)
      refine .cons h₁ (Symbol.before_integer hd ?_) (.cons h₂ Symbol.before_dash hlast)
      exact notBefore_blanks_append h₂ notBefore_dash
  · intro h
    cases shape with
    | star =>
      obtain _ | ⟨h₁, -, ⟨h₂⟩⟩ := h
      exact .star h₁ h₂
    | number digits =>
      obtain _ | ⟨h₁, hb, ⟨h₂⟩⟩ := h
      rw [← List.append_assoc]
      exact .number h₁ hb.1 h₂
    | opened digits =>
      obtain _ | ⟨h₁, hb, _ | ⟨h₂, -, ⟨h₃⟩⟩⟩ := h
      rw [← List.append_assoc, ← List.append_assoc]
      exact .opened h₁ hb.1 h₂ h₃
    | range firstDigits lastDigits =>
      obtain _ | ⟨h₁, hb, _ | ⟨h₂, -, _ | ⟨h₃, hb', ⟨h₄⟩⟩⟩⟩ := h
      have := Spelling.range h₁ hb.1 h₂ h₃ hb'.1 h₄
      simpa [Symbol.lexeme] using this

/-- The items of a text of symbols are these symbols. -/
theorem spelt_iff_itemized {text : List Char} {symbols : List Symbol} (p : Nat) :
    Spelt text symbols ↔
      ∃ items, Itemized p text items ∧ items.map Item.symbol? = symbols.map some := by
  constructor
  · intro h
    induction h generalizing p with
    | nil hw => exact ⟨[], .nil hw, rfl⟩
    | cons hw hb hrest ih =>
      obtain ⟨items, hi, hs⟩ := ih (p + _ + _)
      exact ⟨_, .symbol hw hb hi, by simp [Item.symbol?, hs]⟩
  · rintro ⟨items, hi, hs⟩
    induction hi generalizing symbols with
    | nil hw =>
      rw [List.map_eq_nil_iff.mp hs.symm]
      exact .nil hw
    | symbol hw hb hrest ih =>
      cases symbols with
      | nil => cases hs
      | cons symbol symbols =>
        simp only [List.map_cons, Item.symbol?, List.cons.injEq, Option.some.injEq] at hs
        obtain ⟨rfl, hs⟩ := hs
        exact .cons hw hb (ih hs)
    | foreign hw hf hrest ih => cases symbols <;> simp [Item.symbol?] at hs

/-- The texts of a shape are the texts whose items make the shape. -/
theorem spelling_iff_itemized {text : List Char} {shape : Shape} (p : Nat) :
    Spelling text shape ↔ ∃ items, Itemized p text items ∧ Spells items (some shape) := by
  rw [spelling_iff_spelt, spelt_iff_itemized p]
  rfl

/-- The tokens of a text of symbols are these symbols. -/
theorem Spelt.map_symbol_tokens {text : List Char} {symbols : List Symbol}
    (h : Spelt text symbols) (p : Nat) :
    (Cursor.mk text p).tokens.1.map Token.symbol = symbols := by
  induction h generalizing p with
  | nil hw => rw [tokens_blanks hw]; rfl
  | cons hw hb hrest ih => rw [tokens_symbol hw hb, List.map_cons, ih]

/-- A text is of one shape at most. -/
theorem Spelling.unique {text : List Char} {shape other : Shape} (h : Spelling text shape)
    (h' : Spelling text other) : shape = other := by
  rw [spelling_iff_spelt] at h h'
  have hsymbols : shape.symbols = other.symbols := by
    rw [← h.map_symbol_tokens 0, h'.map_symbol_tokens 0]
  exact Option.some.inj (symbols_elim_injective hsymbols)

/-! ## Acceptance -/

theorem orNext_eq_ok_iff {text : String} {next? : Option Item}
    {outcome : Except ParseError Subinterval} {s : Subinterval} :
    orNext text next? outcome = .ok s ↔ next? = none ∧ outcome = .ok s := by
  cases next? <;> simp [orNext]

/-- A text is accepted if its items make a shape that stands for something, and no item follows. -/
theorem judge_eq_ok_iff {text : String} {shape? : Option Shape} {next? : Option Item}
    {s : Subinterval} : judge text shape? next? = .ok s ↔
      next? = none ∧ ∃ shape, shape? = some shape ∧ shape.Means s := by
  cases shape? with
  | none => simp [judge, orNext_eq_ok_iff]
  | some shape =>
    simp only [Option.some.injEq, exists_eq_left', ← @Shape.outcome_convert_eq_ok_iff text]
    rw [judge]
    split
    · cases (shape.convert text).outcome with
      | error error =>
        constructor
        · intro h
          cases h
        · intro h
          cases h.2
      | ok s' => exact orNext_eq_ok_iff
    · exact orNext_eq_ok_iff

/-- All items make a shape exactly if this is their longest beginning, and no item follows. -/
theorem longestBeginning_all_iff {items : List Item} {shape? : Option Shape} :
    LongestBeginning items shape? none ↔ Spells items shape? := by
  constructor
  · rintro ⟨w, rest, rfl, hrest, hw, -⟩
    rwa [List.head?_eq_none_iff.mp hrest, List.append_nil]
  · intro h
    exact ⟨items, [], (List.append_nil _).symm, rfl, h, fun w' _ hw' _ => hw'.length_le⟩

/-- A text that is read is a text of a shape, and comes to what the shape stands for. -/
theorem exists_means_of_parseSubexpression {text : String} {s : Subinterval}
    (h : parseSubexpression text = .ok s) :
    ∃ shape, Spelling text.toList shape ∧ shape.Means s := by
  obtain ⟨items, shape?, next?, hi, hl, hj⟩ := parseSubexpression_eq_iff.mp h
  obtain ⟨rfl, shape, rfl, hm⟩ := judge_eq_ok_iff.mp hj
  exact ⟨shape, (spelling_iff_itemized 0).mpr ⟨items, hi, longestBeginning_all_iff.mp hl⟩, hm⟩

/-- The parser accepts exactly the texts of shapes that stand for a subinterval, and its result is
that subinterval. -/
theorem parseSubexpression_eq_ok_iff (text : String) (s : Subinterval) :
    parseSubexpression text = .ok s ↔ ∃ shape, Spelling text.toList shape ∧ shape.Means s := by
  refine ⟨exists_means_of_parseSubexpression, ?_⟩
  rintro ⟨shape, hs, hm⟩
  obtain ⟨items, hi, hl⟩ := (spelling_iff_itemized 0).mp hs
  have hj : judge text (some shape) none = .ok s := judge_eq_ok_iff.mpr ⟨rfl, shape, rfl, hm⟩
  exact parseSubexpression_eq_iff.mpr ⟨items, _, _, hi, longestBeginning_all_iff.mpr hl, hj⟩

end IntervalExpr
