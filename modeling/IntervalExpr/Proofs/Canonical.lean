import IntervalExpr.Proofs.Denotation

/-!
# The text of a subinterval

The text of a subinterval is a text of a shape, without blanks and leading zeros. As long as its
numbers are in range, it is read as the subinterval again.

* `toDigits_suffix`: a literal is the digits of its value, behind zeros.
* `ofDigitChars_lt_of_length_lt`: a literal with fewer digits than a number is less than it.
* `Subinterval.shape`, `spelling_toString`: the shape that the text of a subinterval has.
* `symbol_cases`, `toList_toString`: the symbols of the text, and the text as their row.
* `Subinterval.InRange.means`: in range, the shape stands for the subinterval.
* `parseSubexpression_toString`: reading the text of a subinterval.
* `mem_toString`: the characters of the text.
-/

namespace IntervalExpr

/-! ## Numbers -/

theorem isLiteral_toDigits (n : Nat) : IsLiteral (Nat.toDigits 10 n) :=
  ⟨Nat.toDigits_ne_nil, fun _ hc => Nat.isDigit_of_mem_toDigits (by decide) (by decide) hc⟩

/-- A number in range has nineteen digits at most. -/
theorem length_toDigits_le {n : Nat} (h : n ≤ maxValue) : (Nat.toDigits 10 n).length ≤ 19 := by
  rw [Nat.length_toDigits_le_iff (by decide) (by decide)]
  unfold maxValue at h
  omega

theorem denotes_toDigits {n : Nat} (h : n ≤ maxValue) : Denotes (Nat.toDigits 10 n) n where
  length_le := Nat.le_trans (length_toDigits_le h) (by decide)
  value := Nat.ofDigitChars_ten_toDigits
  le := h

/-- The character of a digit is found from its value. -/
theorem digitChar_toNat_sub {c : Char} (h : c.isDigit = true) :
    c.toNat - '0'.toNat < 10 ∧ Nat.digitChar (c.toNat - '0'.toNat) = c := by
  have hzero : '0'.toNat = 48 := rfl
  obtain ⟨hge, hle⟩ := toNat_of_isDigit h
  refine ⟨by omega, Char.toNat_inj.mp ?_⟩
  rw [Nat.toNat_digitChar_of_lt_ten (by omega), hzero]
  omega

theorem ofDigitChars_concat (digits : List Char) (c : Char) :
    Nat.ofDigitChars 10 (digits ++ [c]) 0 =
      10 * Nat.ofDigitChars 10 digits 0 + (c.toNat - '0'.toNat) := by
  rw [Nat.ofDigitChars_append, Nat.ofDigitChars_cons, Nat.ofDigitChars_nil]

/-- A literal is the digits of its value, behind zeros. -/
theorem toDigits_suffix {digits : List Char} (h : IsLiteral digits) :
    Nat.toDigits 10 (Nat.ofDigitChars 10 digits 0) <:+ digits := by
  induction digits using List.reverseRecOn with
  | nil => exact absurd rfl h.ne_nil
  | append_singleton digits c ih =>
    obtain ⟨hlt, hc⟩ := digitChar_toNat_sub (h.isDigit c (by simp))
    rw [ofDigitChars_concat]
    by_cases hvalue : Nat.ofDigitChars 10 digits 0 = 0
    · rw [hvalue, Nat.mul_zero, Nat.zero_add, Nat.toDigits_of_lt_base hlt, hc]
      exact List.suffix_append ..
    · have hliteral : IsLiteral digits := by
        refine ⟨?_, fun d hd => h.isDigit d (List.mem_append_left _ hd)⟩
        rintro rfl
        exact hvalue Nat.ofDigitChars_nil
      rw [← Nat.toDigits_append_toDigits (by decide) (Nat.pos_of_ne_zero hvalue) hlt,
        Nat.toDigits_of_lt_base hlt, hc]
      exact (List.suffix_append_inj_of_length_eq rfl).mpr ⟨ih hliteral, rfl⟩

/-- Digits come to less than the next power of ten. -/
theorem ofDigitChars_lt {digits : List Char} (h : ∀ c ∈ digits, c.isDigit = true) :
    Nat.ofDigitChars 10 digits 0 < 10 ^ digits.length := by
  induction digits using List.reverseRecOn with
  | nil => exact Nat.zero_lt_one
  | append_singleton digits c ih =>
    have hlt := (digitChar_toNat_sub (h c (by simp))).1
    have := ih fun d hd => h d (List.mem_append_left _ hd)
    rw [ofDigitChars_concat, List.length_append, List.length_singleton, Nat.pow_succ]
    omega

/-- A literal with fewer digits than a number is less than the number. -/
theorem ofDigitChars_lt_of_length_lt {digits : List Char} {n : Nat} (h : IsLiteral digits)
    (hlength : digits.length < (Nat.toDigits 10 n).length) : Nat.ofDigitChars 10 digits 0 < n := by
  have hpos := List.length_pos_iff.mpr h.ne_nil
  rw [← Nat.not_le, Nat.length_toDigits_le_iff (by decide) hpos, Nat.not_lt] at hlength
  exact Nat.lt_of_lt_of_le (ofDigitChars_lt h.isDigit) hlength

/-! ## Shapes -/

theorem Spelling.ne_nil {text : List Char} {shape : Shape} (h : Spelling text shape) :
    text ≠ [] := by
  cases h with
  | star hw hw' => simp
  | number hw hd hw' => simp [hd.ne_nil]
  | opened hw hd hw' hw'' => simp
  | range hw hd hw' hw'' hd' hw''' => simp

namespace Subinterval

/-- The shape of the text of a subinterval. -/
def shape : Subinterval → Shape
  | .bounded first last _ =>
    if first = last then .number (Nat.toDigits 10 first)
    else .range (Nat.toDigits 10 first) (Nat.toDigits 10 last)
  | .unbounded first => .opened (Nat.toDigits 10 first)
  | .wildcard => .star

theorem spelling_toString (s : Subinterval) : Spelling s.toString.toList s.shape := by
  have hnil := blanks_nil
  cases s with
  | bounded first last ordered =>
    simp only [Subinterval.toString, shape]
    split
    · simpa using Spelling.number hnil (isLiteral_toDigits first) hnil
    · simpa using Spelling.range hnil (isLiteral_toDigits first) hnil hnil
        (isLiteral_toDigits last) hnil
  | unbounded first =>
    simpa [Subinterval.toString, shape] using
      Spelling.opened hnil (isLiteral_toDigits first) hnil hnil
  | wildcard =>
    simpa [Subinterval.toString, shape] using Spelling.star hnil hnil

theorem toString_ne_empty (s : Subinterval) : s.toString ≠ "" := by
  intro h
  exact s.spelling_toString.ne_nil (by rw [h]; rfl)

/-- The text of a subinterval is its symbols in a row. -/
theorem toList_toString (s : Subinterval) :
    s.toString.toList = s.shape.symbols.flatMap Symbol.lexeme := by
  cases s with
  | bounded first last ordered =>
    simp only [Subinterval.toString, shape]
    split <;> simp [Shape.symbols, Symbol.lexeme]
  | unbounded first => simp [Subinterval.toString, shape, Shape.symbols, Symbol.lexeme]
  | wildcard => rfl

/-- The symbols of the text are a star, a dash or the digits of one of the bounds. -/
theorem symbol_cases {s : Subinterval} {symbol : Symbol} (h : symbol ∈ s.shape.symbols) :
    s = .wildcard ∧ symbol = .star ∨ symbol = .dash ∨
      s ≠ .wildcard ∧ ∃ n, (n = s.start ∨ s.last? = some n) ∧
        symbol = .integer (Nat.toDigits 10 n) := by
  cases s with
  | bounded first last ordered =>
    have hs : bounded first last ordered ≠ .wildcard := by simp
    simp only [shape] at h
    split at h
    · obtain rfl := List.mem_singleton.mp h
      exact .inr (.inr ⟨hs, first, .inl rfl, rfl⟩)
    · simp only [Shape.symbols, List.mem_cons, List.not_mem_nil, or_false] at h
      obtain rfl | rfl | rfl := h
      · exact .inr (.inr ⟨hs, first, .inl rfl, rfl⟩)
      · exact .inr (.inl rfl)
      · exact .inr (.inr ⟨hs, last, .inr rfl, rfl⟩)
  | unbounded first =>
    have hs : unbounded first ≠ .wildcard := by simp
    simp only [shape, Shape.symbols, List.mem_cons, List.not_mem_nil, or_false] at h
    obtain rfl | rfl := h
    · exact .inr (.inr ⟨hs, first, .inl rfl, rfl⟩)
    · exact .inr (.inl rfl)
  | wildcard => exact .inl ⟨rfl, List.mem_singleton.mp h⟩

theorem integer_mem_symbols {s : Subinterval} (hw : s ≠ .wildcard) {n : Nat}
    (hn : n = s.start ∨ s.last? = some n) : .integer (Nat.toDigits 10 n) ∈ s.shape.symbols := by
  cases s with
  | bounded first last ordered =>
    simp only [start, last?, Option.some.injEq] at hn
    simp only [shape]
    obtain rfl | rfl := hn <;> split <;> simp_all [Shape.symbols]
  | unbounded first =>
    simp only [start, last?, reduceCtorEq, or_false] at hn
    simp [shape, Shape.symbols, hn]
  | wildcard => exact absurd rfl hw

/-- The text of a subinterval has digits, a dash or a star in it, and nothing else. -/
theorem mem_toString {s : Subinterval} {c : Char} (h : c ∈ s.toString.toList) :
    c.isDigit = true ∨ c = '-' ∨ c = '*' := by
  rw [toList_toString, List.mem_flatMap] at h
  obtain ⟨symbol, hsymbol, hc⟩ := h
  obtain ⟨-, rfl⟩ | rfl | ⟨-, n, -, rfl⟩ := symbol_cases hsymbol
  · exact .inr (.inr (List.mem_singleton.mp hc))
  · exact .inr (.inl (List.mem_singleton.mp hc))
  · exact .inl ((isLiteral_toDigits n).isDigit c hc)

theorem not_blank_of_mem_toString {s : Subinterval} {c : Char} (h : c ∈ s.toString.toList) :
    isBlank c = false := by
  rcases mem_toString h with h | rfl | rfl
  · exact not_blank_of_isDigit h
  · rfl
  · rfl

/-! ## Reading the text -/

/-- In range, the shape of the text stands for the subinterval. -/
theorem InRange.means {s : Subinterval} (h : s.InRange) : s.shape.Means s := by
  cases s with
  | bounded first last ordered =>
    have hfirst := denotes_toDigits h.start_le
    have hlast := denotes_toDigits (h.last_le last rfl)
    simp only [shape]
    split
    · rename_i heq
      subst heq
      exact .number hfirst
    · exact .range hfirst hlast ordered
  | unbounded first => exact .opened (denotes_toDigits h.start_le)
  | wildcard => exact .star

end Subinterval

/-- The text of a subinterval in range is read as the subinterval. -/
theorem parseSubexpression_toString {s : Subinterval} (h : s.InRange) :
    parseSubexpression s.toString = .ok s := by
  rw [parseSubexpression_of_spelling s.spelling_toString, Shape.outcome_of_means h.means]

end IntervalExpr
