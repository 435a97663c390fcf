import IntervalExpr.Error

/-!
# The items of a text

Blanks aside, a text is a sequence of items: symbols, of which the runs of digits go as far as they
can, and characters that belong to no symbol.

* `Itemized`: the items of a text with their positions.
* `exists_itemized`: every text is a sequence of items.
* `scan_blanks`, `scan_symbol`, `scan_foreign`: the scan of a text comes to its first item.
* `tokens_blanks`, `tokens_symbol`: the tokens of a text, symbol by symbol.
-/

namespace IntervalExpr

/-- A run of blanks. -/
def Blanks (w : List Char) : Prop := ∀ c ∈ w, isBlank c = true

theorem blanks_nil : Blanks [] := List.forall_mem_nil _

/-- A run of decimal digits, which is not empty. -/
structure IsLiteral (digits : List Char) : Prop where
  ne_nil : digits ≠ []
  isDigit : ∀ c ∈ digits, c.isDigit = true

/-- The first character of a text, if there is one, is not of a class. -/
def NotBefore (p : Char → Bool) (text : List Char) : Prop := ∀ c, text.head? = some c → p c = false

/-- A symbol in front of `rest`: if it is a literal, no digit follows. -/
def Symbol.Before : Symbol → List Char → Prop
  | .star, _ => True
  | .dash, _ => True
  | .integer digits, rest => IsLiteral digits ∧ NotBefore Char.isDigit rest

theorem Symbol.before_star {rest : List Char} : Symbol.star.Before rest := trivial

theorem Symbol.before_dash {rest : List Char} : Symbol.dash.Before rest := trivial

theorem Symbol.before_integer {digits rest : List Char} (hd : IsLiteral digits)
    (hrest : NotBefore Char.isDigit rest) : (Symbol.integer digits).Before rest := ⟨hd, hrest⟩

/-- A character that is neither a blank nor part of a symbol. -/
structure IsForeign (c : Char) : Prop where
  not_blank : isBlank c = false
  not_digit : c.isDigit = false
  ne_star : c ≠ '*'
  ne_dash : c ≠ '-'

/-- What a text consists of, blanks aside. Positions count characters from zero. -/
inductive Item where
  | token (token : Token)
  | foreign (char : Char) (position : Nat)
  deriving DecidableEq

/-- The symbol of an item, if it is one. -/
def Item.symbol? : Item → Option Symbol
  | .token t => some t.symbol
  | .foreign .. => none

/-- The items of a text that starts at position `p`. -/
inductive Itemized : Nat → List Char → List Item → Prop
  | nil {p w} : Blanks w → Itemized p w []
  | symbol {p w symbol rest items} : Blanks w → symbol.Before rest →
      Itemized (p + w.length + symbol.lexeme.length) rest items →
      Itemized p (w ++ (symbol.lexeme ++ rest)) (.token ⟨symbol, p + w.length⟩ :: items)
  | foreign {p w c rest items} : Blanks w → IsForeign c →
      Itemized (p + w.length + 1) rest items →
      Itemized p (w ++ c :: rest) (.foreign c (p + w.length) :: items)

/-! ## Character classes -/

theorem toNat_of_isDigit {c : Char} (h : c.isDigit = true) : 48 ≤ c.toNat ∧ c.toNat ≤ 57 := by
  simpa [Char.isDigit, UInt32.le_iff_toNat_le] using h

/-- A blank is no digit, no star and no dash. -/
theorem not_blank_of_isDigit {c : Char} (h : c.isDigit = true) : isBlank c = false := by
  rw [← Bool.not_eq_true]
  intro hb
  rw [isBlank_iff] at hb
  rcases hb with rfl | rfl | rfl | rfl | rfl | rfl <;> cases h

theorem ne_star_of_isDigit {c : Char} (h : c.isDigit = true) : c ≠ '*' := by rintro rfl; cases h

theorem ne_dash_of_isDigit {c : Char} (h : c.isDigit = true) : c ≠ '-' := by rintro rfl; cases h

/-- A text is a run of a class of characters and a rest that does not go on with it. -/
theorem exists_run (p : Char → Bool) (text : List Char) :
    ∃ run rest, text = run ++ rest ∧ (∀ c ∈ run, p c = true) ∧ NotBefore p rest := by
  refine ⟨text.takeWhile p, text.dropWhile p, List.takeWhile_append_dropWhile.symm, ?_, ?_⟩
  · exact List.all_eq_true.mp List.all_takeWhile
  · intro c hc
    have := List.head?_dropWhile_not p text
    rw [hc] at this
    exact this

theorem takeWhile_run {p : Char → Bool} {run rest : List Char} (hrun : ∀ c ∈ run, p c = true)
    (hrest : NotBefore p rest) : (run ++ rest).takeWhile p = run := by
  rw [List.takeWhile_append_of_pos hrun]
  cases rest with
  | nil => simp
  | cons c rest => rw [List.takeWhile_cons_of_neg (by simp [hrest c rfl]), List.append_nil]

theorem dropWhile_run {p : Char → Bool} {run rest : List Char} (hrun : ∀ c ∈ run, p c = true)
    (hrest : NotBefore p rest) : (run ++ rest).dropWhile p = rest := by
  rw [List.dropWhile_append_of_pos hrun]
  cases rest with
  | nil => rfl
  | cons c rest => rw [List.dropWhile_cons_of_neg (by simp [hrest c rfl])]

/-! ## Scanning the first item -/

section Scan

variable {p : Nat} {w text rest : List Char} {c : Char} {symbol : Symbol} {items : List Item}

theorem skipBlanks_run (hw : Blanks w) (h : NotBefore isBlank text) :
    (Cursor.mk (w ++ text) p).skipBlanks = ⟨text, p + w.length⟩ := by
  simp only [Cursor.skipBlanks, takeWhile_run hw h, dropWhile_run hw h]

theorem scan_blanks (hw : Blanks w) : (Cursor.mk w p).scan = .finished := by
  have hnil : NotBefore isBlank [] := by simp [NotBefore]
  have hs : (Cursor.mk (w ++ []) p).skipBlanks = _ := skipBlanks_run hw hnil
  rw [List.append_nil] at hs
  simp [Cursor.scan, hs]

theorem scan_symbol (hw : Blanks w) (hs : symbol.Before rest) :
    (Cursor.mk (w ++ (symbol.lexeme ++ rest)) p).scan =
      .token ⟨symbol, p + w.length⟩ ⟨rest, p + w.length + symbol.lexeme.length⟩ := by
  cases symbol with
  | star =>
    have hstar : NotBefore isBlank ('*' :: rest) := by simp [NotBefore, isBlank]
    simp [Cursor.scan, Symbol.lexeme, skipBlanks_run hw hstar]
  | dash =>
    have hdash : NotBefore isBlank ('-' :: rest) := by simp [NotBefore, isBlank]
    simp [Cursor.scan, Symbol.lexeme, skipBlanks_run hw hdash]
  | integer digits =>
    obtain ⟨⟨hne, hdigits⟩, hrest⟩ := hs
    cases digits with
    | nil => exact absurd rfl hne
    | cons d ds =>
      have hd := hdigits d List.mem_cons_self
      have hds : ∀ c ∈ ds, c.isDigit = true := fun c hc => hdigits c (List.mem_cons_of_mem _ hc)
      have hblank : NotBefore isBlank (d :: (ds ++ rest)) := by
        simp [NotBefore, not_blank_of_isDigit hd]
      simp [Cursor.scan, Symbol.lexeme, skipBlanks_run hw hblank, hd, ne_star_of_isDigit hd,
        ne_dash_of_isDigit hd, takeWhile_run hds hrest, dropWhile_run hds hrest]

theorem scan_foreign (hw : Blanks w) (hc : IsForeign c) :
    (Cursor.mk (w ++ c :: rest) p).scan = .illegal c (p + w.length) := by
  have hblank : NotBefore isBlank (c :: rest) := by simp [NotBefore, hc.not_blank]
  simp [Cursor.scan, skipBlanks_run hw hblank, hc.ne_star, hc.ne_dash, hc.not_digit]

/-- Where only blanks are left, there are no more tokens. -/
theorem tokens_blanks (hw : Blanks w) : (Cursor.mk w p).tokens = ([], none) := by
  have hscan : (Cursor.mk w p).scan = .finished := scan_blanks hw
  rw [Cursor.tokens]
  split
  · rfl
  · rename_i heq
    cases hscan.symm.trans heq
  · rename_i heq
    cases hscan.symm.trans heq

/-- A symbol is the first token, and the other tokens are those behind it. -/
theorem tokens_symbol (hw : Blanks w) (hs : symbol.Before rest) :
    (Cursor.mk (w ++ (symbol.lexeme ++ rest)) p).tokens =
      (⟨symbol, p + w.length⟩ :: (Cursor.mk rest (p + w.length + symbol.lexeme.length)).tokens.1,
        (Cursor.mk rest (p + w.length + symbol.lexeme.length)).tokens.2) := by
  have hscan := scan_symbol (p := p) hw hs
  rw [Cursor.tokens]
  split
  · rename_i heq
    cases hscan.symm.trans heq
  · rename_i heq
    cases hscan.symm.trans heq
  · rename_i heq
    cases hscan.symm.trans heq
    rfl

end Scan

/-- The literals among the items of a text are runs of digits. -/
theorem Itemized.isLiteral {p : Nat} {text digits : List Char} {items : List Item}
    (h : Itemized p text items) (hd : some (.integer digits) ∈ items.map Item.symbol?) :
    IsLiteral digits := by
  induction h with
  | nil hw => exact nomatch hd
  | symbol hw hb hrest ih =>
    rcases List.mem_cons.mp hd with heq | hd
    · obtain rfl := Option.some.inj heq
      exact hb.1
    · exact ih hd
  | foreign hw hc hrest ih =>
    rcases List.mem_cons.mp hd with heq | hd
    · cases heq
    · exact ih hd

/-- Every text is a sequence of items. -/
theorem exists_itemized (p : Nat) (text : List Char) : ∃ items, Itemized p text items := by
  induction hn : text.length using Nat.strongRecOn generalizing text p with
  | _ n ih =>
    obtain ⟨w, tail, rfl, hw, htail⟩ := exists_run isBlank text
    cases tail with
    | nil => exact ⟨[], by rw [List.append_nil]; exact .nil hw⟩
    | cons c rest =>
      have hlength : rest.length < n := by rw [← hn]; simp; omega
      by_cases hstar : c = '*'
      · obtain ⟨items, hi⟩ := ih rest.length hlength (p + w.length + 1) rest rfl
        subst hstar
        exact ⟨_, Itemized.symbol hw Symbol.before_star hi⟩
      by_cases hdash : c = '-'
      · obtain ⟨items, hi⟩ := ih rest.length hlength (p + w.length + 1) rest rfl
        subst hdash
        exact ⟨_, Itemized.symbol hw Symbol.before_dash hi⟩
      by_cases hdigit : c.isDigit = true
      · obtain ⟨ds, rest, rfl, hds, hrest⟩ := exists_run Char.isDigit rest
        have hliteral : IsLiteral (c :: ds) :=
          ⟨by simp, fun d hd => (List.mem_cons.mp hd).elim (fun h => h ▸ hdigit) (hds d)⟩
        rw [List.length_append] at hlength
        obtain ⟨items, hi⟩ := ih rest.length (by omega)
          (p + w.length + (c :: ds).length) rest rfl
        exact ⟨_, Itemized.symbol hw (Symbol.before_integer hliteral hrest) hi⟩
      · obtain ⟨items, hi⟩ := ih rest.length hlength (p + w.length + 1) rest rfl
        exact ⟨_, .foreign hw ⟨htail c rfl, by simpa using hdigit, hstar, hdash⟩ hi⟩

end IntervalExpr
