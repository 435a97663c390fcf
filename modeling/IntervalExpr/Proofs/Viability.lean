import IntervalExpr.Proofs.Denotation

/-!
# The column of a fault

A subexpression without a shape is refused at the first place where no text of a shape goes on as it
does. All before that place is the beginning of a text of a shape, whatever the literals in it come
to; with the character at that place it is no longer.

* `Viable`: the beginnings of the texts of the four shapes.
* `Starts`: what kind of item a character starts.
* `CutAt`, `Itemized.exists_cutAt`: a text is cut in front of an item, and the item is replaced by
  any other that starts with the same character.
* `Starts.stuck`: whether an item goes on with a shape is told by the character it starts with.
* `Spelling.not_malformed`: a text of a shape has no fault.
* `malformed_column_exact`: where the fault is.
-/

namespace IntervalExpr

/-- Some text of one of the shapes starts with these characters. -/
def Viable (front : List Char) : Prop :=
  ∃ member shape, Spelling member shape ∧ front <+: member

/-! ## The character an item starts with -/

/-- The items that a character starts: a digit starts a literal, any other character of a text
starts one item only. -/
inductive Starts : Char → Item → Prop
  | star {p} : Starts '*' (.token ⟨.star, p⟩)
  | dash {p} : Starts '-' (.token ⟨.dash, p⟩)
  | integer {c digits p} : c.isDigit = true → Starts c (.token ⟨.integer digits, p⟩)
  | foreign {c p} : IsForeign c → Starts c (.foreign c p)

/-- Where an item stands, counted in characters from zero. -/
def Item.position : Item → Nat
  | .token t => t.position
  | .foreign _ p => p

section

variable {c : Char} {x y : Item} {shape? : Option Shape}

theorem Starts.not_blank (h : Starts c x) : isBlank c = false := by
  cases h with
  | star => rfl
  | dash => rfl
  | integer hc => exact not_blank_of_isDigit hc
  | foreign hc => exact hc.not_blank

/-- A shape goes on with every literal or with none. -/
theorem grow?_integer_eq_none {digits digits' : List Char}
    (h : grow? shape? (.integer digits) = none) : grow? shape? (.integer digits') = none := by
  cases shape? with
  | none => cases h
  | some shape =>
    cases shape with
    | star => rfl
    | number digits => rfl
    | opened digits => cases h
    | range firstDigits lastDigits => rfl

/-- If an item goes on with no shape, then neither does any other that starts with the same
character. -/
theorem Starts.stuck (hx : Starts c x) (hy : Starts c y)
    (h : x.symbol?.bind (grow? shape?) = none) : y.symbol?.bind (grow? shape?) = none := by
  cases hx with
  | star =>
    cases hy with
    | star => exact h
    | integer hc => exact absurd rfl (ne_star_of_isDigit hc)
    | foreign hc => rfl
  | dash =>
    cases hy with
    | dash => exact h
    | integer hc => exact absurd rfl (ne_dash_of_isDigit hc)
    | foreign hc => rfl
  | integer hc =>
    cases hy with
    | star => exact absurd rfl (ne_star_of_isDigit hc)
    | dash => exact absurd rfl (ne_dash_of_isDigit hc)
    | integer hc' => exact grow?_integer_eq_none h
    | foreign hc' => rfl
  | foreign hc =>
    cases hy with
    | star => exact absurd rfl hc.ne_star
    | dash => exact absurd rfl hc.ne_dash
    | integer hc' => exact absurd hc' (by simp [hc.not_digit])
    | foreign hc' => rfl

end

/-! ## Cutting a text in front of an item -/

section

variable {p : Nat} {w text rest front tail : List Char} {c : Char} {x : Item}
  {items before after : List Item} {symbol : Symbol}

/-- What may stand behind a symbol depends on the next character only. -/
theorem Symbol.Before.of_head? {rest' : List Char} (h : symbol.Before rest)
    (hhead : ∀ c, rest'.head? = some c → rest.head? = some c) : symbol.Before rest' := by
  cases symbol with
  | star => exact Symbol.before_star
  | dash => exact Symbol.before_dash
  | integer digits => exact Symbol.before_integer h.1 fun c hc => h.2 c (hhead c hc)

theorem Itemized.blanks_append (hw : Blanks w) (h : Itemized (p + w.length) text items) :
    Itemized p (w ++ text) items := by
  have happend : ∀ {v}, Blanks v → Blanks (w ++ v) := fun hv c hc =>
    (List.mem_append.mp hc).elim (hw c) (hv c)
  have hlength : ∀ v : List Char, p + w.length + v.length = p + (w ++ v).length := fun v => by
    rw [List.length_append, Nat.add_assoc]
  cases h with
  | nil hv => exact .nil (happend hv)
  | symbol hv hb hrest =>
    rw [hlength] at hrest ⊢
    rw [← List.append_assoc]
    exact .symbol (happend hv) hb hrest
  | foreign hv hf hrest =>
    rw [hlength] at hrest ⊢
    rw [← List.append_assoc]
    exact .foreign (happend hv) hf hrest

/-- A symbol in front of a text has a first character. -/
theorem Symbol.Before.exists_starts (h : symbol.Before rest) :
    ∃ c more, symbol.lexeme = c :: more ∧ ∀ q, Starts c (.token ⟨symbol, q⟩) := by
  cases symbol with
  | star => exact ⟨'*', [], rfl, fun _ => .star⟩
  | dash => exact ⟨'-', [], rfl, fun _ => .dash⟩
  | integer digits =>
    obtain ⟨c, more, rfl⟩ := List.exists_cons_of_ne_nil h.1.ne_nil
    exact ⟨c, more, rfl, fun _ => .integer (h.1.isDigit c List.mem_cons_self)⟩

/-- A text that starts with no blank starts with an item. -/
theorem Itemized.exists_starts (h : Itemized p (c :: tail) items) (hc : isBlank c = false) :
    ∃ x rest, items = x :: rest ∧ Starts c x := by
  have hnil : ∀ {w more : List Char}, Blanks w → c :: tail = w ++ more → w = [] := by
    intro w more hw heq
    cases w with
    | nil => rfl
    | cons b w =>
      obtain rfl := (List.cons.inj heq).1
      rw [hw c List.mem_cons_self] at hc
      cases hc
  generalize htext : c :: tail = text at h
  cases h with
  | nil hw => cases htext.trans (hnil hw (by rw [htext, List.append_nil]))
  | symbol hw hb hrest =>
    obtain rfl := hnil hw htext
    obtain ⟨d, more, hlexeme, hstarts⟩ := hb.exists_starts
    rw [hlexeme] at htext
    cases htext
    exact ⟨_, _, rfl, hstarts _⟩
  | foreign hw hf hrest =>
    obtain rfl := hnil hw htext
    cases htext
    exact ⟨_, _, rfl, .foreign hf⟩

/-- The text is `front`, of which the items are `before`, and then `c`, with which the item `x`
starts. Any text that starts with `c` may take the place of what follows `front`. -/
structure CutAt (p : Nat) (text : List Char) (before : List Item) (x : Item) (front : List Char)
    (c : Char) : Prop where
  eq_append : ∃ tail, text = front ++ c :: tail
  position_eq : x.position = p + front.length
  starts : Starts c x
  itemized : Itemized p front before
  replace : ∀ tail items, Itemized (p + front.length) (c :: tail) items →
    Itemized p (front ++ c :: tail) (before ++ items)

/-- What stands in front of a text, with an item in it, stands in front of its cut as well. -/
theorem CutAt.cons {lead : List Char} {y : Item}
    (hcut : CutAt (p + lead.length) rest before x front c)
    (hlead : ∀ rest' items', (∀ d, rest'.head? = some d → rest.head? = some d) →
      Itemized (p + lead.length) rest' items' → Itemized p (lead ++ rest') (y :: items')) :
    CutAt p (lead ++ rest) (y :: before) x (lead ++ front) c := by
  obtain ⟨tail, rfl⟩ := hcut.eq_append
  have hlength : p + lead.length + front.length = p + (lead ++ front).length := by
    rw [List.length_append, Nat.add_assoc]
  refine ⟨⟨tail, (List.append_assoc ..).symm⟩, hlength ▸ hcut.position_eq, hcut.starts,
    hlead front before ?_ hcut.itemized, fun tail' items' h => ?_⟩
  · intro d hd
    rw [List.head?_append, hd]
    rfl
  · rw [List.append_assoc]
    refine hlead _ _ (fun d hd => ?_) (hcut.replace tail' items' (hlength ▸ h))
    rwa [List.head?_append, List.head?_cons] at hd ⊢

/-- A text is cut in front of each of its items. -/
theorem Itemized.exists_cutAt (h : Itemized p text (before ++ x :: after)) :
    ∃ front c, CutAt p text before x front c := by
  generalize heq : before ++ x :: after = items at h
  induction h generalizing before with
  | nil hw => cases before <;> cases heq
  | @symbol p w symbol rest items hw hb hrest ih =>
    cases before with
    | nil =>
      cases heq
      obtain ⟨c, more, hlexeme, hstarts⟩ := hb.exists_starts
      refine ⟨w, c, ⟨more ++ rest, ?_⟩, rfl, hstarts _, .nil hw, fun _ _ h => h.blanks_append hw⟩
      rw [hlexeme, List.cons_append]
    | cons y before =>
      obtain ⟨rfl, hitems⟩ := List.cons.inj heq
      obtain ⟨front, c, hcut⟩ := ih hitems
      have hlength : p + w.length + symbol.lexeme.length = p + (w ++ symbol.lexeme).length := by
        rw [List.length_append, Nat.add_assoc]
      rw [hlength] at hcut
      rw [← List.append_assoc]
      refine ⟨_, c, hcut.cons fun rest' items' hhead h => ?_⟩
      rw [List.append_assoc]
      exact .symbol hw (hb.of_head? hhead) (hlength ▸ h)
  | @foreign p w d rest items hw hf hrest ih =>
    cases before with
    | nil =>
      cases heq
      exact ⟨w, d, ⟨rest, rfl⟩, rfl, .foreign hf, .nil hw, fun _ _ h => h.blanks_append hw⟩
    | cons y before =>
      obtain ⟨rfl, hitems⟩ := List.cons.inj heq
      obtain ⟨front, c, hcut⟩ := ih hitems
      have hlength : p + w.length + 1 = p + (w ++ [d]).length := by
        rw [List.length_append, List.length_singleton, Nat.add_assoc]
      rw [hlength] at hcut
      rw [List.append_cons]
      refine ⟨_, c, hcut.cons fun rest' items' _ h => ?_⟩
      rw [← List.append_cons]
      exact .foreign hw hf (hlength ▸ h)

end

/-! ## Faults -/

section

variable {text told : String} {written : List Char} {shape : Shape} {shape? : Option Shape}
  {next? : Option Item} {position : Option Int} {detail : Option String}

/-- Converting a shape is never refused for a fault. -/
theorem Shape.Fails.not_malformed (h : shape.Fails text (.malformed told position detail)) :
    False := by
  cases h with
  | number hu => cases hu
  | opened hu => cases hu
  | first hu => cases hu
  | last hd hu => cases hu

/-- A text of a shape has no fault. -/
theorem Spelling.not_malformed (h : Spelling text.toList shape) :
    parseSubexpression text ≠ .error (.malformed told position detail) := by
  rw [parseSubexpression_of_spelling h, ne_eq, Shape.outcome_convert_eq_error_iff]
  exact Shape.Fails.not_malformed

/-- The error of a text that is given up at an item is a fault at the place of the item. -/
theorem Item.rejection_eq (text : String) (x : Item) :
    ∃ detail, x.rejection text = .malformed text (some x.position) detail := by
  cases x <;> exact ⟨_, rfl⟩

/-- A text with a fault is given up at the next item, as any other would be in which an item follows
the same shape, or it has no items. -/
theorem Rejects.of_malformed (h : Rejects text shape? next? (.malformed told position detail)) :
    (∃ x, next? = some x ∧ position = some (x.position : Int) ∧
      ∀ text' y, Rejects text' shape? (some y) (y.rejection text')) ∨
    (shape? = none ∧ next? = none ∧ position = none) := by
  have hposition : ∀ x : Item, .malformed told position detail = x.rejection text →
      position = some (x.position : Int) := by
    intro x heq
    obtain ⟨detail', hx⟩ := x.rejection_eq text
    cases heq.trans hx
    rfl
  generalize herror : ParseError.malformed told position detail = error at h
  cases h with
  | range hf =>
    subst herror
    exact hf.not_malformed.elim
  | @afterRange _ _ _ x hm => exact .inl ⟨x, rfl, hposition x herror, fun _ _ => .afterRange hm⟩
  | @next _ x hnot => exact .inl ⟨x, rfl, hposition x herror, fun _ _ => .next hnot⟩
  | nothing =>
    cases herror
    exact .inr ⟨rfl, rfl, rfl⟩
  | number hu =>
    subst herror
    cases hu
  | opened hu =>
    subst herror
    cases hu

theorem Itemized.blanks {p : Nat} (h : Itemized p written []) : Blanks written := by
  cases h with
  | nil hw => exact hw

/-- Items that make a shape or nothing are the beginning of a text of a shape. -/
theorem Itemized.viable {p : Nat} {items : List Item} (h : Itemized p written items)
    (hs : Spells items shape?) : Viable written := by
  cases shape? with
  | none =>
    obtain rfl := List.map_eq_nil_iff.mp hs
    exact ⟨written ++ ['*'], .star, .star h.blanks blanks_nil, List.prefix_append ..⟩
  | some shape =>
    exact ⟨written, shape, (spelling_iff_itemized p).mpr ⟨items, h, hs⟩, List.prefix_rfl⟩

/-- If a text is given up at an item, then no text of a shape starts with what comes before the item
and the first character of the item: whatever follows, it would be given up there. -/
theorem CutAt.not_viable {before : List Item} {x : Item} {front : List Char} {c : Char}
    (hcut : CutAt 0 written before x front c) (hs : Spells before shape?)
    (hstuck : x.symbol?.bind (grow? shape?) = none)
    (hrejects : ∀ text y, Rejects text shape? (some y) (y.rejection text)) :
    ¬ Viable (front ++ [c]) := by
  rintro ⟨member, shape, hmember, tail, rfl⟩
  rw [List.append_assoc, List.singleton_append, ← @String.toList_ofList (front ++ c :: tail)]
    at hmember
  obtain ⟨items, hi⟩ := exists_itemized (0 + front.length) (c :: tail)
  obtain ⟨y, after, rfl, hy⟩ := hi.exists_starts hcut.starts.not_blank
  have hstuck' : ∀ z, (y :: after).head? = some z → z.symbol?.bind (grow? shape?) = none := by
    intro z hz
    cases hz
    exact hcut.starts.stuck hy hstuck
  have hl : LongestBeginning (before ++ y :: after) shape? (some y) :=
    longestBeginning_of_stuck hs hstuck'
  have hi' : Itemized 0 (String.ofList (front ++ c :: tail)).toList (before ++ y :: after) := by
    rw [String.toList_ofList]
    exact hcut.replace tail _ hi
  have hparse := (parseSubexpression_eq_judge hi' hl).trans (judge_eq_error_iff.mpr (hrejects _ y))
  obtain ⟨detail, hy'⟩ := y.rejection_eq (String.ofList (front ++ c :: tail))
  rw [hy'] at hparse
  exact hmember.not_malformed hparse

end

/-- If a subexpression is refused for a fault at a place, this is a place in the text, what comes
before it is the beginning of some text of a shape, whatever its numbers, and with the character at
that place it is not. The fault has no place exactly if the text has nothing but blanks. -/
theorem malformed_column_exact (text told : String) (position : Option Int) (detail : Option String)
    (h : parseSubexpression text = .error (.malformed told position detail)) :
    (∀ p, position = some p → 0 ≤ p ∧ p < text.length ∧
      Viable (text.toList.take p.toNat) ∧ ¬ Viable (text.toList.take (p.toNat + 1))) ∧
    (position = none ↔ Blanks text.toList) := by
  obtain ⟨items, shape?, next?, hi, hl, hj⟩ := parseSubexpression_eq_iff.mp h
  obtain ⟨x, rfl, rfl, hrejects⟩ | ⟨rfl, rfl, rfl⟩ := (judge_eq_error_iff.mp hj).of_malformed
  · obtain ⟨before, after, rfl, hs, hstuck⟩ := hl.exists_stuck
    obtain ⟨front, c, hcut⟩ := hi.exists_cutAt
    obtain ⟨tail, htext⟩ := hcut.eq_append
    have hposition : x.position = front.length := by rw [hcut.position_eq, Nat.zero_add]
    refine ⟨fun p hp => ?_, iff_of_false nofun fun hblanks => ?_⟩
    · cases hp
      have hbefore : text.toList.take front.length = front := by rw [htext, List.take_left]
      have hwith : text.toList.take (front.length + 1) = front ++ [c] := by
        rw [htext, List.take_length_add_append, List.take_succ_cons, List.take_zero]
      rw [Int.toNat_natCast, hposition, hbefore, hwith, ← String.length_toList, htext]
      refine ⟨by omega, by simp, hcut.itemized.viable hs, hcut.not_viable hs hstuck hrejects⟩
    · have hc := hblanks c (by simp [htext])
      rw [hcut.starts.not_blank] at hc
      cases hc
  · refine ⟨nofun, iff_of_true rfl ?_⟩
    rw [longestBeginning_all_iff] at hl
    obtain rfl := List.map_eq_nil_iff.mp hl
    exact hi.blanks

/-- The second literal after the dash is unexpected from its first digit on. -/
theorem malformed_column_exact_second_literal :
    parseSubexpression "1 - 2 34" =
      .error (.malformed "1 - 2 34" (some 6) (some "unexpected '34'")) ∧
    (0 ≤ (6 : Int) ∧ (6 : Int) < "1 - 2 34".length ∧
      Viable ("1 - 2 34".toList.take 6) ∧ ¬ Viable ("1 - 2 34".toList.take 7)) ∧
    ¬ Blanks "1 - 2 34".toList := by
  have h : parseSubexpression "1 - 2 34" =
      .error (.malformed "1 - 2 34" (some 6) (some "unexpected '34'")) := by decide +kernel
  have hcolumn := malformed_column_exact _ _ _ _ h
  exact ⟨h, hcolumn.1 6 rfl, fun hblanks => nomatch hcolumn.2.mpr hblanks⟩

end IntervalExpr
