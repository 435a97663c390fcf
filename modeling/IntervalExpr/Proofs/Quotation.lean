import Mathlib.Algebra.Group.Nat.Defs
import IntervalExpr.Text.Quoted

/-!
# Reading quoted text back

An escaped character tells where it ends and which character it stands for, and does not begin with
the mark. So the mark that closes a quoted text is found from the front. It is found from the back
as well: within the quoted text a backslash stands directly before each mark, so that no blank does.

* `Escapes`, `escapes_escape`: what may be written for a character, and that this is written.
* `readEscaped`, `Escapes.readEscaped_append`: it is read back, whatever follows.
* `quoted_append_inj`: a quoted text and what follows it are told from the two in a row.
* `blank_quoted_inj`: so are a quoted text and what precedes it, if a blank stands between them.
* `not_isControl_of_isPrintable`, `printable_quoted`: a quoted text is printable, which leaves no
  control character in it.
-/

namespace IntervalExpr.Text

/-! ## Hexadecimal digits -/

/-- The value of a lower-case hexadecimal digit. -/
def hexValue (c : Char) : Nat :=
  if c.isDigit then c.toNat - '0'.toNat else c.toNat - 'a'.toNat + 10

/-- The value of hexadecimal digits. -/
def ofHexDigits (digits : List Char) : Nat :=
  digits.foldl (fun n c => 16 * n + hexValue c) 0

theorem hexValue_digitChar : ∀ d, d < 16 → hexValue (Nat.digitChar d) = d := by decide

theorem isPrintable_digitChar : ∀ d, d < 16 → isPrintable (Nat.digitChar d) = true := by decide

theorem ofHexDigits_hexDigits (width n : Nat) :
    ofHexDigits (hexDigits width n) = n % 16 ^ width := by
  induction width generalizing n with
  | zero => rw [Nat.pow_zero, Nat.mod_one]; rfl
  | succ width ih =>
    have hconcat : ∀ digits c, ofHexDigits (digits ++ [c]) = 16 * ofHexDigits digits + hexValue c :=
      fun digits c => by simp [ofHexDigits]
    rw [hexDigits, hconcat, ih, hexValue_digitChar _ (Nat.mod_lt n (by decide)), Nat.pow_succ',
      Nat.mod_mul]
    omega

theorem exists_digitChar_of_mem_hexDigits {width n : Nat} {c : Char} (h : c ∈ hexDigits width n) :
    ∃ d, d < 16 ∧ c = Nat.digitChar d := by
  induction width generalizing n with
  | zero => exact nomatch h
  | succ width ih =>
    rcases List.mem_append.mp h with h | h
    · exact ih h
    · exact ⟨n % 16, Nat.mod_lt n (by decide), List.mem_singleton.mp h⟩

/-! ## Escaped characters -/

/-- A character that may enclose a text. -/
def IsMark (mark : Char) : Prop := mark = apostrophe ∨ mark = quotationMark

theorem isMark_quoteMark (text : List Char) : IsMark (quoteMark text) := by
  unfold quoteMark
  split
  · exact .inr rfl
  · exact .inl rfl

/-- How many digits follow a letter behind a backslash. -/
def escapeWidth (letter : Char) : Nat :=
  if letter = 'x' then 2 else if letter = 'u' then 4 else if letter = 'U' then 8 else 0

/-- The character that a letter behind a backslash stands for, with its digits. -/
def escapedChar (letter : Char) (digits : List Char) : Char :=
  if escapeWidth letter ≠ 0 then Char.ofNat (ofHexDigits digits)
  else if letter = 't' then '\t' else if letter = 'n' then '\n' else if letter = 'r' then '\r'
  else letter

/-- The first character of an escaped text, and what follows it. -/
def readEscaped : List Char → Option (Char × List Char)
  | [] => none
  | c :: rest =>
    if c = backslash then
      match rest with
      | [] => none
      | letter :: rest =>
        some (escapedChar letter (rest.take (escapeWidth letter)), rest.drop (escapeWidth letter))
    else some (c, rest)

/-- What may be written for a character: the character itself, or a backslash and a letter with
hexadecimal digits that stand for it. -/
inductive Escapes (mark c : Char) : List Char → Prop
  | verbatim : c ≠ mark → c ≠ backslash → isPrintable c = true → Escapes mark c [c]
  | letter {l} : isPrintable l = true → escapedChar l (hexDigits (escapeWidth l) c.toNat) = c →
      Escapes mark c (backslash :: l :: hexDigits (escapeWidth l) c.toNat)

section Escape

variable {mark c : Char} {written rest front back : List Char}

/-- Hexadecimal digits stand for a character if there are enough of them. -/
theorem escapedChar_hexDigits {l : Char} (hl : escapeWidth l ≠ 0)
    (hc : c.toNat < 16 ^ escapeWidth l) :
    escapedChar l (hexDigits (escapeWidth l) c.toNat) = c := by
  rw [escapedChar, if_pos hl, ofHexDigits_hexDigits, Nat.mod_eq_of_lt hc, Char.ofNat_toNat]

theorem escapes_numericEscape (mark c : Char) : Escapes mark c (numericEscape c) := by
  unfold numericEscape
  split
  · rename_i hlt
    exact .letter (l := 'x') rfl (escapedChar_hexDigits (by decide) hlt)
  · split
    · rename_i hlt
      exact .letter (l := 'u') rfl (escapedChar_hexDigits (by decide) hlt)
    · have hlt : c.toNat < 2 ^ 32 := c.val.toNat_lt
      exact .letter (l := 'U') rfl (escapedChar_hexDigits (by decide) hlt)

theorem escapes_escape (hm : IsMark mark) (c : Char) : Escapes mark c (escape mark c) := by
  unfold escape
  split
  · rename_i h
    have hc : c = apostrophe ∨ c = quotationMark ∨ c = backslash := by
      rcases h with rfl | h
      · exact or_assoc.mp (.inl hm)
      · exact .inr (.inr h)
    rcases hc with rfl | rfl | rfl
    · exact .letter (l := apostrophe) rfl rfl
    · exact .letter (l := quotationMark) rfl rfl
    · exact .letter (l := backslash) rfl rfl
  · rename_i h
    rw [not_or] at h
    split
    · rename_i heq
      exact .letter (l := 't') rfl heq.symm
    · split
      · rename_i heq
        exact .letter (l := 'n') rfl heq.symm
      · split
        · rename_i heq
          exact .letter (l := 'r') rfl heq.symm
        · split
          · rename_i hprint
            exact .verbatim h.1 h.2 hprint
          · exact escapes_numericEscape mark c

/-- What is written for a character is read back as the character, whatever follows. -/
theorem Escapes.readEscaped_append (h : Escapes mark c written) (rest : List Char) :
    readEscaped (written ++ rest) = some (c, rest) := by
  cases h with
  | verbatim hmark hslash hprint =>
    show (if c = backslash then _ else some (c, rest)) = _
    rw [if_neg hslash]
  | @letter l hprint hchar =>
    show some (escapedChar l ((hexDigits (escapeWidth l) c.toNat ++ rest).take (escapeWidth l)),
      (hexDigits (escapeWidth l) c.toNat ++ rest).drop (escapeWidth l)) = _
    have hlength := length_hexDigits (escapeWidth l) c.toNat
    rw [List.take_left' hlength, List.drop_left' hlength, hchar]

theorem IsMark.ne_backslash (hm : IsMark mark) : mark ≠ backslash := by
  rcases hm with rfl | rfl <;> decide

theorem IsMark.ne_blank (hm : IsMark mark) : mark ≠ ' ' := by
  rcases hm with rfl | rfl <;> decide

theorem IsMark.isPrintable (hm : IsMark mark) : Text.isPrintable mark = true := by
  rcases hm with rfl | rfl <;> rfl

/-- A mark is no hexadecimal digit. -/
theorem IsMark.not_mem_hexDigits (hm : IsMark mark) {width n : Nat} : mark ∉ hexDigits width n := by
  have hdigits : ∀ d, d < 16 → Nat.digitChar d ≠ apostrophe ∧ Nat.digitChar d ≠ quotationMark := by
    decide
  intro hmem
  obtain ⟨d, hd, rfl⟩ := exists_digitChar_of_mem_hexDigits hmem
  rcases hm with hm | hm
  · exact (hdigits d hd).1 hm
  · exact (hdigits d hd).2 hm

/-- What is written for a character does not begin with the mark. -/
theorem Escapes.append_ne_mark_cons (hm : IsMark mark) (h : Escapes mark c written) :
    written ++ rest ≠ mark :: back := by
  intro heq
  cases h with
  | verbatim hmark hslash hprint => exact hmark (List.cons.inj heq).1
  | letter hprint hchar => exact hm.ne_backslash (List.cons.inj heq).1.symm

/-- Within what is written for a character, a mark has a backslash directly before it. -/
theorem Escapes.backslash_before_mark (hm : IsMark mark) (h : Escapes mark c written)
    (heq : written = front ++ mark :: back) : ∃ before, front = before ++ [backslash] := by
  cases h with
  | verbatim hmark hslash hprint =>
    cases front with
    | nil => exact absurd (List.cons.inj heq).1 hmark
    | cons x front => cases front <;> cases (List.cons.inj heq).2
  | @letter l hprint hchar =>
    match front, heq with
    | [], heq => exact absurd (List.cons.inj heq).1.symm hm.ne_backslash
    | [x], heq => exact ⟨[], by rw [(List.cons.inj heq).1]; rfl⟩
    | x :: y :: front, heq =>
      have hdigits : hexDigits (escapeWidth l) c.toNat = front ++ mark :: back :=
        (List.cons.inj (List.cons.inj heq).2).2
      have hmem : mark ∈ hexDigits (escapeWidth l) c.toNat := by
        rw [hdigits]
        exact List.mem_append_right front List.mem_cons_self
      exact absurd hmem hm.not_mem_hexDigits

end Escape

/-! ## Escaped texts -/

section EscapeAll

variable {mark : Char} {text other rest rest' front back : List Char}

theorem escapeAll_cons (mark c : Char) (text : List Char) :
    escapeAll mark (c :: text) = escape mark c ++ escapeAll mark text := List.flatMap_cons

/-- An escaped text ends at the first mark. -/
theorem escapeAll_append_inj (hm : IsMark mark)
    (h : escapeAll mark text ++ mark :: rest = escapeAll mark other ++ mark :: rest') :
    text = other ∧ rest = rest' := by
  induction text generalizing other with
  | nil =>
    cases other with
    | nil => exact ⟨rfl, (List.cons.inj h).2⟩
    | cons d other =>
      rw [escapeAll_cons, List.append_assoc] at h
      exact absurd h.symm ((escapes_escape hm d).append_ne_mark_cons hm)
  | cons c text ih =>
    rw [escapeAll_cons, List.append_assoc] at h
    cases other with
    | nil => exact absurd h ((escapes_escape hm c).append_ne_mark_cons hm)
    | cons d other =>
      rw [escapeAll_cons, List.append_assoc] at h
      have hread := congrArg readEscaped h
      rw [(escapes_escape hm c).readEscaped_append,
        (escapes_escape hm d).readEscaped_append] at hread
      obtain ⟨rfl, htail⟩ := Prod.mk.inj (Option.some.inj hread)
      obtain ⟨rfl, hrest⟩ := ih htail
      exact ⟨rfl, hrest⟩

/-- Within an escaped text, a mark has a backslash directly before it. -/
theorem backslash_before_mark (hm : IsMark mark)
    (h : escapeAll mark text = front ++ mark :: back) :
    ∃ before, front = before ++ [backslash] := by
  induction text generalizing front with
  | nil => exact absurd h.symm (List.append_ne_nil_of_right_ne_nil front (by simp))
  | cons c text ih =>
    rw [escapeAll_cons] at h
    rcases List.append_eq_append_iff.mp h with ⟨more, rfl, hmore⟩ | ⟨more, hc, hmore⟩
    · -- The mark stands behind the first character.
      obtain ⟨before, rfl⟩ := ih hmore
      exact ⟨escape mark c ++ before, (List.append_assoc ..).symm⟩
    · cases more with
      | nil =>
        obtain ⟨before, hbefore⟩ := @ih [] hmore.symm
        exact absurd hbefore.symm (List.append_ne_nil_of_right_ne_nil before (by simp))
      | cons x more =>
        obtain rfl := (List.cons.inj hmore).1
        exact (escapes_escape hm c).backslash_before_mark hm hc

end EscapeAll

/-! ## Quoted texts -/

section Quoted

variable {text other front rest rest' : List Char}

theorem quoted_append (text rest : List Char) : quoted text ++ rest =
    quoteMark text :: (escapeAll (quoteMark text) text ++ quoteMark text :: rest) := by
  simp [quoted]

/-- A quoted text tells where it ends. -/
theorem quoted_append_inj (h : quoted text ++ rest = quoted other ++ rest') :
    text = other ∧ rest = rest' := by
  rw [quoted_append, quoted_append] at h
  obtain ⟨hmark, htail⟩ := List.cons.inj h
  rw [← hmark] at htail
  exact escapeAll_append_inj (isMark_quoteMark text) htail

theorem quoted_inj (h : quoted text = quoted other) : text = other := by
  have happend : quoted text ++ [] = quoted other ++ [] := by rw [h]
  exact (quoted_append_inj happend).1

theorem quote_inj {s t : String} : quote s = quote t ↔ s = t := by
  rw [← String.toList_inj, toList_quote, toList_quote]
  exact ⟨fun h => String.toList_inj.mp (quoted_inj h), fun h => by rw [h]⟩

/-- A quoted text does not end with a blank and a quoted text: the mark behind the blank would
be the mark of both, and have a backslash before it. -/
theorem quoted_ne_append_blank_quoted : quoted text ≠ front ++ ' ' :: quoted other := by
  intro h
  have hlast : quoteMark text :: escapeAll (quoteMark text) text ++ [quoteMark text] =
      (front ++ ' ' :: quoteMark other :: escapeAll (quoteMark other) other) ++
        [quoteMark other] := by
    simpa [quoted] using h
  obtain ⟨hinner, hmark⟩ := List.append_inj' hlast rfl
  have hm := isMark_quoteMark text
  rw [← List.head_eq_of_cons_eq hmark] at hinner
  cases front with
  | nil => exact hm.ne_blank (List.cons.inj hinner).1
  | cons x front =>
    have hinside : escapeAll (quoteMark text) text =
        (front ++ [' ']) ++ quoteMark text :: escapeAll (quoteMark text) other := by
      rw [List.append_assoc]
      exact (List.cons.inj hinner).2
    obtain ⟨before, hbefore⟩ := backslash_before_mark hm hinside
    exact absurd (List.append_inj' hbefore rfl).2 (by decide)

/-- A quoted text behind a blank tells where it starts, if nothing follows. -/
theorem blank_quoted_inj (h : front ++ ' ' :: quoted text = rest ++ ' ' :: quoted other) :
    front = rest ∧ text = other := by
  rcases List.append_eq_append_iff.mp h with ⟨more, rfl, hmore⟩ | ⟨more, rfl, hmore⟩
  · cases more with
    | nil => exact ⟨(List.append_nil front).symm, quoted_inj (List.cons.inj hmore).2⟩
    | cons x more => exact absurd (List.cons.inj hmore).2 quoted_ne_append_blank_quoted
  · cases more with
    | nil => exact ⟨List.append_nil rest, (quoted_inj (List.cons.inj hmore).2).symm⟩
    | cons x more => exact absurd (List.cons.inj hmore).2 quoted_ne_append_blank_quoted

end Quoted

/-! ## Printable texts -/

/-- A control character, by its code point. -/
def IsControl (c : Char) : Prop := c.toNat < 0x20 ∨ (0x7f ≤ c.toNat ∧ c.toNat < 0xa0)

theorem not_isControl_of_isPrintable {c : Char} (h : isPrintable c = true) : ¬ IsControl c := by
  intro hc
  unfold IsControl at hc
  unfold isPrintable at h
  split at h
  · simp only [Bool.and_eq_true, decide_eq_true_eq] at h
    omega
  · have hmem : (0x80, 0xa0) ∈ unprintableRanges := by decide +kernel
    have hfound : isUnprintableBeyondAscii c.toNat = true := by
      apply List.any_eq_true.mpr
      refine ⟨_, hmem, ?_⟩
      simp only [Bool.and_eq_true, decide_eq_true_eq]
      omega
    rw [hfound] at h
    cases h

/-- Every character of the text may stand as it is in a message meant for people. -/
def Printable (text : List Char) : Prop := ∀ c ∈ text, isPrintable c = true

instance (text : List Char) : Decidable (Printable text) :=
  decidable_of_decidable_of_iff (p := text.all isPrintable = true) List.all_eq_true

@[simp] theorem printable_nil : Printable [] := List.forall_mem_nil _

@[simp] theorem printable_cons {c : Char} {text : List Char} :
    Printable (c :: text) ↔ isPrintable c = true ∧ Printable text := List.forall_mem_cons

@[simp] theorem printable_append {text more : List Char} :
    Printable (text ++ more) ↔ Printable text ∧ Printable more := List.forall_mem_append

theorem printable_hexDigits (width n : Nat) : Printable (hexDigits width n) := by
  intro c hc
  obtain ⟨d, hd, rfl⟩ := exists_digitChar_of_mem_hexDigits hc
  exact isPrintable_digitChar d hd

theorem Escapes.printable {mark c : Char} {written : List Char} (h : Escapes mark c written) :
    Printable written := by
  cases h with
  | verbatim hmark hslash hprint => exact List.forall_mem_singleton.mpr hprint
  | letter hprint hchar =>
    exact printable_cons.mpr ⟨rfl, printable_cons.mpr ⟨hprint, printable_hexDigits _ _⟩⟩

/-- A quoted text is printable, whatever the text. -/
@[simp] theorem printable_quoted (text : List Char) : Printable (quoted text) := by
  have hm := isMark_quoteMark text
  have hinner : Printable (escapeAll (quoteMark text) text) := by
    intro d hd
    obtain ⟨c, -, hc⟩ := List.mem_flatMap.mp hd
    exact (escapes_escape hm c).printable d hc
  have hmark : Printable [quoteMark text] := List.forall_mem_singleton.mpr hm.isPrintable
  exact printable_cons.mpr ⟨hm.isPrintable, printable_append.mpr ⟨hinner, hmark⟩⟩

end IntervalExpr.Text
