import IntervalExpr.Proofs.Readable

/-!
# Delimiters that keep subintervals apart

The text of an expression is read as an expression of the same integers if the delimiter is not
found early behind the text of one of its subintervals. Delimiters are neither escaped nor refused
for what they do to texts. So some delimiters fail: those that are found early behind some
subinterval that can be read under them, such as `11` behind `1`, and a single dash, which
normalizing adds to the text.

* `Expression.RoundTrips`: an expression is written, and read as the same integers.
* `Ambiguous`: the delimiter is found early behind some subinterval.
* `Expression.not_roundTrips_of_occurs`, `Expression.exists_not_roundTrips_of_foundEarly`: what an
  ambiguous delimiter does, where the text of the subinterval holds it and where it does not.
* `Expression.roundTrips_iff`: exactly the other delimiters keep all subintervals apart.
-/

namespace IntervalExpr

/-- The delimiter is found early behind the text of some subinterval that can be read under it. -/
def Ambiguous (delimiter : String) : Prop :=
  ∃ s : Subinterval, s.ReadableUnder delimiter ∧
    Text.FoundEarly delimiter.toList s.toString.toList

/-- The expression is written, and its text is read as an expression of the same integers. -/
def Expression.RoundTrips (e : Expression) : Prop :=
  e.write = .ok e.toString ∧ ∃ f, e.reparse = .ok f ∧ ∀ v, f.contains v = e.contains v

variable {delimiter : String} {s : Subinterval}

/-! ## Delimiters that are not ambiguous -/

/-- A delimiter of one character cannot be found early behind a subinterval that is read under
it. -/
theorem not_ambiguous_of_length (h : delimiter.length = 1) : ¬ Ambiguous delimiter := by
  rintro ⟨s, hs, hearly⟩
  obtain ⟨c, hc⟩ := List.length_eq_one_iff.mp (delimiter.length_toList.trans h)
  have hmem : c ∈ s.toString.toList := hearly.mem (hc ▸ List.mem_cons_self)
  rw [Subinterval.toList_toString, List.mem_flatMap] at hmem
  obtain ⟨symbol, hsymbol, hmem⟩ := hmem
  exact hs.lacks symbol hsymbol (hc ▸ (List.singleton_infix_iff c _).mpr hmem)

/-- A delimiter with a character that no subinterval is written with is not ambiguous. -/
theorem not_ambiguous_of_mem {c : Char} (hc : c ∈ delimiter.toList) (hdigit : c.isDigit = false)
    (hdash : c ≠ '-') (hstar : c ≠ '*') : ¬ Ambiguous delimiter := by
  rintro ⟨s, -, hearly⟩
  have hd : Options.Separates ⟨delimiter, false, false⟩ := ⟨c, hc, hdigit, hdash, hstar⟩
  exact hd.not_foundEarly s hearly

/-- A legible expression round-trips if the delimiter is not found early. -/
theorem Expression.Legible.roundTrips {e : Expression} (h : e.Legible)
    (hd : e.options.delimiter ≠ "")
    (hearly : ∀ s ∈ e.subintervals,
      ¬ Text.FoundEarly e.options.delimiter.toList s.toString.toList) : e.RoundTrips := by
  refine ⟨h.write_eq, _, h.reparse_eq_of_not_foundEarly hd hearly, fun v => ?_⟩
  rw [Bool.eq_iff_iff, contains_iff_covers, contains_iff_covers]
  simp only
  split
  · exact Subinterval.covers_merge
  · exact Iff.rfl

/-! ## Values of parts -/

/-- Some of the digits of a number are all of them, or come to less. -/
theorem eq_toDigits_or_lt {digits : List Char} {n : Nat} (hne : digits ≠ [])
    (h : digits <:+: Nat.toDigits 10 n) :
    digits = Nat.toDigits 10 n ∨ Nat.ofDigitChars 10 digits 0 < n := by
  by_cases hlength : digits.length = (Nat.toDigits 10 n).length
  · exact .inl (h.eq_of_length hlength)
  · have hd : IsLiteral digits :=
      ⟨hne, fun c hc => (isLiteral_toDigits n).isDigit c (h.subset hc)⟩
    exact .inr (ofDigitChars_lt_of_length_lt hd (Nat.lt_of_le_of_ne h.length_le hlength))

/-- Digits describe their value only. -/
theorem eq_of_describes_digits {digits : List Char} {v : Int}
    (hd : ∀ c ∈ digits, c.isDigit = true) (h : Describes (String.ofList digits) v) :
    v = (Nat.ofDigitChars 10 digits 0 : Nat) := by
  obtain ⟨shape, hs, hv⟩ := h
  rw [String.toList_ofList, spelling_iff_spelt] at hs
  have heq := hs.eq_flatMap fun c hc => not_blank_of_isDigit (hd c hc)
  cases shape with
  | star => exact absurd (hd '*' (by simp [heq, Shape.symbols, Symbol.lexeme])) (by decide)
  | number literal =>
    obtain rfl : digits = literal := by simpa [Shape.symbols, Symbol.lexeme] using heq
    exact hv
  | opened literal =>
    exact absurd (hd '-' (by simp [heq, Shape.symbols, Symbol.lexeme])) (by decide)
  | range firstDigits lastDigits =>
    exact absurd (hd '-' (by simp [heq, Shape.symbols, Symbol.lexeme])) (by decide)

/-- A text without blanks that has a star in it is of a shape only as the star alone. -/
theorem Spelling.eq_star {written : List Char} {shape : Shape} (h : Spelling written shape)
    (hstar : '*' ∈ written) (hblank : ∀ c ∈ written, isBlank c = false) : written = ['*'] := by
  rw [spelling_iff_spelt] at h
  have heq := h.eq_flatMap hblank
  rw [heq, List.mem_flatMap] at hstar
  obtain ⟨symbol, hsymbol, hstar⟩ := hstar
  cases symbol with
  | star =>
    cases shape with
    | star => exact heq
    | number digits => simp [Shape.symbols] at hsymbol
    | opened digits => simp [Shape.symbols] at hsymbol
    | range firstDigits lastDigits => simp [Shape.symbols] at hsymbol
  | dash => simp [Symbol.lexeme] at hstar
  | integer digits => exact absurd ((h.isLiteral hsymbol).isDigit '*' hstar) (by decide)

/-! ## Delimiters within the text of a subinterval -/

namespace Expression

variable {options : Options}

theorem toString_singleton : (⟨[s], options⟩ : Expression).toString = s.toString := by
  simp [Expression.toString]

/-- If the text of a single subinterval is cut into digits and read as the same integers, then these
are the values of the pieces. -/
theorem RoundTrips.exists_piece {pieces : List (List Char)}
    (h : (⟨[s], options⟩ : Expression).RoundTrips) (hd : options.delimiter ≠ "")
    (hpieces : Text.Decomposition options.delimiter.toList s.toString.toList pieces)
    (hdigits : ∀ piece ∈ pieces, ∀ c ∈ piece, c.isDigit = true) {v : Int} (hv : v ∈ s) :
    ∃ piece ∈ pieces, piece ≠ [] ∧ v = (Nat.ofDigitChars 10 piece 0 : Nat) := by
  obtain ⟨-, f, hf, hsame⟩ := h
  have hcontains : f.contains v = true := by
    rw [hsame, contains_iff_mem, mem_iff_exists]
    exact ⟨s, List.mem_cons_self, hv⟩
  obtain ⟨parts, hparts, part, hpart, hdescribes⟩ := (contains_iff_describes hf).mp hcontains
  rw [toString_singleton] at hparts
  rw [hparts.unique hd ⟨pieces, hpieces, rfl⟩, List.mem_map] at hpart
  obtain ⟨piece, hpiece, rfl⟩ := hpart
  obtain ⟨hpiece, hne⟩ := List.mem_filter.mp hpiece
  exact ⟨piece, hpiece, by simpa using hne,
    eq_of_describes_digits (hdigits piece hpiece) hdescribes⟩

/-- If the delimiter stretches across the dash in the text of a subinterval, it leaves a part of the
digits before the dash and a part of those behind it, and the subinterval can only be read as the
values of these parts. -/
theorem RoundTrips.exists_parts {front back : List Char}
    (h : (⟨[s], options⟩ : Expression).RoundTrips) (hd : options.delimiter ≠ "")
    (htext : s.toString.toList = front ++ '-' :: back)
    (hfront : ∀ c ∈ front, c.isDigit = true) (hback : ∀ c ∈ back, c.isDigit = true)
    (hocc : options.delimiter.toList <:+: s.toString.toList)
    (hocc₁ : ¬ options.delimiter.toList <:+: front) (hocc₂ : ¬ options.delimiter.toList <:+: back) :
    ∃ before start rest after, options.delimiter.toList = start ++ '-' :: rest ∧
      front = before ++ start ∧ back = rest ++ after ∧
      ∀ v ∈ s, before ≠ [] ∧ v = (Nat.ofDigitChars 10 before 0 : Nat) ∨
        after ≠ [] ∧ v = (Nat.ofDigitChars 10 after 0 : Nat) := by
  have hdash : ∀ digits : List Char, (∀ c ∈ digits, c.isDigit = true) → '-' ∉ digits :=
    fun digits hdigits hmem => absurd (hdigits '-' hmem) (by decide)
  obtain ⟨before, start, rest, after, hsplit, rfl, rfl, hpieces⟩ :=
    Text.exists_decomposition_across (hdash front hfront) (hdash back hback) (htext ▸ hocc)
      hocc₁ hocc₂
  refine ⟨before, start, rest, after, hsplit, rfl, rfl, fun v hv => ?_⟩
  have hdigits : ∀ piece ∈ [before, after], ∀ c ∈ piece, c.isDigit = true := by
    refine List.forall_mem_cons.mpr ⟨fun c hc => ?_, List.forall_mem_singleton.mpr fun c hc => ?_⟩
    · exact hfront c (List.mem_append_left start hc)
    · exact hback c (List.mem_append_right rest hc)
  obtain ⟨piece, hpiece, hne, hvalue⟩ := h.exists_piece hd (htext ▸ hpieces) hdigits hv
  rcases List.mem_cons.mp hpiece with rfl | hpiece
  · exact .inl ⟨hne, hvalue⟩
  · obtain rfl := List.mem_singleton.mp hpiece
    exact .inr ⟨hne, hvalue⟩

/-- A number and all above it come to one number at most. -/
theorem not_roundTrips_unbounded {first : Nat} (hd : options.delimiter ≠ "")
    (h : (Subinterval.unbounded first).ReadableUnder options.delimiter)
    (hocc : options.delimiter.toList <:+: (Subinterval.unbounded first).toString.toList) :
    ¬ (⟨[.unbounded first], options⟩ : Expression).RoundTrips := by
  intro hround
  have htext : (Subinterval.unbounded first).toString.toList =
      Nat.toDigits 10 first ++ '-' :: [] := Subinterval.toList_toString _
  obtain ⟨before, start, rest, after, -, hbefore, hafter, hvalues⟩ :=
    hround.exists_parts hd htext (isLiteral_toDigits first).isDigit nofun hocc
      (h.lacks (.integer (Nat.toDigits 10 first)) (by simp [Subinterval.shape, Shape.symbols]))
      (by simpa using toList_ne_nil hd)
  obtain ⟨-, rfl⟩ := List.append_eq_nil_iff.mp hafter.symm
  obtain ⟨hne, hv⟩ | ⟨hne, -⟩ := hvalues (first + 1) (by simp)
  · obtain rfl | hlt := eq_toDigits_or_lt hne (List.IsPrefix.isInfix ⟨start, hbefore.symm⟩)
    · rw [Nat.ofDigitChars_ten_toDigits] at hv
      omega
    · omega
  · exact hne rfl

/-- The numbers between two numbers come to two numbers at most, and one of the bounds is not among
them. -/
theorem not_roundTrips_bounded {first last : Nat} (hlt : first < last)
    (hd : options.delimiter ≠ "")
    (h : (Subinterval.bounded first last (Nat.le_of_lt hlt)).ReadableUnder options.delimiter)
    (hocc : options.delimiter.toList <:+:
      (Subinterval.bounded first last (Nat.le_of_lt hlt)).toString.toList) :
    ¬ (⟨[.bounded first last (Nat.le_of_lt hlt)], options⟩ : Expression).RoundTrips := by
  intro hround
  have hne : first ≠ last := Nat.ne_of_lt hlt
  have hlacks := h.lacks
  simp only [Subinterval.shape, if_neg hne, Shape.symbols, List.forall_mem_cons] at hlacks
  obtain ⟨hfirst, hdash, hlast, -⟩ := hlacks
  have htext : (Subinterval.bounded first last (Nat.le_of_lt hlt)).toString.toList =
      Nat.toDigits 10 first ++ '-' :: Nat.toDigits 10 last := by
    simp [Subinterval.toString, hne]
  obtain ⟨before, start, rest, after, hsplit, hbefore, hafter, hvalues⟩ :=
    hround.exists_parts hd htext (isLiteral_toDigits first).isDigit
      (isLiteral_toDigits last).isDigit hocc hfirst hlast
  by_cases hrest : rest = []
  · subst hrest
    -- The delimiter is more than the dash, so it takes digits of the first bound.
    have hstart : start ≠ [] := by
      rintro rfl
      exact hdash ⟨[], [], by simp [hsplit, Symbol.lexeme]⟩
    obtain ⟨hne', hv⟩ | ⟨-, hv⟩ := hvalues first (by simp; omega)
    · obtain rfl | hlt' := eq_toDigits_or_lt hne' (List.IsPrefix.isInfix ⟨start, hbefore.symm⟩)
      · exact hstart (List.append_right_eq_self.mp hbefore.symm)
      · omega
    · rw [← List.nil_append after, ← hafter, Nat.ofDigitChars_ten_toDigits] at hv
      omega
  · obtain ⟨hne', hv⟩ | ⟨hne', hv⟩ := hvalues last (by simp; omega)
    · obtain rfl | hlt' := eq_toDigits_or_lt hne' (List.IsPrefix.isInfix ⟨start, hbefore.symm⟩)
      · rw [Nat.ofDigitChars_ten_toDigits] at hv
        omega
      · omega
    · obtain rfl | hlt' := eq_toDigits_or_lt hne' (List.IsSuffix.isInfix ⟨rest, hafter.symm⟩)
      · exact hrest (List.append_left_eq_self.mp hafter.symm)
      · omega

/-- Where the text of a readable subinterval holds the delimiter, it is not read as the same
integers. -/
theorem not_roundTrips_of_occurs (hd : options.delimiter ≠ "")
    (h : s.ReadableUnder options.delimiter)
    (hocc : options.delimiter.toList <:+: s.toString.toList) :
    ¬ (⟨[s], options⟩ : Expression).RoundTrips := by
  have hone : ∀ symbol, s.shape.symbols ≠ [symbol] := fun symbol heq => by
    rw [Subinterval.toList_toString, heq, List.flatMap_singleton] at hocc
    exact h.lacks symbol (heq ▸ List.mem_cons_self) hocc
  cases s with
  | bounded first last ordered =>
    by_cases heq : first = last
    · exact absurd (by rw [Subinterval.shape, if_pos heq]; rfl) (hone _)
    · exact not_roundTrips_bounded (Nat.lt_of_le_of_ne ordered heq) hd h hocc
  | unbounded first => exact not_roundTrips_unbounded hd h hocc
  | wildcard => exact absurd rfl (hone _)

/-! ## Delimiters found across a seam -/

/-- If an expression is read, then so is each of its subexpressions. -/
theorem exists_subinterval_of_parse {text : String} {e : Expression} {parts : List String}
    {part : String} (h : parse text options = .ok e)
    (hparts : Subexpressions options.delimiter text parts) (hpart : part ∈ parts) :
    ∃ s, parseSubexpression part = .ok s := by
  cases comesTo_of_parse_eq h with
  | @expression parts' subintervals hd hparts' hmap hempty =>
    rw [hparts.unique hd hparts'] at hpart
    obtain ⟨s, -, hs⟩ := exists_result_of_mem hmap hpart
    exact ⟨s, hs⟩

/-- If the delimiter is found early but does not stand in the first of two subintervals, then a part
of it goes to the second one. With a star in it, that cannot be read. -/
theorem not_roundTrips_of_star {t : Subinterval} {c : Char} (hd : options.delimiter ≠ "")
    (hearly : Text.FoundEarly options.delimiter.toList s.toString.toList)
    (hocc : ¬ options.delimiter.toList <:+: s.toString.toList) (ht : t.toString.toList = [c])
    (hc : c ∉ options.delimiter.toList)
    (hstar : ∀ rest, rest ≠ [] → rest <:+ options.delimiter.toList → '*' ∈ rest ++ [c]) :
    ¬ (⟨[s, t], options⟩ : Expression).RoundTrips := by
  rintro ⟨-, f, hf, -⟩
  obtain ⟨before, rest, hne, hsuffix, hpieces⟩ :=
    Text.exists_decomposition_of_foundEarly (toList_ne_nil hd) hearly hocc hc
  have htext : (⟨[s, t], options⟩ : Expression).toString.toList =
      s.toString.toList ++ options.delimiter.toList ++ [c] := by
    simp [Expression.toString, ht]
  have hpart : String.ofList (rest ++ [c]) ∈
      ([before, rest ++ [c]].filter (· ≠ [])).map String.ofList := List.mem_map_of_mem (by simp)
  obtain ⟨u, hu⟩ := exists_subinterval_of_parse hf ⟨_, htext ▸ hpieces, rfl⟩ hpart
  obtain ⟨shape, hs, -⟩ := exists_means_of_parseSubexpression hu
  rw [String.toList_ofList] at hs
  have heq := hs.eq_star (hstar rest hne hsuffix) fun d hdmem => by
    rcases List.mem_append.mp hdmem with hmem | hmem
    · exact Subinterval.not_blank_of_mem_toString (hearly.mem (hsuffix.subset hmem))
    · exact Subinterval.not_blank_of_mem_toString (ht ▸ hmem)
  have hlength := congrArg List.length heq
  simp only [List.length_append, List.length_singleton, Nat.add_eq_right] at hlength
  exact hne (List.length_eq_zero_iff.mp hlength)

/-- If the delimiter is found early behind a subinterval that does not hold it, then some other one
cannot follow: the star, or where the delimiter consists of stars, the number one. -/
theorem exists_not_roundTrips_of_foundEarly (hd : options.delimiter ≠ "")
    (hearly : Text.FoundEarly options.delimiter.toList s.toString.toList)
    (hocc : ¬ options.delimiter.toList <:+: s.toString.toList) :
    ∃ t : Subinterval, t.ReadableUnder options.delimiter ∧
      ¬ (⟨[s, t], options⟩ : Expression).RoundTrips := by
  by_cases hstar : '*' ∈ options.delimiter.toList
  · have htext : s.toString.toList = ['*'] :=
      s.spelling_toString.eq_star (hearly.mem hstar) fun _ => Subinterval.not_blank_of_mem_toString
    have hstars : ∀ c ∈ options.delimiter.toList, c = '*' := fun c hc =>
      List.mem_singleton.mp (htext ▸ hearly.mem hc)
    have hone : '1' ∉ options.delimiter.toList := fun hc => absurd (hstars '1' hc) (by decide)
    have hrange : (Subinterval.single 1).InRange := ⟨by decide, fun _ hl => by cases hl; decide⟩
    have ht : (Subinterval.single 1).toString.toList = ['1'] := rfl
    refine ⟨.single 1, readableUnder_of_not_mem hd hrange (by simpa [ht] using hone),
      not_roundTrips_of_star hd hearly hocc ht hone fun rest hne hsuffix => ?_⟩
    obtain ⟨c, more, rfl⟩ := List.exists_cons_of_ne_nil hne
    obtain rfl := hstars c (hsuffix.subset List.mem_cons_self)
    exact List.mem_cons_self
  · have ht : Subinterval.wildcard.toString.toList = ['*'] := rfl
    have hrange : Subinterval.wildcard.InRange := ⟨Nat.zero_le _, nofun⟩
    exact ⟨.wildcard, readableUnder_of_not_mem hd hrange (by simpa [ht] using hstar),
      not_roundTrips_of_star hd hearly hocc ht hstar (by simp)⟩

/-- Under an ambiguous delimiter, some text is read as an expression that does not round-trip. -/
theorem exists_not_roundTrips_of_ambiguous (hd : delimiter ≠ "") (h : Ambiguous delimiter) :
    ∃ text e, parse text ⟨delimiter, false, false⟩ = .ok e ∧ ¬ e.RoundTrips := by
  obtain ⟨s, hs, hearly⟩ := h
  have hblank : ' ' ∉ delimiter.toList := fun hmem =>
    absurd (Subinterval.not_blank_of_mem_toString (hearly.mem hmem)) (by decide)
  by_cases hocc : delimiter.toList <:+: s.toString.toList
  · obtain ⟨text, htext⟩ := @exists_text _ [s] hd hblank (by simp) (by simpa using hs) false
    exact ⟨text, _, htext, not_roundTrips_of_occurs hd hs hocc⟩
  · obtain ⟨t, ht, hround⟩ :=
      @exists_not_roundTrips_of_foundEarly s ⟨delimiter, false, false⟩ hd hearly hocc
    obtain ⟨text, htext⟩ :=
      @exists_text _ [s, t] hd hblank (by simp) (by simpa using ⟨hs, ht⟩) false
    exact ⟨text, _, htext, hround⟩

/-! ## Exactly the delimiters that are not ambiguous -/

/-- Normalizing joins numbers in a row into a range, whose text has a dash. Read under a dash, only
the bounds of the range are left. -/
theorem exists_not_roundTrips_dash : ∃ e, parse "1-2-3" ⟨"-", false, false⟩ = .ok e ∧
    e.normalize = .ok ⟨[.bounded 1 3 (by decide)], ⟨"-", false, false⟩⟩ ∧
    reparse ⟨[.bounded 1 3 (by decide)], ⟨"-", false, false⟩⟩ =
      .ok ⟨[.single 1, .single 3], ⟨"-", false, false⟩⟩ ∧
    ¬ ∃ n, e.normalize = .ok n ∧ n.RoundTrips := by
  have hnormalize : normalize ⟨[.single 1, .single 2, .single 3], ⟨"-", false, false⟩⟩ =
      .ok ⟨[.bounded 1 3 (by decide)], ⟨"-", false, false⟩⟩ := by cbv
  have hreparse : reparse ⟨[.bounded 1 3 (by decide)], ⟨"-", false, false⟩⟩ =
      .ok ⟨[.single 1, .single 3], ⟨"-", false, false⟩⟩ := by cbv
  refine ⟨⟨[.single 1, .single 2, .single 3], ⟨"-", false, false⟩⟩, by cbv, hnormalize, hreparse,
    ?_⟩
  rintro ⟨n, hn, -, f, hf, hsame⟩
  rw [hnormalize] at hn
  cases hn
  rw [hreparse] at hf
  cases hf
  exact absurd (hsame 2) (by decide)

theorem options_of_parse {text : String} {e : Expression} (h : parse text options = .ok e) :
    e.options = options := by
  cases comesTo_of_parse_eq h
  rfl

/-- An expression that is read round-trips if the delimiter is not ambiguous. Normalizing on reading
adds dashes, so that then the delimiter must not be one. -/
theorem roundTrips_of_parse {text : String} {e : Expression} (hd : options.delimiter ≠ "")
    (hamb : ¬ Ambiguous options.delimiter)
    (hdash : options.normalize = false ∨ options.delimiter ≠ "-")
    (h : parse text options = .ok e) : e.RoundTrips := by
  obtain rfl := options_of_parse h
  refine (legible_of_parse h).roundTrips hd fun s hs hearly => hamb ⟨s, ?_, hearly⟩
  exact readableUnder_of_parse h hdash s hs

theorem roundTrips_merged_of_parse {text : String} {e : Expression}
    (hd : options.delimiter ≠ "") (hamb : ¬ Ambiguous options.delimiter)
    (hdash : options.delimiter ≠ "-") (h : parse text options = .ok e) :
    e.merged.RoundTrips := by
  obtain rfl := options_of_parse h
  refine (legible_of_parse h).merged.roundTrips hd fun s hs hearly => hamb ⟨s, ?_, hearly⟩
  exact readableUnder_merge hd hdash (readableUnder_of_parse h (.inr hdash)) s hs

/-- Every expression that is read and not normalized round-trips exactly if the delimiter is not
ambiguous. Every expression that is read, normalized or not, and its normal form do exactly if the
delimiter is no dash either. A delimiter of one character is not ambiguous, nor is one with a
character that no subinterval is written with. Under any delimiter, ambiguous or not, an expression
that is read has a normal form, and either of the two round-trips if the delimiter is not found
early behind one of its own subintervals. -/
theorem roundTrips_iff (delimiter : String) (hd : delimiter ≠ "") :
    ((∀ text allowEmpty e, parse text ⟨delimiter, allowEmpty, false⟩ = .ok e → e.RoundTrips) ↔
      ¬ Ambiguous delimiter) ∧
    ((∀ text allowEmpty normalize e, parse text ⟨delimiter, allowEmpty, normalize⟩ = .ok e →
        e.RoundTrips ∧ ∃ n, e.normalize = .ok n ∧ n.RoundTrips) ↔
      ¬ Ambiguous delimiter ∧ delimiter ≠ "-") ∧
    (delimiter.length = 1 ∨
        (∃ c ∈ delimiter.toList, c.isDigit = false ∧ c ≠ '-' ∧ c ≠ '*') →
      ¬ Ambiguous delimiter) ∧
    (∀ text allowEmpty normalize e, parse text ⟨delimiter, allowEmpty, normalize⟩ = .ok e →
      ∃ n, e.normalize = .ok n ∧ ∀ f, f = e ∨ f = n →
        (∀ s ∈ f.subintervals, ¬ Text.FoundEarly delimiter.toList s.toString.toList) →
        f.RoundTrips) := by
  refine ⟨⟨fun h hamb => ?_, fun hamb text allowEmpty e hp => ?_⟩,
    ⟨fun h => ⟨fun hamb => ?_, ?_⟩, fun ⟨hamb, hdash⟩ text allowEmpty normalize e hp => ?_⟩, ?_,
    fun text allowEmpty normalize e hp => ?_⟩
  · obtain ⟨text, e, hp, hround⟩ := exists_not_roundTrips_of_ambiguous hd hamb
    exact hround (h text false e hp)
  · exact roundTrips_of_parse hd hamb (.inl rfl) hp
  · obtain ⟨text, e, hp, hround⟩ := exists_not_roundTrips_of_ambiguous hd hamb
    exact hround (h text false false e hp).1
  · rintro rfl
    obtain ⟨e, hp, -, -, hround⟩ := exists_not_roundTrips_dash
    exact hround (h _ false false e hp).2
  · exact ⟨roundTrips_of_parse hd hamb (.inr hdash) hp, e.merged,
      (legible_of_parse hp).normalize_eq, roundTrips_merged_of_parse hd hamb hdash hp⟩
  · rintro (hlength | ⟨c, hc, hdigit, hdash, hstar⟩)
    · exact not_ambiguous_of_length hlength
    · exact not_ambiguous_of_mem hc hdigit hdash hstar
  · have hlegible := legible_of_parse hp
    have hoptions := options_of_parse hp
    refine ⟨e.merged, hlegible.normalize_eq, fun f hf hearly => ?_⟩
    obtain rfl | rfl := hf
    · exact hlegible.roundTrips (by rwa [hoptions]) (by rwa [hoptions])
    · exact hlegible.merged.roundTrips (by rwa [merged, hoptions]) (by rwa [merged, hoptions])

/-- A digit may be the delimiter: the text here stands for `1-2`, `4` and `5`, and is written as
`1-204-5` when it is normalized. -/
theorem roundTrips_iff_zero_delimiter :
    "0" ≠ "" ∧ ¬ Ambiguous "0" ∧
    parse "1-20405" ⟨"0", false, false⟩ =
      .ok ⟨[.bounded 1 2 (by decide), .single 4, .single 5], ⟨"0", false, false⟩⟩ ∧
    RoundTrips ⟨[.bounded 1 2 (by decide), .single 4, .single 5], ⟨"0", false, false⟩⟩ ∧
    ∃ n, normalize ⟨[.bounded 1 2 (by decide), .single 4, .single 5], ⟨"0", false, false⟩⟩ =
      .ok n ∧ n.RoundTrips := by
  have h := roundTrips_iff "0" (by decide)
  have hamb := h.2.2.1 (.inl rfl)
  have hread : parse "1-20405" ⟨"0", false, false⟩ =
      .ok ⟨[.bounded 1 2 (by decide), .single 4, .single 5], ⟨"0", false, false⟩⟩ := by cbv
  exact ⟨by decide, hamb, hread, h.2.1.mpr ⟨hamb, by decide⟩ _ _ _ _ hread⟩

/-- Not every delimiter that is accepted keeps the integers of an expression: a dash leaves 1 and 3
of the numbers from 1 to 3 once they are normalized, and `11` makes 12 of the numbers 1 and 2 even
where nothing is normalized. -/
theorem not_forall_roundTrips :
    (∃ e, parse "1-2-3" ⟨"-", false, false⟩ = .ok e ∧
      e.normalize = .ok ⟨[.bounded 1 3 (by decide)], ⟨"-", false, false⟩⟩ ∧
      reparse ⟨[.bounded 1 3 (by decide)], ⟨"-", false, false⟩⟩ =
        .ok ⟨[.single 1, .single 3], ⟨"-", false, false⟩⟩) ∧
    parse "1 112" ⟨"11", false, false⟩ = .ok ⟨[.single 1, .single 2], ⟨"11", false, false⟩⟩ ∧
    reparse ⟨[.single 1, .single 2], ⟨"11", false, false⟩⟩ =
      .ok ⟨[.single 12], ⟨"11", false, false⟩⟩ ∧
    ¬ ∀ text options e, options.delimiter ≠ "" → parse text options = .ok e →
      e.RoundTrips ∧ ∃ n, e.normalize = .ok n ∧ n.RoundTrips := by
  obtain ⟨e, hread, hnormalize, hreparse, hround⟩ := exists_not_roundTrips_dash
  refine ⟨⟨e, hread, hnormalize, hreparse⟩, by cbv, by cbv, fun h => ?_⟩
  exact hround (h _ _ e (by decide) hread).2

end Expression

end IntervalExpr
