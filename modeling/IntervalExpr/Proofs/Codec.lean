import IntervalExpr.Proofs.Failures
import IntervalExpr.Proofs.Readable

/-!
# Writing and reading a subinterval

A subinterval is written in one way, and read from many texts. Its own text is read as the
subinterval again unless a number in it is above the greatest value. A text that is read is the text
of its subinterval exactly if nothing in it can be left out.

* `toDigits_ofDigitChars`, `eq_zero_of_head?_toDigits`: a literal is the digits of its value exactly
  if there is no zero in front that can be left out.
* `unread_toDigits_iff`, `Subinterval.obstacle?_shape`: the first number of a subinterval that is
  not read.
* `Tight`: a text of a shape in which nothing can be left out.
* `Subinterval.tight_toString`, `Tight.toString_eq`: these are the texts of subintervals.
* `Subinterval.text_codec`: what is read of a text that was written, and what is written of a text
  that was read.
-/

namespace IntervalExpr

/-! ## Literals -/

/-- A literal that starts with no zero is at least ten to the power of the number of digits after
the first one. -/
theorem pow_le_ofDigitChars_cons {c : Char} (hdigit : c.isDigit = true) (hc : c ≠ '0')
    (rest : List Char) : 10 ^ rest.length ≤ Nat.ofDigitChars 10 (c :: rest) 0 := by
  obtain ⟨-, hchar⟩ := digitChar_toNat_sub hdigit
  have hpos : 0 < c.toNat - '0'.toNat := by
    refine Nat.pos_of_ne_zero fun hzero => hc ?_
    rw [← hchar, hzero]
    rfl
  rw [Nat.ofDigitChars_cons, Nat.ofDigitChars_eq_ofDigitChars_zero, Nat.mul_zero, Nat.zero_add]
  exact Nat.le_trans (Nat.le_mul_of_pos_right _ hpos) (Nat.le_add_right ..)

/-- A literal without a zero in front that can be left out is the digits of its value. -/
theorem toDigits_ofDigitChars {digits : List Char} (h : IsLiteral digits)
    (hzero : digits.head? = some '0' → digits = ['0']) :
    Nat.toDigits 10 (Nat.ofDigitChars 10 digits 0) = digits := by
  refine (toDigits_suffix h).eq_of_length_le ?_
  cases digits with
  | nil => exact absurd rfl h.ne_nil
  | cons c rest =>
    by_cases hrest : rest = []
    · rw [hrest]
      exact Nat.length_toDigits_pos
    -- Otherwise the first digit is no zero, so that the value needs as many digits.
    have hc : c ≠ '0' := by
      rintro rfl
      exact hrest (List.cons.inj (hzero rfl)).2
    have hvalue := pow_le_ofDigitChars_cons (h.isDigit c List.mem_cons_self) hc rest
    have hlength := List.length_pos_iff.mpr hrest
    rw [← Nat.not_lt, ← Nat.length_toDigits_le_iff (by decide) hlength, Nat.not_le] at hvalue
    exact hvalue

/-- The digits of a number start with a zero only if there is no other digit. -/
theorem eq_zero_of_head?_toDigits {n : Nat} (h : (Nat.toDigits 10 n).head? = some '0') :
    Nat.toDigits 10 n = ['0'] := by
  obtain ⟨rest, heq⟩ := List.head?_eq_some_iff.mp h
  by_cases hrest : rest = []
  · rw [heq, hrest]
  -- Otherwise the digits after the zero have the same value.
  have hvalue : Nat.ofDigitChars 10 rest 0 = n := by
    rw [← @Nat.ofDigitChars_ten_toDigits n, heq, Nat.ofDigitChars_cons]
    rfl
  have hliteral : IsLiteral rest := ⟨hrest, fun c hc =>
    (isLiteral_toDigits n).isDigit c (heq ▸ List.mem_cons_of_mem _ hc)⟩
  have hlength := (toDigits_suffix hliteral).length_le
  rw [hvalue, heq, List.length_cons] at hlength
  omega

/-- The digits of a number are not read exactly if the number is above the greatest value. -/
theorem unread_toDigits_iff {n : Nat} : Unread (Nat.toDigits 10 n) ↔ 2 ^ 63 - 1 < n := by
  rw [Unread, Exceeds, Nat.ofDigitChars_ten_toDigits]
  refine ⟨fun h => h.elim (fun hlength => ?_) id, .inr⟩
  rw [← Nat.not_le]
  intro hle
  have := length_toDigits_le hle
  omega

namespace Subinterval

variable {s : Subinterval} {text : String} {shape : Shape} {n : Int}

/-! ## What was written is read -/

theorem last_mem_bounds {last : Nat} (h : s.last? = some last) : (last : Int) ∈ s.bounds := by
  cases s with
  | bounded first last' ordered =>
    obtain rfl := Option.some.inj h
    simp [bounds]
  | unbounded first => cases h
  | wildcard => cases h

/-- Numbers that are not above the greatest value are in range. -/
theorem inRange_of_bounds_le (h : ∀ n ∈ s.bounds, n ≤ 2 ^ 63 - 1) : s.InRange := by
  have hle : ∀ m : Nat, (m : Int) ∈ s.bounds → m ≤ maxValue := by
    intro m hm
    have := h m hm
    unfold maxValue
    omega
  refine ⟨?_, fun last hlast => hle last (last_mem_bounds hlast)⟩
  cases s with
  | bounded first last ordered => exact hle first (by simp [bounds])
  | unbounded first => exact hle first (by simp [bounds])
  | wildcard => exact Nat.zero_le _

/-- The first literal in the text of a subinterval that is not read is the first number above the
greatest value. -/
theorem obstacle?_shape (s : Subinterval) :
    s.shape.obstacle? =
      (s.bounds.find? (2 ^ 63 - 1 < ·)).map fun n => Nat.toDigits 10 n.toNat := by
  have hunread : ∀ m : Nat,
      decide (Unread (Nat.toDigits 10 m)) = decide ((2 : Int) ^ 63 - 1 < m) := fun m => by
    rw [decide_eq_decide, unread_toDigits_iff]
    omega
  cases s with
  | bounded first last ordered =>
    simp only [shape, bounds]
    split
    · rename_i heq
      subst heq
      simp only [Shape.obstacle?, Shape.literals, List.find?_cons, hunread]
      cases decide ((2 : Int) ^ 63 - 1 < first) <;> rfl
    · simp only [Shape.obstacle?, Shape.literals, List.find?_cons, hunread]
      cases decide ((2 : Int) ^ 63 - 1 < first) <;> cases decide ((2 : Int) ^ 63 - 1 < last) <;> rfl
  | unbounded first =>
    simp only [shape, bounds, Shape.obstacle?, Shape.literals, List.find?_cons, hunread]
    cases decide ((2 : Int) ^ 63 - 1 < first) <;> rfl
  | wildcard => rfl

/-- Where a number of a subinterval is above the greatest value, the first such number is what the
error of its text tells. -/
theorem parseSubexpression_toString_of_find? (h : s.bounds.find? (2 ^ 63 - 1 < ·) = some n) :
    parseSubexpression s.toString =
      if 4300 < (toString n).length then .error (.tooManyDigits (toString n).length)
      else .error (.outOfRange s.toString (toString n)) := by
  have habove : (2 : Int) ^ 63 - 1 < n := by simpa using List.find?_some h
  obtain ⟨m, rfl⟩ := Int.eq_ofNat_of_zero_le (show 0 ≤ n by omega)
  have hdigits : toString (m : Int) = String.ofList (Nat.toDigits 10 m) :=
    Nat.toString_eq_ofList_toDigits
  have ho : s.shape.obstacle? = some (Nat.toDigits 10 m) := by
    rw [obstacle?_shape, h]
    rfl
  rw [parseSubexpression_of_spelling s.spelling_toString, hdigits, String.length_ofList]
  split
  · rename_i hlength
    exact Shape.outcome_of_fails (Shape.fails_of_obstacle? ho (.tooManyDigits hlength))
  · rename_i hlength
    refine Shape.outcome_of_fails (Shape.fails_of_obstacle? ho (.outOfRange (by omega) ?_))
    rw [Nat.ofDigitChars_ten_toDigits]
    omega

end Subinterval

/-! ## What was read is written -/

/-- The text is of the shape, and nothing in it can be left out: there are no blanks, no literal has
a zero in front of other digits, and a range is not of one number only. -/
structure Tight (text : List Char) (shape : Shape) : Prop where
  spelling : Spelling text shape
  not_blank : ∀ c ∈ text, isBlank c = false
  no_zero : ∀ digits ∈ shape.literals, digits.head? = some '0' → digits = ['0']
  distinct : ∀ firstDigits lastDigits, shape = .range firstDigits lastDigits →
    Nat.ofDigitChars 10 firstDigits 0 ≠ Nat.ofDigitChars 10 lastDigits 0

section

variable {written : List Char} {shape : Shape} {s : Subinterval}

theorem Spelling.isLiteral (h : Spelling written shape) :
    ∀ digits ∈ shape.literals, IsLiteral digits := fun _ hd =>
  (spelling_iff_spelt.mp h).isLiteral (Shape.mem_literals_iff.mp hd)

/-- A literal of a tight text is the digits of the number it is read as. -/
theorem Tight.toDigits_eq (h : Tight written shape) {digits : List Char} {n : Nat}
    (hmem : digits ∈ shape.literals) (hd : Denotes digits n) : Nat.toDigits 10 n = digits := by
  rw [← hd.value]
  exact toDigits_ofDigitChars (h.spelling.isLiteral digits hmem) (h.no_zero digits hmem)

/-- The shape of a tight text is the shape in which its subinterval is written. -/
theorem Tight.shape_eq (h : Tight written shape) (hm : shape.Means s) : s.shape = shape := by
  cases hm with
  | star => rfl
  | number hd =>
    rw [Subinterval.single, Subinterval.shape, if_pos rfl, h.toDigits_eq List.mem_cons_self hd]
  | opened hd => rw [Subinterval.shape, h.toDigits_eq List.mem_cons_self hd]
  | @range firstDigits lastDigits first last hd hd' hle =>
    have hne : first ≠ last := by
      rw [← hd.value, ← hd'.value]
      exact h.distinct firstDigits lastDigits rfl
    rw [Subinterval.shape, if_neg hne, h.toDigits_eq List.mem_cons_self hd,
      h.toDigits_eq (List.mem_cons_of_mem _ List.mem_cons_self) hd']

/-- A tight text is the text of the subinterval that it is read as. -/
theorem Tight.toString_eq (h : Tight written shape) (hm : shape.Means s) :
    s.toString.toList = written := by
  rw [Subinterval.toList_toString, h.shape_eq hm]
  exact ((spelling_iff_spelt.mp h.spelling).eq_flatMap h.not_blank).symm

/-- The text of a subinterval is tight. -/
theorem Subinterval.tight_toString (s : Subinterval) : Tight s.toString.toList s.shape where
  spelling := s.spelling_toString
  not_blank := fun _ => not_blank_of_mem_toString
  no_zero := by
    intro digits hd
    obtain ⟨-, h⟩ | h | ⟨-, n, -, h⟩ := symbol_cases (Shape.mem_literals_iff.mp hd)
    · cases h
    · cases h
    · cases h
      exact eq_zero_of_head?_toDigits
  distinct := by
    intro firstDigits lastDigits h
    cases s with
    | bounded first last ordered =>
      simp only [shape] at h
      split at h
      · cases h
      · rename_i hne
        cases h
        rwa [Nat.ofDigitChars_ten_toDigits, Nat.ofDigitChars_ten_toDigits]
    | unbounded first => cases h
    | wildcard => cases h

/-- A text that is read is written in the same way exactly if it is tight. -/
theorem toString_eq_iff_tight {text : String} (h : parseSubexpression text = .ok s) :
    s.toString = text ↔ ∃ shape, Tight text.toList shape := by
  constructor
  · rintro rfl
    exact ⟨s.shape, s.tight_toString⟩
  · rintro ⟨shape, ht⟩
    rw [parseSubexpression_of_spelling ht.spelling, Shape.outcome_convert_eq_ok_iff] at h
    exact String.toList_injective (ht.toString_eq h)

end

/-- The text of a subinterval is read as the subinterval, unless a number in it is above the
greatest value: then it is refused for the first such number, and for its digits if there are more
than 4300 of them. Of a text that is read, the subinterval is written in the same way exactly if the
text has no blanks, no literal with a zero in front of other digits and no range of one number only,
and in any case what is written is read as the subinterval again. -/
theorem Subinterval.text_codec :
    (∀ s : Subinterval, parseSubexpression s.toString =
      match s.bounds.find? (2 ^ 63 - 1 < ·) with
      | none => .ok s
      | some n =>
        if 4300 < (toString n).length then .error (.tooManyDigits (toString n).length)
        else .error (.outOfRange s.toString (toString n))) ∧
    (∀ text s, parseSubexpression text = .ok s →
      (s.toString = text ↔ ∃ shape, Tight text.toList shape) ∧
      parseSubexpression s.toString = .ok s) := by
  refine ⟨fun s => ?_, fun text s h => ?_⟩
  · cases hfind : s.bounds.find? (2 ^ 63 - 1 < ·) with
    | none =>
      refine parseSubexpression_toString (inRange_of_bounds_le fun n hn => ?_)
      simpa using List.find?_eq_none.mp hfind n hn
    | some n => exact parseSubexpression_toString_of_find? hfind
  · exact ⟨toString_eq_iff_tight h, parseSubexpression_toString (inRange_of_parseSubexpression h)⟩

/-- A range of one number is read as that number, and written without a dash. -/
theorem Subinterval.text_codec_one_number :
    parseSubexpression "07- 7" = .ok (.single 7) ∧
    ((Subinterval.single 7).toString = "07- 7" ↔ ∃ shape, Tight "07- 7".toList shape) ∧
    parseSubexpression (Subinterval.single 7).toString = .ok (.single 7) := by
  have h : parseSubexpression "07- 7" = .ok (.single 7) := by cbv
  exact ⟨h, Subinterval.text_codec.2 "07- 7" (.single 7) h⟩

end IntervalExpr
