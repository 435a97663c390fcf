import IntervalExpr.Proofs.Composition

/-!
# Texts in a row

Putting a delimiter between two texts puts their subintervals in a row, as long as the delimiter
occurs nowhere across the seam. A delimiter without a border never does; one that ends as it starts
may be found earlier than it was put.

* `Subexpressions.append`, `Subexpressions.delimiter_append`: the subexpressions of texts in a row,
  and of a text after a delimiter.
* `Expression.parse_append`: the outcome of texts in a row.
* `Expression.parse_append_ne_of_border`: what a border does.
-/

namespace IntervalExpr

variable {delimiter a b : String} {parts more : List String}

/-- Around an unbordered delimiter, the subexpressions of two texts stand in a row. -/
theorem Subexpressions.append (hu : Text.Unbordered delimiter.toList)
    (ha : Subexpressions delimiter a parts) (hb : Subexpressions delimiter b more) :
    Subexpressions delimiter (a ++ delimiter ++ b) (parts ++ more) := by
  obtain ⟨pieces, hpieces, rfl⟩ := ha
  obtain ⟨pieces', hpieces', rfl⟩ := hb
  refine ⟨pieces ++ pieces', ?_, by rw [List.filter_append, List.map_append]⟩
  rw [String.toList_append, String.toList_append]
  exact hpieces.append hu hpieces'

/-- A delimiter in front of a text cuts off an empty piece only. -/
theorem Subexpressions.delimiter_append (hb : Subexpressions delimiter b more) :
    Subexpressions delimiter (delimiter ++ b) more := by
  obtain ⟨pieces, hpieces, rfl⟩ := hb
  refine ⟨[] :: pieces, ?_, rfl⟩
  rw [String.toList_append]
  exact .cut (Text.leftmostCut_start ..) hpieces

namespace Expression

section

variable {options : Options} (hempty : options.allowEmpty = true)
  (hnormal : options.normalize = false)

include hempty hnormal

/-- Where an expression may be empty and is left as it is, only subexpressions are refused. -/
theorem parse_eq_map_mapM {text : String} (hd : options.delimiter ≠ "")
    (h : Subexpressions options.delimiter text parts) :
    parse text options = (⟨·, options⟩) <$> parts.mapM parseSubexpression := by
  have hassemble : assemble text options = fun subintervals => .ok ⟨subintervals, options⟩ := by
    funext subintervals
    simp [assemble, hempty, hnormal]
  rw [parse_eq_mapM hd h, hassemble]
  cases parts.mapM parseSubexpression <;> rfl

/-- Around an unbordered delimiter, the first of two texts that is refused decides the error, and
otherwise the subintervals stand in a row. -/
theorem parse_append_of_unbordered (hd : options.delimiter ≠ "")
    (hu : Text.Unbordered options.delimiter.toList) (a b : String) :
    parse (a ++ options.delimiter ++ b) options = do
      let e ← parse a options
      let f ← parse b options
      return e ++ f := by
  obtain ⟨parts, ha⟩ := exists_subexpressions hd a
  obtain ⟨more, hb⟩ := exists_subexpressions hd b
  rw [parse_eq_map_mapM hempty hnormal hd (ha.append hu hb), List.mapM_append,
    parse_eq_map_mapM hempty hnormal hd ha, parse_eq_map_mapM hempty hnormal hd hb]
  cases parts.mapM parseSubexpression with
  | error error => rfl
  | ok subintervals =>
    cases more.mapM parseSubexpression with
    | error error => rfl
    | ok subintervals' => rfl

end

/-- A delimiter in front of a text is not noticed, except by the error that tells the text. -/
theorem parse_delimiter_append {options : Options} (hd : options.delimiter ≠ "") (b : String)
    (hb : options.allowEmpty = true ∨ parse b options ≠ .error (.emptyExpression b)) :
    parse (options.delimiter ++ b) options = parse b options := by
  obtain ⟨more, hmore⟩ := exists_subexpressions hd b
  rw [parse_eq_mapM hd hmore] at hb
  rw [parse_eq_mapM hd hmore.delimiter_append, parse_eq_mapM hd hmore]
  cases hm : more.mapM parseSubexpression with
  | error error => rfl
  | ok subintervals =>
    rw [hm] at hb
    show assemble _ options subintervals = assemble b options subintervals
    have hsome : ¬ (subintervals = [] ∧ options.allowEmpty = false) := by
      rintro ⟨rfl, hempty⟩
      rcases hb with hb | hb
      · rw [hempty] at hb
        cases hb
      · exact hb (if_pos ⟨rfl, hempty⟩)
    rw [assemble, assemble, if_neg hsome, if_neg hsome]

/-- Two texts with an unbordered delimiter between them are refused as the first of them that is
refused, and otherwise hold the subintervals of the first and then those of the second. A delimiter
in front of a text, unbordered or not, is not noticed. Every delimiter of one character is
unbordered, and so is a comma with a space. -/
theorem parse_append (hd : delimiter ≠ "") (a b : String) :
    (Text.Unbordered delimiter.toList →
      parse (a ++ delimiter ++ b) ⟨delimiter, true, false⟩ = do
        let e ← parse a ⟨delimiter, true, false⟩
        let f ← parse b ⟨delimiter, true, false⟩
        return e ++ f) ∧
    (∀ options : Options, options.delimiter = delimiter →
      (options.allowEmpty = true ∨ parse b options ≠ .error (.emptyExpression b)) →
      parse (delimiter ++ b) options = parse b options) ∧
    (delimiter.length = 1 ∨ delimiter = ", " → Text.Unbordered delimiter.toList) := by
  refine ⟨fun hu => parse_append_of_unbordered rfl rfl hd hu a b, ?_, ?_⟩
  · rintro options rfl hb
    exact parse_delimiter_append hd b hb
  · rintro (hlength | rfl)
    · rw [Text.unbordered_iff, String.length_toList, hlength]
      omega
    · decide

/-- The comma at the end of the first text is no part of a delimiter. -/
theorem parse_append_comma_space :
    Text.Unbordered ", ".toList ∧
    parse ("4, 1," ++ ", " ++ "3-5") ⟨", ", true, false⟩ = (do
      let e ← parse "4, 1," ⟨", ", true, false⟩
      let f ← parse "3-5" ⟨", ", true, false⟩
      return e ++ f) ∧
    parse (", " ++ "3-5") ⟨", ", true, true⟩ = parse "3-5" ⟨", ", true, true⟩ :=
  have h := @parse_append ", " (by decide) "4, 1," "3-5"
  have hu := h.2.2 (.inr rfl)
  ⟨hu, h.1 hu, h.2.1 ⟨", ", true, true⟩ rfl (.inl rfl)⟩

/-- A delimiter that ends as it starts is found across the seam: what was cut off the first text is
shorter than that text, and so is the text that the error tells. -/
theorem parse_append_ne_of_border :
    ¬ Text.Unbordered " or ".toList ∧
    ¬ ∀ error, parse "5-3 or" ⟨" or ", true, false⟩ = .error error →
      parse ("5-3 or" ++ " or " ++ "2") ⟨" or ", true, false⟩ = .error error := by
  refine ⟨by decide, fun h => ?_⟩
  have hfirst : parse "5-3 or" ⟨" or ", true, false⟩ =
      .error (.reversedRange "5-3 or" 5 3) := by cbv
  have hwhole : parse ("5-3 or" ++ " or " ++ "2") ⟨" or ", true, false⟩ =
      .error (.reversedRange "5-3" 5 3) := by cbv
  have := hwhole.symm.trans (h _ hfirst)
  simp at this

end Expression

end IntervalExpr
