import IntervalExpr.Proofs.Canonical

/-!
# Writing and reading an expression

The expressions that parsing, normalizing, putting in a row and reading back lead to can be written,
and their text is read as the same expression again, if the delimiter is not found early behind the
text of a subinterval. It is not if it has a character that no subinterval is written with.

* `Options.Separates`: the delimiter has such a character.
* `subexpressions_toString`: the text of an expression is cut apart where it was joined.
* `Expression.Reachable`: the expressions that these operations lead to.
* `Expression.Legible`: what all of them keep.
* `Expression.Reachable.reparse_exact`: what reading back comes to.
-/

namespace IntervalExpr

/-- The delimiter has a character that no subinterval is written with. -/
def Options.Separates (options : Options) : Prop :=
  ∃ c ∈ options.delimiter.toList, c.isDigit = false ∧ c ≠ '-' ∧ c ≠ '*'

theorem Options.Separates.delimiter_ne {options : Options} (h : options.Separates) :
    options.delimiter ≠ "" := by
  obtain ⟨c, hc, -⟩ := h
  intro heq
  simp [heq] at hc

theorem Options.Separates.not_foundEarly {options : Options} (h : options.Separates)
    (s : Subinterval) : ¬ Text.FoundEarly options.delimiter.toList s.toString.toList := by
  obtain ⟨c, hc, hdigit, hdash, hstar⟩ := h
  intro hearly
  rcases Subinterval.mem_toString (hearly.mem hc) with h | h | h
  · rw [h] at hdigit
    cases hdigit
  · exact hdash h
  · exact hstar h

/-- Words that are not empty are the subexpressions of the text they are joined to, if the delimiter
is not found early. -/
theorem subexpressions_of_intercalate {delimiter text : String} {words : List (List Char)}
    (hd : delimiter ≠ "") (hne : words ≠ [])
    (htext : text.toList = delimiter.toList.intercalate words)
    (hwords : ∀ word ∈ words, word ≠ [] ∧ ¬ Text.FoundEarly delimiter.toList word) :
    Subexpressions delimiter text (words.map String.ofList) := by
  refine ⟨words, ?_, ?_⟩
  · rw [htext]
    exact Text.decomposition_intercalate (toList_ne_nil hd) hne fun w hw => (hwords w hw).2
  · rw [List.filter_eq_self.mpr fun w hw => by simpa using (hwords w hw).1]

/-- The text of an expression is cut apart where it was joined, if the delimiter is not found
early. -/
theorem subexpressions_toString {e : Expression} (hd : e.options.delimiter ≠ "")
    (h : ∀ s ∈ e.subintervals, ¬ Text.FoundEarly e.options.delimiter.toList s.toString.toList) :
    Subexpressions e.options.delimiter e.toString (e.subintervals.map Subinterval.toString) := by
  obtain ⟨subintervals, options⟩ := e
  by_cases hnil : subintervals = []
  · subst hnil
    refine ⟨[[]], .whole fun hocc => toList_ne_nil hd ?_, rfl⟩
    simpa [Expression.toString] using hocc
  have htext : (⟨subintervals, options⟩ : Expression).toString.toList =
      options.delimiter.toList.intercalate (subintervals.map fun s => s.toString.toList) := by
    rw [Expression.toString, String.toList_intercalate, List.map_map]
    rfl
  have hparts := subexpressions_of_intercalate hd (by simpa using hnil) htext fun word hword => by
    obtain ⟨s, hs, rfl⟩ := List.mem_map.mp hword
    exact ⟨by simpa using s.toString_ne_empty, h s hs⟩
  simpa [Function.comp_def] using hparts

namespace Expression

/-- The expressions that parsing, normalizing, putting in a row and reading back lead to. -/
inductive Reachable : Expression → Prop
  | parse {text : String} {options : Options} {e : Expression} :
      Expression.parse text options = .ok e → Reachable e
  | normalize {e n : Expression} : Reachable e → e.normalize = .ok n → Reachable n
  | append {e f : Expression} : Reachable e → Reachable f → Reachable (e ++ f)
  | reparse {e f : Expression} : Reachable e → e.reparse = .ok f → Reachable f

/-- The subintervals are in range, and there are none only where the options allow that. -/
structure Legible (e : Expression) : Prop where
  inRange : ∀ s ∈ e.subintervals, s.InRange
  allowEmpty : e.subintervals = [] → e.options.allowEmpty = true

variable {text : String} {options : Options} {e f : Expression}

theorem Legible.merged (h : Legible e) : Legible e.merged where
  inRange := Subinterval.inRange_merge h.inRange
  allowEmpty := fun hnil => h.allowEmpty (Subinterval.merge_eq_nil_iff.mp hnil)

/-- A legible expression is normalized to a legible one. -/
theorem Legible.normalize_eq (h : Legible e) : e.normalize = .ok e.merged :=
  normalize_of_inRange h.inRange

theorem legible_of_parse (h : parse text options = .ok e) : Legible e := by
  refine ⟨inRange_of_parse h, ?_⟩
  cases comesTo_of_parse_eq h with
  | @expression parts subintervals hd hparts hmap hempty =>
    have hread : subintervals = [] → options.allowEmpty = true := fun hnil => by
      refine hempty ?_
      rwa [← List.map_eq_nil_iff, hmap, List.map_eq_nil_iff]
    intro hnil
    refine hread ?_
    split at hnil
    · exact Subinterval.merge_eq_nil_iff.mp hnil
    · exact hnil

theorem Legible.append (he : Legible e) (hf : Legible f) : Legible (e ++ f) where
  inRange := fun s hs => (List.mem_append.mp hs).elim (he.inRange s) (hf.inRange s)
  allowEmpty := fun h => he.allowEmpty (List.append_eq_nil_iff.mp h).1

/-- Every operation keeps an expression legible. -/
theorem Reachable.legible (h : Reachable e) : Legible e := by
  induction h with
  | parse hp => exact legible_of_parse hp
  | normalize _ hn ih =>
    rw [ih.normalize_eq] at hn
    cases hn
    exact ih.merged
  | append _ _ ihe ihf => exact ihe.append ihf
  | reparse _ hp _ => exact legible_of_parse hp

/-- The text of a legible expression can be written. -/
theorem Legible.write_eq (h : Legible e) : e.write = .ok e.toString := by
  refine writeWith_eq_ok_iff.mpr ⟨fun n hn => ?_, rfl⟩
  obtain ⟨s, hs, hn⟩ := List.mem_flatMap.mp hn
  exact (h.inRange s hs).isWritable n hn

/-- The text of a legible expression is read as the expression, which is normalized again if the
options ask for that, as long as the delimiter is not found early. -/
theorem Legible.reparse_eq_of_not_foundEarly (h : Legible e) (hd : e.options.delimiter ≠ "")
    (hearly : ∀ s ∈ e.subintervals,
      ¬ Text.FoundEarly e.options.delimiter.toList s.toString.toList) :
    e.reparse = .ok ⟨if e.options.normalize then Subinterval.merge e.subintervals
      else e.subintervals, e.options⟩ := by
  have hread : (e.subintervals.map Subinterval.toString).mapM parseSubexpression =
      .ok e.subintervals := by
    rw [mapM_eq_ok_iff, List.map_map, List.map_inj_left]
    exact fun s hs => parseSubexpression_toString (h.inRange s hs)
  rw [reparse, parse_eq_mapM hd (subexpressions_toString hd hearly), hread]
  refine if_neg fun hempty => ?_
  rw [h.allowEmpty hempty.1] at hempty
  exact nomatch hempty.2

theorem Legible.reparse_eq (h : Legible e) (hd : e.options.Separates) :
    e.reparse = .ok ⟨if e.options.normalize then Subinterval.merge e.subintervals
      else e.subintervals, e.options⟩ :=
  h.reparse_eq_of_not_foundEarly hd.delimiter_ne fun s _ => hd.not_foundEarly s

/-- Writing an expression that the operations lead to and reading its text again gives it back, with
its options, and normalized if the options ask for that. So nothing changes where the expression is
normalized already or the options do not ask. Normalizing it is never refused. -/
theorem Reachable.reparse_exact {e : Expression} (h : Reachable e) (hd : e.options.Separates) :
    e.write = .ok e.toString ∧
    e.reparse = .ok ⟨if e.options.normalize then Subinterval.merge e.subintervals
      else e.subintervals, e.options⟩ ∧
    (e.normalize = .ok e ∨ e.options.normalize = false → e.reparse = .ok e) ∧
    e.normalize = .ok ⟨Subinterval.merge e.subintervals, e.options⟩ := by
  have hreparse := h.legible.reparse_eq hd
  refine ⟨h.legible.write_eq, hreparse, fun hnormal => ?_, h.legible.normalize_eq⟩
  rw [hreparse]
  rcases hnormal with hnormal | hnormal
  · have hmerge : e = e.merged := (normalize_eq_ok_iff.mp hnormal).2
    rw [show Subinterval.merge e.subintervals = e.subintervals from
      (congrArg subintervals hmerge).symm, ite_self]
  · simp [hnormal]

/-- The delimiter may have digits in it, and start with one: the text here is `2-41;9-1;2-41;9-`. -/
theorem reparse_exact_digit_delimiter :
    Reachable ⟨[.bounded 2 4 (by decide), .unbounded 9, .bounded 2 4 (by decide), .unbounded 9],
      ⟨"1;", false, true⟩⟩ ∧
    reparse ⟨[.bounded 2 4 (by decide), .unbounded 9, .bounded 2 4 (by decide), .unbounded 9],
      ⟨"1;", false, true⟩⟩ =
        .ok ⟨[.bounded 2 4 (by decide), .unbounded 9], ⟨"1;", false, true⟩⟩ ∧
    reparse ⟨[.bounded 2 4 (by decide), .unbounded 9], ⟨"1;", false, true⟩⟩ =
      .ok ⟨[.bounded 2 4 (by decide), .unbounded 9], ⟨"1;", false, true⟩⟩ := by
  have hd : Options.Separates ⟨"1;", false, true⟩ := ⟨';', by simp, by decide⟩
  have hread : parse "2-41;31;9-" ⟨"1;", false, true⟩ =
      .ok ⟨[.bounded 2 4 (by decide), .unbounded 9], ⟨"1;", false, true⟩⟩ := by cbv
  have hone := Reachable.parse hread
  have htwo := hone.append hone
  refine ⟨htwo, (htwo.reparse_exact hd).2.1.trans (by cbv), ?_⟩
  exact (hone.reparse_exact hd).2.2.1 (.inl (by cbv))

end Expression

end IntervalExpr
