import IntervalExpr.Proofs.Composition

/-!
# Texts without subexpressions

All pieces of a text are empty exactly if the text is the delimiter, written any number of times in
a row. Nothing else counts as empty: every other text has a piece, be it of blanks or a part of the
delimiter, that is read as a subinterval or refused.

* `Text.Decomposition.eq_flatten_replicate`, `Text.decomposition_flatten_replicate`: texts with
  empty pieces only.
* `subexpressions_nil_iff`: texts without subexpressions.
* `Rejects.ne_emptyExpression`: a subexpression is never refused for being empty.
* `Expression.emptiness_exact`: when an expression is empty, and when that is refused.
-/

namespace IntervalExpr

namespace Text

variable {separator text : List Char}

/-- A text with empty pieces only is the separator several times in a row. -/
theorem Decomposition.eq_flatten_replicate {pieces : List (List Char)}
    (h : Decomposition separator text pieces) (hempty : ∀ piece ∈ pieces, piece = []) :
    ∃ k, text = (List.replicate k separator).flatten := by
  induction h with
  | whole hocc => exact ⟨0, hempty _ List.mem_cons_self⟩
  | cut hcut hpieces ih =>
    obtain ⟨rfl, hrest⟩ := List.forall_mem_cons.mp hempty
    obtain ⟨k, rfl⟩ := ih hrest
    refine ⟨k + 1, ?_⟩
    rw [hcut.eq_append, List.nil_append, List.replicate_succ, List.flatten_cons]

/-- The separator several times in a row has one empty piece more. -/
theorem decomposition_flatten_replicate (hs : separator ≠ []) (k : Nat) :
    Decomposition separator (List.replicate k separator).flatten (List.replicate (k + 1) []) := by
  induction k with
  | zero => exact .whole fun hocc => hs (List.infix_nil.mp hocc)
  | succ k ih =>
    rw [List.replicate_succ, List.flatten_cons]
    exact .cut (leftmostCut_start ..) ih

end Text

/-- A text has no subexpressions exactly if it is the delimiter several times in a row. -/
theorem subexpressions_nil_iff {delimiter text : String} (hd : delimiter ≠ "") :
    Subexpressions delimiter text [] ↔ ∃ k, text = String.join (List.replicate k delimiter) := by
  have htext : ∀ k, text = String.join (List.replicate k delimiter) ↔
      text.toList = (List.replicate k delimiter.toList).flatten := fun k => by
    rw [← String.toList_inj, String.toList_join, List.flatMap_replicate]
  simp only [htext]
  constructor
  · rintro ⟨pieces, hpieces, hnil⟩
    have hempty := List.filter_eq_nil_iff.mp (List.map_eq_nil_iff.mp hnil.symm)
    exact hpieces.eq_flatten_replicate (by simpa using hempty)
  · rintro ⟨k, hk⟩
    refine ⟨List.replicate (k + 1) [], ?_, by simp⟩
    rw [hk]
    exact Text.decomposition_flatten_replicate (toList_ne_nil hd) k

/-- A subexpression is never refused for being empty. -/
theorem Rejects.ne_emptyExpression {text told : String} {shape? : Option Shape}
    {next? : Option Item} {error : ParseError} (h : Rejects text shape? next? error) :
    error ≠ .emptyExpression told := by
  have hnext : ∀ x : Item, x.rejection text ≠ .emptyExpression told := fun x => by
    cases x <;> exact nofun
  cases h with
  | range hf =>
    cases hf with
    | first hu => cases hu <;> exact nofun
    | last hd hu => cases hu <;> exact nofun
    | order hd hd' hlt => exact nofun
  | afterRange hm => exact hnext _
  | next hnot => exact hnext _
  | nothing => exact nofun
  | number hu => cases hu <;> exact nofun
  | opened hu => cases hu <;> exact nofun

theorem parseSubexpression_ne_emptyExpression (text told : String) :
    parseSubexpression text ≠ .error (.emptyExpression told) := by
  intro h
  obtain ⟨items, shape?, next?, -, -, hj⟩ := parseSubexpression_eq_iff.mp h
  exact (judge_eq_error_iff.mp hj).ne_emptyExpression rfl

namespace Expression

/-- A text is refused as empty exactly if it is the delimiter any number of times in a row and the
options do not allow an empty expression, and it is read as an expression without subintervals
exactly if it is such a text and they do. -/
theorem emptiness_exact (text : String) (options : Options) (hd : options.delimiter ≠ "") :
    ((∃ told, parse text options = .error (.emptyExpression told)) ↔
      options.allowEmpty = false ∧
        ∃ k, text = String.join (List.replicate k options.delimiter)) ∧
    ((∃ e, parse text options = .ok e ∧ e.subintervals = []) ↔
      options.allowEmpty = true ∧
        ∃ k, text = String.join (List.replicate k options.delimiter)) := by
  rw [← subexpressions_nil_iff hd]
  refine ⟨⟨?_, fun ⟨hempty, hparts⟩ => ?_⟩, ⟨?_, fun ⟨hempty, hparts⟩ => ?_⟩⟩
  · rintro ⟨told, h⟩
    cases comesTo_of_parse_eq h with
    | refused _ _ _ hpart _ => exact absurd hpart (parseSubexpression_ne_emptyExpression _ told)
    | nothing _ hparts hempty => exact ⟨hempty, hparts⟩
  · exact ⟨text, (ComesTo.nothing hd hparts hempty).parse_eq⟩
  · rintro ⟨e, h, hnil⟩
    cases comesTo_of_parse_eq h with
    | @expression parts subintervals _ hparts hmap hempty =>
      have hsubs : subintervals = [] := by
        simp only at hnil
        split at hnil
        · exact Subinterval.merge_eq_nil_iff.mp hnil
        · exact hnil
      obtain rfl : parts = [] := by rwa [← List.map_eq_nil_iff, hmap, List.map_eq_nil_iff]
      exact ⟨hempty rfl, hparts⟩
  · have hnone : ([] : List String).map parseSubexpression =
        ([] : List Subinterval).map .ok := rfl
    refine ⟨_, (ComesTo.expression hd hparts hnone fun _ => hempty).parse_eq, ?_⟩
    simp only [Subinterval.merge_nil, ite_self]

/-- The delimiter overlaps with itself: three characters are the delimiter and a part of it. -/
theorem emptiness_exact_overlapping :
    "aa" ≠ "" ∧
    (∃ told, parse "aaaa" ⟨"aa", false, true⟩ = .error (.emptyExpression told)) ∧
    (∃ e, parse "aaaa" ⟨"aa", true, true⟩ = .ok e ∧ e.subintervals = []) ∧
    ¬ ∃ k, "aaa" = String.join (List.replicate k "aa") := by
  have hd : "aa" ≠ "" := by decide
  have htwo : ∃ k, "aaaa" = String.join (List.replicate k "aa") := ⟨2, by decide⟩
  have hthree : parse "aaa" ⟨"aa", true, true⟩ =
      .error (.malformed "a" (some 0) (some "illegal character 'a'")) := by decide +kernel
  refine ⟨hd, (emptiness_exact "aaaa" ⟨"aa", false, true⟩ hd).1.mpr ⟨rfl, htwo⟩,
    (emptiness_exact "aaaa" ⟨"aa", true, true⟩ hd).2.mpr ⟨rfl, htwo⟩, fun hk => ?_⟩
  obtain ⟨e, he, -⟩ := (emptiness_exact "aaa" ⟨"aa", true, true⟩ hd).2.mpr ⟨rfl, hk⟩
  rw [hthree] at he
  cases he

end Expression

end IntervalExpr
