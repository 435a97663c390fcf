import Mathlib.Data.List.Basic
import IntervalExpr.Proofs.Splitting

/-!
# Seams

Where a separator may occur in a text that is put together of parts: in one of them, or across a
seam. A character that the separator lacks keeps it from crossing.

* `Decomposition.lacks`: no piece holds the separator.
* `infix_append_cons`: around a character that a word lacks, it occurs on one side.
* `not_foundEarly_concat`: behind such a character, a separator is not found early.
* `exists_decomposition_across`: a separator that stretches across a character cuts the text in two.
* `exists_decomposition_of_foundEarly`: a separator that is found early leaves a part of itself at
  the front of the next piece.
-/

namespace IntervalExpr.Text

variable {separator text front before after : List Char} {c : Char}

/-- What is cut off at the leftmost occurrence does not hold the separator. -/
theorem LeftmostCut.front_lacks (hs : separator ≠ [])
    (h : LeftmostCut separator text before after) : ¬ separator <:+: before := by
  rintro ⟨front, back, rfl⟩
  have hle := h.leftmost front (back ++ separator ++ after) (by rw [h.eq_append]; simp)
  have hpos := List.length_pos_iff.mpr hs
  simp only [List.length_append] at hle
  omega

/-- No piece of a text holds the separator. -/
theorem Decomposition.lacks (hs : separator ≠ []) {pieces : List (List Char)}
    (h : Decomposition separator text pieces) : ∀ piece ∈ pieces, ¬ separator <:+: piece := by
  induction h with
  | whole hocc => exact List.forall_mem_singleton.mpr hocc
  | cut hcut hpieces ih => exact List.forall_mem_cons.mpr ⟨hcut.front_lacks hs, ih⟩

/-- Around a character that it lacks, a word occurs on one side. -/
theorem infix_append_cons {word back : List Char} (hc : c ∉ word)
    (h : word <:+: front ++ c :: back) : word <:+: front ∨ word <:+: back := by
  rw [← List.singleton_append, List.infix_append_iff] at h
  rcases h with h | h | ⟨start, rest, rfl, hstart, hrest⟩
  · exact .inl h
  · rcases List.infix_cons_iff.mp h with hprefix | hback
    · cases word with
      | nil => exact .inl <| List.nil_infix ..
      | cons d word =>
        obtain rfl := (List.cons_prefix_cons.mp hprefix).1
        exact absurd List.mem_cons_self hc
    · exact .inr hback
  · cases rest with
    | nil => exact .inl (by simpa using hstart.isInfix)
    | cons d rest =>
      obtain rfl := (List.cons_prefix_cons.mp hrest).1
      exact absurd (List.mem_append_right _ List.mem_cons_self) hc

/-- Behind a text that ends with a character of its own and does not hold the separator, the
separator is not found early. -/
theorem not_foundEarly_concat (hc : c ∉ separator) (hocc : ¬ separator <:+: front ++ [c]) :
    ¬ FoundEarly separator (front ++ [c]) := by
  rintro ⟨u, hu, hsuffix, hp⟩
  rcases List.prefix_or_prefix_of_prefix hp (List.prefix_append u separator) with hword | hword
  · exact hocc (hword.isInfix.trans hsuffix.isInfix)
  · obtain rfl | ⟨u', rfl, -⟩ := List.suffix_concat_iff.mp hsuffix
    · exact hu rfl
    · exact hc (hword.subset (by simp))

/-- If a separator is found early behind a text that does not hold it, then a part of the separator
is left over and goes to the front of the next piece. -/
theorem exists_decomposition_of_foundEarly (hs : separator ≠ []) (h : FoundEarly separator front)
    (hocc : ¬ separator <:+: front) (hc : c ∉ separator) :
    ∃ before rest, rest ≠ [] ∧ rest <:+ separator ∧
      Decomposition separator (front ++ separator ++ [c]) [before, rest ++ [c]] := by
  obtain ⟨before, after, hcut, hlt⟩ := exists_leftmostCut_of_foundEarly hs h [c]
  have heq := hcut.eq_append
  have hlength := congrArg List.length heq
  simp only [List.length_append, List.length_singleton] at hlength
  -- The cut ends behind `front`: otherwise `front` would hold the separator.
  have hafter : after.length ≤ separator.length := by
    by_cases hle : after.length ≤ separator.length
    · exact hle
    have hfront : before ++ separator <+: front := by
      rw [List.append_assoc] at heq
      refine List.prefix_of_prefix_length_le ⟨after, heq.symm⟩ (List.prefix_append ..) ?_
      rw [List.length_append]
      omega
    exact absurd ((List.suffix_append before separator).isInfix.trans hfront.isInfix) hocc
  have hsuffix : after <:+ separator ++ [c] := by
    rw [List.append_assoc] at heq
    refine List.suffix_of_suffix_length_le ⟨_, heq.symm⟩ (List.suffix_append ..) ?_
    rw [List.length_append]
    omega
  obtain rfl | ⟨rest, rfl, hrest⟩ := List.suffix_concat_iff.mp hsuffix
  · simp only [List.length_nil] at hlength
    omega
  rw [List.length_append, List.length_singleton] at hlength hafter
  refine ⟨before, rest, ?_, hrest, .cut hcut (.whole fun hrest' => ?_)⟩
  · rintro rfl
    simp only [List.length_nil] at hlength
    omega
  · rcases infix_append_cons hc hrest' with hrest' | hnil
    · have := hrest'.length_le
      omega
    · exact hs (List.infix_nil.mp hnil)

/-- A text that has a character once is cut in two by a separator that occurs on neither side of the
character: the separator takes the end of one side and the start of the other. -/
theorem exists_decomposition_across {back : List Char} (hfront : c ∉ front) (hback : c ∉ back)
    (hocc : separator <:+: front ++ c :: back) (hocc₁ : ¬ separator <:+: front)
    (hocc₂ : ¬ separator <:+: back) :
    ∃ before start rest after, separator = start ++ c :: rest ∧ front = before ++ start ∧
      back = rest ++ after ∧ Decomposition separator (front ++ c :: back) [before, after] := by
  have hc : c ∈ separator := by
    by_cases hc : c ∈ separator
    · exact hc
    · exact absurd (infix_append_cons hc hocc) (not_or.mpr ⟨hocc₁, hocc₂⟩)
  have hs : separator ≠ [] := List.ne_nil_of_mem hc
  cases hcut : cut? separator (front ++ c :: back) with
  | none => exact absurd hocc ((cut?_eq_none_iff hs).mp hcut)
  | some parts =>
    obtain ⟨before, after⟩ := parts
    have hleftmost := leftmostCut_of_cut? hcut
    obtain ⟨start, rest, rfl⟩ := List.append_of_mem hc
    have heq : front ++ c :: back = before ++ start ++ c :: (rest ++ after) := by
      rw [hleftmost.eq_append]
      simp
    obtain ⟨rfl, -, rfl⟩ := (List.append_cons_inj_of_notMem hfront hback).mp heq
    refine ⟨before, start, rest, after, rfl, rfl, rfl, .cut hleftmost (.whole fun hafter => ?_)⟩
    exact hback (List.mem_append_right _ (hafter.subset hc))

end IntervalExpr.Text
