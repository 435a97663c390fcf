/-!
# Cutting a text at a separator

Texts and separators are sequences of characters; surrogates do not occur.

* `cut?`: cuts at the leftmost occurrence of the separator.
* `append_of_cut?`: a cut loses nothing but the separator.
* `pieces`: what is left of a text after cutting as often as possible, from left to right.
* `intercalate_pieces`: putting the separator between the pieces gives the text back.
* `nonEmptyPieces`: the pieces that hold at least one character.
-/

namespace IntervalExpr.Text

/-- Cuts a text at the leftmost occurrence of a separator: what stands before the occurrence and
what follows it. -/
def cut? (separator : List Char) : List Char → Option (List Char × List Char)
  | [] => none
  | c :: rest =>
    if separator.isPrefixOf (c :: rest) then some ([], (c :: rest).drop separator.length)
    else (cut? separator rest).map fun parts => (c :: parts.1, parts.2)

/-- A cut loses nothing but the separator. -/
theorem append_of_cut? {separator text : List Char} {before after : List Char}
    (h : cut? separator text = some (before, after)) : text = before ++ separator ++ after := by
  induction text generalizing before with
  | nil => simp [cut?] at h
  | cons c rest ih =>
    unfold cut? at h
    split at h
    · rename_i hp
      obtain ⟨tail, ht⟩ := List.isPrefixOf_iff_prefix.mp hp
      simp only [Option.some.injEq, Prod.mk.injEq] at h
      obtain ⟨rfl, rfl⟩ := h
      rw [← ht]
      simp
    · obtain ⟨parts, hparts, heq⟩ := Option.map_eq_some_iff.mp h
      obtain ⟨front, back⟩ := parts
      simp only [Prod.mk.injEq] at heq
      obtain ⟨rfl, rfl⟩ := heq
      simp [ih hparts]

/-- What follows a cut is shorter than the text. -/
theorem length_lt_of_cut? {separator text before after : List Char} (hs : separator ≠ [])
    (h : cut? separator text = some (before, after)) : after.length < text.length := by
  have := List.length_pos_iff.mpr hs
  rw [append_of_cut? h]
  simp
  omega

/-- The pieces of a text between the occurrences of a separator, taken from left to right without
overlap; a piece may be empty. -/
def pieces (separator : List Char) (hs : separator ≠ []) (text : List Char) : List (List Char) :=
  match h : cut? separator text with
  | none => [text]
  | some (before, after) =>
    have := length_lt_of_cut? hs h
    before :: pieces separator hs after
termination_by text.length

theorem pieces_of_cut?_eq_none {separator text : List Char} (hs : separator ≠ [])
    (h : cut? separator text = none) : pieces separator hs text = [text] := by
  rw [pieces]
  split
  · rfl
  · simp_all

theorem pieces_of_cut?_eq_some {separator text before after : List Char} (hs : separator ≠ [])
    (h : cut? separator text = some (before, after)) :
    pieces separator hs text = before :: pieces separator hs after := by
  rw [pieces]
  split
  · simp_all
  · simp_all

theorem pieces_ne_nil {separator : List Char} (hs : separator ≠ []) (text : List Char) :
    pieces separator hs text ≠ [] := by
  rw [pieces]
  split <;> simp

/-- Putting the separator between the pieces gives the text back. -/
theorem intercalate_pieces {separator : List Char} (hs : separator ≠ []) (text : List Char) :
    separator.intercalate (pieces separator hs text) = text := by
  induction hn : text.length using Nat.strongRecOn generalizing text with
  | _ n ih =>
    cases h : cut? separator text with
    | none => simp [pieces_of_cut?_eq_none hs h]
    | some parts =>
      obtain ⟨before, after⟩ := parts
      have hlt := length_lt_of_cut? hs h
      rw [pieces_of_cut?_eq_some hs h]
      have hrec := ih after.length (by omega) after rfl
      cases hp : pieces separator hs after with
      | nil => exact absurd hp (pieces_ne_nil hs after)
      | cons piece more =>
        rw [hp] at hrec
        rw [append_of_cut? h, List.intercalate_cons_cons, hrec]

/-- The pieces that hold at least one character. -/
def nonEmptyPieces (separator : List Char) (hs : separator ≠ []) (text : List Char) :
    List (List Char) :=
  (pieces separator hs text).filter (· ≠ [])

end IntervalExpr.Text
