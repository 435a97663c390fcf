import IntervalExpr.Text.Pieces

/-!
# Leftmost cuts

Cutting a text at the leftmost occurrence of a separator, said without scanning, and the pieces
that come of cutting as often as possible. Whether a cut at a given place is the leftmost one
depends on how the separator overlaps with what stands before it.

* `LeftmostCut`, `Decomposition`: the leftmost cut of a text, and all its pieces.
* `cut?_eq_some_iff`, `cut?_eq_none_iff`, `decomposition_iff`: cutting finds exactly these.
* `FoundEarly`: written behind a text, the separator also starts within the text.
* `leftmostCut_of_not_foundEarly`, `exists_leftmostCut_of_foundEarly`: which cut is the leftmost.
* `Unbordered`: a separator that cannot overlap with itself.
* `Decomposition.append`: around an unbordered separator, the pieces of two texts stand in a row.
* `decomposition_intercalate`: words behind which the separator is not found early are cut apart
  where they were joined.
-/

namespace IntervalExpr.Text

variable {separator text front back before after : List Char}

/-! ## One cut -/

/-- `before` and `after` are what stands around the leftmost occurrence of the separator. -/
structure LeftmostCut (separator text before after : List Char) : Prop where
  eq_append : text = before ++ separator ++ after
  leftmost : ∀ front back, text = front ++ separator ++ back → before.length ≤ front.length

/-- A text has at most one leftmost cut. -/
theorem LeftmostCut.unique (h : LeftmostCut separator text before after)
    (h' : LeftmostCut separator text front back) : before = front ∧ after = back := by
  have hle := h.leftmost front back h'.eq_append
  have hge := h'.leftmost before after h.eq_append
  have heq := h.eq_append.symm.trans h'.eq_append
  rw [List.append_assoc, List.append_assoc] at heq
  obtain ⟨hfront, hrest⟩ := List.append_inj heq (by omega)
  exact ⟨hfront, List.append_cancel_left hrest⟩

theorem leftmostCut_of_cut? (h : cut? separator text = some (before, after)) :
    LeftmostCut separator text before after := by
  refine ⟨append_of_cut? h, ?_⟩
  induction text generalizing before with
  | nil => cases h
  | cons c rest ih =>
    intro front back heq
    unfold cut? at h
    split at h
    · cases h
      exact Nat.zero_le _
    · rename_i hp
      obtain ⟨⟨before', after'⟩, hcut, hparts⟩ := Option.map_eq_some_iff.mp h
      cases hparts
      cases front with
      | nil => exact absurd (List.isPrefixOf_iff_prefix.mpr ⟨back, heq.symm⟩) hp
      | cons d front =>
        have hrest : rest = front ++ separator ++ back := (List.cons.inj heq).2
        exact Nat.succ_le_succ (ih hcut front back hrest)

/-- There is nothing to cut exactly if the separator does not occur. -/
theorem cut?_eq_none_iff (hs : separator ≠ []) :
    cut? separator text = none ↔ ¬ separator <:+: text := by
  induction text with
  | nil => simpa [cut?] using hs
  | cons c rest ih =>
    unfold cut?
    rw [List.infix_cons_iff, not_or, ← List.isPrefixOf_iff_prefix]
    split
    · rename_i hp
      constructor
      · intro h
        cases h
      · exact fun h => absurd hp h.1
    · rename_i hp
      rw [Option.map_eq_none_iff, ih]
      exact ⟨fun h => ⟨hp, h⟩, And.right⟩

/-- A text is cut at the leftmost occurrence of the separator. -/
theorem cut?_eq_some_iff (hs : separator ≠ []) :
    cut? separator text = some (before, after) ↔ LeftmostCut separator text before after := by
  refine ⟨leftmostCut_of_cut?, fun h => ?_⟩
  cases hcut : cut? separator text with
  | none =>
    have hocc : separator <:+: text := ⟨before, after, h.eq_append.symm⟩
    exact absurd hocc ((cut?_eq_none_iff hs).mp hcut)
  | some parts =>
    obtain ⟨rfl, rfl⟩ := h.unique (leftmostCut_of_cut? hcut)
    rfl

/-! ## All pieces -/

/-- The pieces that are left of a text after cutting it at the leftmost occurrence of the separator,
and what follows the cut in the same way. -/
inductive Decomposition (separator : List Char) : List Char → List (List Char) → Prop
  | whole {text : List Char} : ¬ separator <:+: text → Decomposition separator text [text]
  | cut {text before after : List Char} {pieces : List (List Char)} :
      LeftmostCut separator text before after → Decomposition separator after pieces →
      Decomposition separator text (before :: pieces)

theorem decomposition_pieces (hs : separator ≠ []) (text : List Char) :
    Decomposition separator text (pieces separator hs text) := by
  fun_induction pieces separator hs text with
  | case1 text h => exact .whole ((cut?_eq_none_iff hs).mp h)
  | case2 text before after h hlt ih => exact .cut (leftmostCut_of_cut? h) ih

/-- Cutting as often as possible gives the pieces, and only them. -/
theorem decomposition_iff (hs : separator ≠ []) {parts : List (List Char)} :
    Decomposition separator text parts ↔ pieces separator hs text = parts := by
  constructor
  · intro h
    induction h with
    | whole hocc => exact pieces_of_cut?_eq_none hs ((cut?_eq_none_iff hs).mpr hocc)
    | cut hcut hparts ih =>
      rw [pieces_of_cut?_eq_some hs ((cut?_eq_some_iff hs).mpr hcut), ih]
  · rintro rfl
    exact decomposition_pieces hs text

/-! ## Cuts at a given place -/

/-- More text at the end does not move the leftmost cut. -/
theorem LeftmostCut.append (h : LeftmostCut separator text before after) (more : List Char) :
    LeftmostCut separator (text ++ more) before (after ++ more) := by
  refine ⟨by rw [h.eq_append, List.append_assoc], fun front back heq => ?_⟩
  by_cases hle : before.length ≤ front.length
  · exact hle
  -- An earlier occurrence would end before the text does.
  have hlength : (front ++ separator).length ≤ text.length := by
    rw [h.eq_append]
    simp only [List.length_append]
    omega
  obtain ⟨back', hback⟩ : front ++ separator <+: text :=
    List.prefix_of_prefix_length_le ⟨back, heq.symm⟩ (List.prefix_append text more) hlength
  exact h.leftmost front back' hback.symm

/-- Written behind `front`, the separator also starts within `front`, whatever follows. -/
def FoundEarly (separator front : List Char) : Prop :=
  ∃ u, u ≠ [] ∧ u <:+ front ∧ separator <+: u ++ separator

/-- A separator that is not found early is found at its own place. -/
theorem leftmostCut_of_not_foundEarly (h : ¬ FoundEarly separator front) (back : List Char) :
    LeftmostCut separator (front ++ separator ++ back) front back := by
  refine ⟨rfl, fun front' back' heq => ?_⟩
  by_cases hle : front.length ≤ front'.length
  · exact hle
  rw [List.append_assoc, List.append_assoc] at heq
  obtain ⟨u, rfl⟩ : front' <+: front :=
    List.prefix_of_prefix_length_le ⟨_, heq.symm⟩ (List.prefix_append ..) (by omega)
  have hu : u ≠ [] := by
    rintro rfl
    simp at hle
  rw [List.append_assoc, List.append_cancel_left_eq, ← List.append_assoc] at heq
  refine absurd ⟨u, hu, List.suffix_append front' u, ?_⟩ h
  exact List.prefix_of_prefix_length_le ⟨back', heq.symm⟩ (List.prefix_append ..) (by simp)

/-- A separator that is found early is cut out before its own place. -/
theorem exists_leftmostCut_of_foundEarly (hs : separator ≠ []) (h : FoundEarly separator front)
    (back : List Char) : ∃ before after,
      LeftmostCut separator (front ++ separator ++ back) before after ∧
      before.length < front.length := by
  obtain ⟨u, hu, ⟨front', rfl⟩, v, hv⟩ := h
  have heq : front' ++ u ++ separator ++ back = front' ++ separator ++ (v ++ back) := by
    rw [List.append_assoc front', ← hv]
    simp only [List.append_assoc]
  cases hcut : cut? separator (front' ++ u ++ separator ++ back) with
  | none => exact absurd ⟨front', v ++ back, heq.symm⟩ ((cut?_eq_none_iff hs).mp hcut)
  | some parts =>
    have hleftmost := leftmostCut_of_cut? hcut
    refine ⟨parts.1, parts.2, hleftmost, ?_⟩
    have hle := hleftmost.leftmost front' _ heq
    have hpos := List.length_pos_iff.mpr hu
    rw [List.length_append]
    omega

/-- A separator that occurs in a text is found early behind it. -/
theorem foundEarly_of_occurs (hs : separator ≠ []) (h : separator <:+: front) :
    FoundEarly separator front := by
  obtain ⟨before, after, rfl⟩ := h
  refine ⟨separator ++ after, by simp [hs], ⟨before, by simp⟩, ?_⟩
  rw [List.append_assoc]
  exact List.prefix_append ..

theorem leftmostCut_start (separator back : List Char) :
    LeftmostCut separator (separator ++ back) [] back :=
  ⟨rfl, fun _ _ _ => Nat.zero_le _⟩

/-! ## Separators without a border -/

/-- No part at the start of the word is also a part at its end, other than the empty part and the
whole word. -/
def Unbordered (word : List Char) : Prop :=
  ∀ border, border ≠ [] → border ≠ word → border <+: word → ¬ border <:+ word

theorem unbordered_iff {word : List Char} :
    Unbordered word ↔ ∀ n < word.length, 0 < n → ¬ word.take n <:+ word := by
  constructor
  · intro h n hn hpos
    have hlength : (word.take n).length = n := by rw [List.length_take]; omega
    refine h _ ?_ ?_ (List.take_prefix n word)
    · rw [← List.length_pos_iff]
      omega
    · intro heq
      rw [heq] at hlength
      omega
  · rintro h border hne hword ⟨rest, rfl⟩
    have hpos := List.length_pos_iff.mpr hne
    have hrest : rest ≠ [] := by
      rintro rfl
      simp at hword
    have := h border.length (by simpa [List.length_pos_iff] using hrest) hpos
    rwa [List.take_left] at this

instance (word : List Char) : Decidable (Unbordered word) :=
  decidable_of_iff _ unbordered_iff.symm

/-- Where an unbordered word starts earlier than at its own place, it ends before that place. -/
theorem Unbordered.prefix_of_prefix_append {word u : List Char} (h : Unbordered word)
    (hu : u ≠ []) (hp : word <+: u ++ word) : word <+: u := by
  rcases List.prefix_or_prefix_of_prefix hp (List.prefix_append u word) with hword | ⟨v, hv⟩
  · exact hword
  -- Otherwise the word goes on with a part that it also starts with.
  have hprefix : v <+: word := by
    rwa [← hv, List.prefix_append_right_inj, hv] at hp
  by_cases hnil : v = []
  · rw [hnil, List.append_nil] at hv
    exact hv ▸ List.prefix_rfl
  · have hne : v ≠ word := by
      rintro rfl
      exact hu (List.append_left_eq_self.mp hv)
    exact absurd ⟨u, hv⟩ (h v hnil hne hprefix)

/-- An unbordered separator is found early only behind a text in which it occurs. -/
theorem Unbordered.infix_of_foundEarly (h : Unbordered separator)
    (hearly : FoundEarly separator front) : separator <:+: front := by
  obtain ⟨u, hu, hsuffix, hp⟩ := hearly
  exact (h.prefix_of_prefix_append hu hp).isInfix.trans hsuffix.isInfix

/-- Around an unbordered separator, the pieces of two texts stand in a row. -/
theorem Decomposition.append {parts more : List (List Char)} (hu : Unbordered separator)
    (h : Decomposition separator text parts) (h' : Decomposition separator back more) :
    Decomposition separator (text ++ separator ++ back) (parts ++ more) := by
  induction h with
  | whole hocc =>
    have hearly := mt hu.infix_of_foundEarly hocc
    exact .cut (leftmostCut_of_not_foundEarly hearly back) h'
  | cut hcut hparts ih =>
    refine .cut ?_ ih
    have := hcut.append (separator ++ back)
    rwa [← List.append_assoc, ← List.append_assoc] at this

/-! ## The characters of a separator -/

/-- A word that starts with another one and then with itself consists of that one's characters. -/
theorem mem_of_prefix_append {word u : List Char} (hu : u ≠ []) (hp : word <+: u ++ word) :
    ∀ c ∈ word, c ∈ u := by
  induction hn : word.length using Nat.strongRecOn generalizing word with
  | _ n ih =>
    rcases List.prefix_or_prefix_of_prefix hp (List.prefix_append u word) with hword | ⟨v, rfl⟩
    · exact fun c hc => hword.subset hc
    · rw [List.prefix_append_right_inj] at hp
      have hpos := List.length_pos_iff.mpr hu
      rw [List.length_append] at hn
      intro c hc
      rcases List.mem_append.mp hc with hc | hc
      · exact hc
      · exact ih v.length (by omega) hp rfl c hc

/-- A separator is found early only behind a text that has all of its characters. -/
theorem FoundEarly.mem {c : Char} (h : FoundEarly separator front) (hc : c ∈ separator) :
    c ∈ front := by
  obtain ⟨u, hu, hsuffix, hp⟩ := h
  exact hsuffix.subset (mem_of_prefix_append hu hp c hc)

/-! ## Joined words -/

/-- Words behind which the separator is not found early are cut apart where they were joined. -/
theorem decomposition_intercalate (hs : separator ≠ []) {words : List (List Char)}
    (hne : words ≠ []) (hwords : ∀ word ∈ words, ¬ FoundEarly separator word) :
    Decomposition separator (separator.intercalate words) words := by
  induction words with
  | nil => exact absurd rfl hne
  | cons word words ih =>
    have hword := hwords word List.mem_cons_self
    cases words with
    | nil =>
      rw [List.intercalate_singleton]
      exact .whole (mt (foundEarly_of_occurs hs) hword)
    | cons next words =>
      rw [List.intercalate_cons_cons]
      refine .cut (leftmostCut_of_not_foundEarly hword _) (ih (by simp) fun w hw => ?_)
      exact hwords w (List.mem_cons_of_mem word hw)

end IntervalExpr.Text
