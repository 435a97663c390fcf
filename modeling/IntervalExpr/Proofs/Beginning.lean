import IntervalExpr.Proofs.Items
import IntervalExpr.Subexpression.Shape

/-!
# The longest beginning of a shape

Of the items of a text, the longest beginning is read that makes a shape or nothing.

* `Spells`: the items that make a shape, or nothing.
* `LongestBeginning`: how far items go as a shape.
* `readOn`: reads symbol after symbol as long as a shape goes on.
* `longestBeginning_of_stuck`, `LongestBeginning.exists_stuck`: a beginning is the longest one
  exactly if the next item goes on with no shape.
* `longestBeginning_readOn`, `LongestBeginning.unique`: this finds the longest beginning, of which
  there is only one.
-/

namespace IntervalExpr

/-- The items are symbols, and in this order they make the shape, or nothing. -/
def Spells (w : List Item) (shape? : Option Shape) : Prop :=
  w.map Item.symbol? = (shape?.elim [] Shape.symbols).map some

/-- `shape?` is what the longest beginning of the items that makes a shape or nothing makes, and
`next?` is the item after it. -/
def LongestBeginning (items : List Item) (shape? : Option Shape) (next? : Option Item) : Prop :=
  ∃ w rest, items = w ++ rest ∧ rest.head? = next? ∧ Spells w shape? ∧
    ∀ w' longer?, w' <+: items → Spells w' longer? → w'.length ≤ w.length

/-- The shape after one more symbol, if there is one. -/
def grow? : Option Shape → Symbol → Option Shape
  | none => Shape.ofSymbol?
  | some shape => shape.extend?

/-- Reads symbols as long as they make a shape. -/
def readOn (shape? : Option Shape) : List Item → Option Shape × List Item
  | [] => (shape?, [])
  | x :: rest =>
    match x.symbol?.bind (grow? shape?) with
    | some longer => readOn (some longer) rest
    | none => (shape?, x :: rest)

theorem spells_nil : Spells [] none := rfl

theorem symbols_elim_injective {a b : Option Shape}
    (h : a.elim [] Shape.symbols = b.elim [] Shape.symbols) : a = b := by
  cases a with
  | none =>
    cases b with
    | none => rfl
    | some t => cases t <;> cases h
  | some s =>
    cases b with
    | none => cases s <;> cases h
    | some t => cases s <;> cases t <;> cases h <;> rfl

/-- Every shape is made by one symbol from a shorter one, or from nothing. -/
theorem Shape.exists_grow? (shape : Shape) :
    ∃ shorter? symbol, grow? shorter? symbol = some shape := by
  cases shape with
  | star => exact ⟨none, .star, rfl⟩
  | number digits => exact ⟨none, .integer digits, rfl⟩
  | opened digits => exact ⟨some (.number digits), .dash, rfl⟩
  | range firstDigits lastDigits =>
    exact ⟨some (.opened firstDigits), .integer lastDigits, rfl⟩

theorem symbols_of_grow? {shape? : Option Shape} {symbol : Symbol} {longer : Shape}
    (h : grow? shape? symbol = some longer) :
    longer.symbols = shape?.elim [] Shape.symbols ++ [symbol] := by
  cases shape? with
  | none => exact Shape.symbols_of_ofSymbol? h
  | some shape => exact Shape.symbols_of_extend? h

theorem grow?_eq_some_iff {shape? : Option Shape} {symbol : Symbol} {longer : Shape} :
    grow? shape? symbol = some longer ↔
      longer.symbols = shape?.elim [] Shape.symbols ++ [symbol] := by
  refine ⟨symbols_of_grow?, fun h => ?_⟩
  obtain ⟨shorter?, last, hgrow⟩ := longer.exists_grow?
  rw [symbols_of_grow? hgrow] at h
  obtain ⟨hshape, hlast⟩ := List.append_inj' h rfl
  cases hlast
  rw [← symbols_elim_injective hshape, hgrow]

/-- One item more makes a shape exactly if the shape before it goes on with its symbol. -/
theorem spells_concat_iff {w : List Item} {x : Item} {shape? : Option Shape} {longer : Shape}
    (h : Spells w shape?) :
    Spells (w ++ [x]) (some longer) ↔ x.symbol?.bind (grow? shape?) = some longer := by
  unfold Spells at h ⊢
  rw [List.map_append, h, Option.elim_some, List.map_singleton]
  cases hx : x.symbol? with
  | none =>
    rw [Option.bind_none]
    refine ⟨fun hs => ?_, nofun⟩
    have hnone : none ∈ longer.symbols.map some := by rw [← hs]; simp
    simp at hnone
  | some symbol =>
    rw [Option.bind_some, grow?_eq_some_iff, ← List.map_singleton, ← List.map_append,
      List.map_inj_right fun _ _ => Option.some.inj]
    exact eq_comm

/-- A beginning of a shape is a shape itself, or nothing. -/
theorem exists_spells_of_append {more w : List Item} {longer? : Option Shape}
    (h : Spells (w ++ more) longer?) : ∃ shape?, Spells w shape? := by
  induction hn : more.length generalizing more longer? with
  | zero =>
    rw [List.length_eq_zero_iff.mp hn, List.append_nil] at h
    exact ⟨longer?, h⟩
  | succ n ih =>
    -- The last item is taken away, with the last symbol of the shape.
    rcases List.eq_nil_or_concat more with rfl | ⟨more', x, rfl⟩
    · cases hn
    rw [List.concat_eq_append, ← List.append_assoc] at h
    cases longer? with
    | none => simp [Spells] at h
    | some longer =>
      obtain ⟨shorter?, symbol, hgrow⟩ := longer.exists_grow?
      have hmap : (w ++ more').map Item.symbol? ++ [x.symbol?] =
          (shorter?.elim [] Shape.symbols).map some ++ [some symbol] := by
        simpa [Spells, symbols_of_grow? hgrow] using h
      have hs : Spells (w ++ more') shorter? := (List.append_inj' hmap rfl).1
      exact ih hs (by simpa using hn)

/-- The reading ends where the next item, if there is one, makes no longer shape. -/
theorem readOn_spec {w : List Item} {shape? : Option Shape} (h : Spells w shape?)
    (items : List Item) :
    ∃ w', w ++ items = w' ++ (readOn shape? items).2 ∧ Spells w' (readOn shape? items).1 ∧
      ∀ x, (readOn shape? items).2.head? = some x →
        x.symbol?.bind (grow? (readOn shape? items).1) = none := by
  induction items generalizing w shape? with
  | nil => exact ⟨w, rfl, h, nofun⟩
  | cons x rest ih =>
    simp only [readOn]
    cases hx : x.symbol?.bind (grow? shape?) with
    | none =>
      refine ⟨w, rfl, h, fun y hy => ?_⟩
      cases hy
      exact hx
    | some longer =>
      have := ih ((spells_concat_iff h).mpr hx)
      rwa [List.append_assoc] at this

/-- Items that make a shape or nothing are the longest beginning if the next item, if there is one,
goes on with no shape. -/
theorem longestBeginning_of_stuck {w rest : List Item} {shape? : Option Shape}
    (hw : Spells w shape?)
    (hstuck : ∀ x, rest.head? = some x → x.symbol?.bind (grow? shape?) = none) :
    LongestBeginning (w ++ rest) shape? rest.head? := by
  refine ⟨w, rest, rfl, rfl, hw, fun w' longer? hprefix hw' => ?_⟩
  by_cases hle : w'.length ≤ w.length
  · exact hle
  -- Otherwise one item more makes a shape.
  obtain ⟨more, rfl⟩ : w <+: w' :=
    List.prefix_of_prefix_length_le (List.prefix_append ..) hprefix (by omega)
  cases more with
  | nil => simp at hle
  | cons x more =>
    rw [List.prefix_append_right_inj] at hprefix
    obtain ⟨rest', hrest⟩ := hprefix
    have hx := hstuck x (by rw [← hrest]; rfl)
    rw [show w ++ x :: more = (w ++ [x]) ++ more by simp] at hw'
    obtain ⟨shape?, hs⟩ := exists_spells_of_append hw'
    cases shape? with
    | none => simp [Spells] at hs
    | some shape => rw [(spells_concat_iff hw).mp hs] at hx; cases hx

/-- Reading on from nothing finds the longest beginning. -/
theorem longestBeginning_readOn (items : List Item) :
    LongestBeginning items (readOn none items).1 (readOn none items).2.head? := by
  obtain ⟨w, heq, hw, hstuck⟩ := readOn_spec spells_nil items
  rw [List.nil_append] at heq
  have := longestBeginning_of_stuck hw hstuck
  rwa [← heq] at this

/-- The item after the longest beginning goes on with no shape. -/
theorem LongestBeginning.exists_stuck {items : List Item} {shape? : Option Shape} {x : Item}
    (h : LongestBeginning items shape? (some x)) :
    ∃ w rest, items = w ++ x :: rest ∧ Spells w shape? ∧
      x.symbol?.bind (grow? shape?) = none := by
  obtain ⟨w, rest, rfl, hhead, hw, hmax⟩ := h
  obtain ⟨rest, rfl⟩ := List.head?_eq_some_iff.mp hhead
  refine ⟨w, rest, rfl, hw, ?_⟩
  rw [Option.eq_none_iff_forall_ne_some]
  intro longer hx
  have := hmax (w ++ [x]) (some longer) ⟨rest, by simp⟩ ((spells_concat_iff hw).mpr hx)
  rw [List.length_append, List.length_singleton] at this
  omega

/-- There is only one longest beginning. -/
theorem LongestBeginning.unique {items : List Item} {a? b? : Option Shape} {x? y? : Option Item}
    (ha : LongestBeginning items a? x?) (hb : LongestBeginning items b? y?) :
    a? = b? ∧ x? = y? := by
  obtain ⟨w, rest, rfl, rfl, hw, hmax⟩ := ha
  obtain ⟨w', rest', heq, rfl, hw', hmax'⟩ := hb
  have h1 := hmax w' b? ⟨rest', heq.symm⟩ hw'
  have h2 := hmax' w a? ⟨rest, rfl⟩ hw
  obtain ⟨rfl, rfl⟩ := List.append_inj heq (by omega)
  unfold Spells at hw hw'
  rw [hw, List.map_inj_right fun _ _ => Option.some.inj] at hw'
  exact ⟨symbols_elim_injective hw', rfl⟩

end IntervalExpr
