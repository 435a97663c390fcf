import IntervalExpr.Proofs.Items

/-!
# What the tokens of a text are

Reading tokens one by one loses nothing but blanks, and takes every run of digits whole.

* `Cursor.HandsOut`: scanning again and again hands out some tokens and then stops.
* `Cursor.ScansTo`, `Cursor.scansTo_scan`: what one scan comes to.
* `Cursor.HandsOut.iff_tokens`: every text is scanned to an end, and in one way only.
* `Lexed`: the tokens of a text by their places in it.
* `Seam`, `isMaximalRun_of_drop`: a place that cuts no run of digits, and the numbers behind it.
* `Lexed.cons`: what one more token in front preserves.
* `Cursor.HandsOut.lexed`: what is handed out are the tokens of the text.
* `tokenize_exact`: the same for the start of a text.
-/

namespace IntervalExpr

/-- Where a token ends: the position after its last character. -/
def Token.stop (t : Token) : Nat := t.position + t.symbol.lexeme.length

/-! ## Scanning again and again -/

/-- Scanning from a place on hands out these tokens and then stops: at the end of the text, or at a
foreign character. -/
inductive Cursor.HandsOut : Cursor → List Token → Option (Char × Nat) → Prop
  | finished {cursor} : cursor.scan = .finished → HandsOut cursor [] none
  | illegal {cursor c p} : cursor.scan = .illegal c p → HandsOut cursor [] (some (c, p))
  | token {cursor t rest more stop?} : cursor.scan = .token t rest → HandsOut rest more stop? →
      HandsOut cursor (t :: more) stop?

/-- What a scan comes to: only blanks are left, or a foreign character or a symbol is next. -/
inductive Cursor.ScansTo (cursor : Cursor) : Scan → Prop
  | finished : Blanks cursor.unread → ScansTo cursor .finished
  | illegal {w c tail} : Blanks w → IsForeign c → cursor.unread = w ++ c :: tail →
      ScansTo cursor (.illegal c (cursor.position + w.length))
  | token {w t rest} : Blanks w → t.symbol.Before rest.unread →
      cursor.unread = w ++ (t.symbol.lexeme ++ rest.unread) →
      t.position = cursor.position + w.length → rest.position = t.stop →
      ScansTo cursor (.token t rest)

theorem Cursor.scansTo_scan (cursor : Cursor) : cursor.ScansTo cursor.scan := by
  obtain ⟨unread, p⟩ := cursor
  obtain ⟨items, hi⟩ := exists_itemized p unread
  cases hi with
  | nil hw =>
    rw [scan_blanks hw]
    exact .finished hw
  | symbol hw hs hrest =>
    rw [scan_symbol hw hs]
    exact .token hw hs rfl rfl rfl
  | foreign hw hc hrest =>
    rw [scan_foreign hw hc]
    exact .illegal hw hc rfl

namespace Cursor.HandsOut

variable {cursor : Cursor} {tokens : List Token} {stop? : Option (Char × Nat)}

/-- Every token is read from at least one character, so that scanning ends. -/
theorem length_le (h : cursor.HandsOut tokens stop?) : tokens.length ≤ cursor.unread.length := by
  induction h with
  | finished hs => exact Nat.zero_le _
  | illegal hs => exact Nat.zero_le _
  | token hs hrest ih =>
    have := length_of_scan hs
    rw [List.length_cons]
    omega

/-- Scanning ends wherever it starts. -/
theorem of_tokens (cursor : Cursor) : cursor.HandsOut cursor.tokens.1 cursor.tokens.2 := by
  fun_induction Cursor.tokens cursor with
  | case1 cursor hs => exact .finished hs
  | case2 cursor c p hs => exact .illegal hs
  | case3 cursor t rest hs hlt more ih => exact .token hs ih

/-- Each scan has one outcome only. -/
theorem eq_tokens (h : cursor.HandsOut tokens stop?) : cursor.tokens = (tokens, stop?) := by
  induction h with
  | finished hs =>
    rw [Cursor.tokens]
    split <;> simp_all
  | illegal hs =>
    rw [Cursor.tokens]
    split <;> simp_all
  | token hs hrest ih =>
    rw [Cursor.tokens]
    split <;> simp_all

theorem iff_tokens : cursor.HandsOut tokens stop? ↔ cursor.tokens = (tokens, stop?) := by
  refine ⟨eq_tokens, fun h => ?_⟩
  have := of_tokens cursor
  rwa [h] at this

end Cursor.HandsOut

/-! ## Tokens by their places -/

/-- All characters of a text from one position up to another are blanks. -/
def BlankBetween (text : List Char) (i j : Nat) : Prop :=
  ∀ k c, i ≤ k → k < j → text[k]? = some c → isBlank c = true

/-- From one position up to another a text has digits, with a digit neither before nor behind. -/
structure IsMaximalRun (text : List Char) (i j : Nat) : Prop where
  isDigit : ∀ k, i ≤ k → k < j → ∃ c, text[k]? = some c ∧ c.isDigit = true
  left : ∀ k c, k + 1 = i → text[k]? = some c → c.isDigit = false
  right : ∀ c, text[j]? = some c → c.isDigit = false

/-- Where the last of some tokens ends, or `i` if there are none. -/
def endFrom (i : Nat) (tokens : List Token) : Nat := tokens.getLast?.elim i Token.stop

/-- What is left of a text from position `i` on consists of these tokens with blanks around them, up
to the end of the text or to the first foreign character. -/
structure Lexed (text : List Char) (i : Nat) (tokens : List Token) (stop? : Option (Char × Nat)) :
    Prop where
  /-- A token is a part of the text that is not empty. -/
  slice : ∀ t ∈ tokens, t.symbol.lexeme ≠ [] ∧
    (text.drop t.position).take t.symbol.lexeme.length = t.symbol.lexeme
  start_le : ∀ t ∈ tokens, i ≤ t.position
  ascending : tokens.Pairwise fun s t => s.position < t.position ∧ s.stop ≤ t.position
  /-- There are only blanks in front of a token, from the end of the one before it on. -/
  gap : ∀ front t back, tokens = front ++ t :: back →
    BlankBetween text (endFrom i front) t.position
  maximal : ∀ t ∈ tokens, ∀ digits, t.symbol = .integer digits →
    IsMaximalRun text t.position t.stop
  finished : stop? = none → BlankBetween text (endFrom i tokens) text.length
  foreign : ∀ c p, stop? = some (c, p) → text[p]? = some c ∧ IsForeign c ∧
    BlankBetween text (endFrom i tokens) p ∧
    ∀ k d, i ≤ k → k < p → text[k]? = some d → ¬ IsForeign d

theorem endFrom_nil {i : Nat} : endFrom i [] = i := rfl

theorem endFrom_cons {i : Nat} {t : Token} {tokens : List Token} :
    endFrom i (t :: tokens) = endFrom t.stop tokens := by
  unfold endFrom
  rw [List.getLast?_cons]
  cases tokens.getLast? <;> rfl

section Places

variable {text w front back : List Char} {i k : Nat} {c : Char}

/-- A character behind a position, counted from that position on. -/
theorem getElem?_of_drop (h : text.drop i = front ++ back) (hle : i ≤ k)
    (hlt : k < i + front.length) : text[k]? = front[k - i]? := by
  have hk : text[k]? = (text.drop i)[k - i]? := by
    rw [List.getElem?_drop, Nat.add_sub_cancel' hle]
  rw [hk, h, List.getElem?_append_left (by omega)]

theorem mem_of_drop (h : text.drop i = front ++ back) (hle : i ≤ k) (hlt : k < i + front.length)
    (hc : text[k]? = some c) : c ∈ front := by
  rw [getElem?_of_drop h hle hlt] at hc
  exact List.mem_of_getElem? hc

theorem getElem?_of_drop_cons (h : text.drop i = c :: back) : text[i]? = some c := by
  rw [← Nat.add_zero i, ← List.getElem?_drop, h]
  rfl

theorem drop_add_length (h : text.drop i = front ++ back) :
    text.drop (i + front.length) = back := by
  rw [← List.drop_drop, h, List.drop_left]

theorem blankBetween_of_drop (hw : Blanks w) (h : text.drop i = w ++ back) :
    BlankBetween text i (i + w.length) :=
  fun _ _ hle hlt hc => hw _ (mem_of_drop h hle hlt hc)

/-- Behind a token the text goes on with what is left to read. -/
theorem drop_of_scan {cursor rest : Cursor} {t : Token}
    (htext : text.drop cursor.position = cursor.unread) (hs : cursor.scan = .token t rest) :
    text.drop rest.position = rest.unread := by
  have hscan := hs ▸ cursor.scansTo_scan
  cases hscan with
  | token hw hb hu hp hr =>
    have hdrop := drop_add_length (htext.trans hu)
    rw [← hp] at hdrop
    rw [hr]
    exact drop_add_length hdrop

/-- A blank is not foreign. -/
theorem not_isForeign_of_blank (h : isBlank c = true) : ¬ IsForeign c := by
  intro hc
  rw [hc.not_blank] at h
  cases h

/-- A character of a symbol is not foreign. -/
theorem Symbol.Before.not_isForeign {symbol : Symbol} (h : symbol.Before back)
    (hc : c ∈ symbol.lexeme) : ¬ IsForeign c := by
  intro hf
  cases symbol with
  | star => exact hf.ne_star (List.mem_singleton.mp hc)
  | dash => exact hf.ne_dash (List.mem_singleton.mp hc)
  | integer digits =>
    have hd := h.1.isDigit c hc
    rw [hf.not_digit] at hd
    cases hd

theorem Symbol.Before.lexeme_ne_nil {symbol : Symbol} (h : symbol.Before back) :
    symbol.lexeme ≠ [] := by
  cases symbol with
  | star => simp [Symbol.lexeme]
  | dash => simp [Symbol.lexeme]
  | integer digits => exact h.1.ne_nil

end Places

/-- A place between two characters that does not cut a run of digits in two. -/
def Seam (text : List Char) (i : Nat) : Prop :=
  ∀ k c d, k + 1 = i → text[k]? = some c → text[i]? = some d → c.isDigit = true →
    d.isDigit = false

section Step

variable {text w tail : List Char} {i : Nat} {t : Token} {c : Char} {more : List Token}
  {stop? : Option (Char × Nat)}

theorem seam_zero : Seam text 0 := by
  intro k c d hk
  cases hk

/-- Behind a token, no run of digits is cut in two. -/
theorem seam_stop (hb : t.symbol.Before tail)
    (htext : text.drop t.position = t.symbol.lexeme ++ tail) : Seam text t.stop := by
  intro k c d hk hc hd hdigit
  have hlen : 0 < t.symbol.lexeme.length := List.length_pos_iff.mpr hb.lexeme_ne_nil
  have hmem : c ∈ t.symbol.lexeme := by
    unfold Token.stop at hk
    exact mem_of_drop htext (by omega) (by omega) hc
  cases hs : t.symbol with
  | star =>
    rw [hs] at hmem
    rw [List.mem_singleton.mp hmem] at hdigit
    cases hdigit
  | dash =>
    rw [hs] at hmem
    rw [List.mem_singleton.mp hmem] at hdigit
    cases hdigit
  | integer digits =>
    have hrest := drop_add_length htext
    rw [hs] at hb
    apply hb.2
    rw [← hrest, List.head?_drop]
    exact hd

/-- Nor is one cut in two behind blanks. -/
theorem Seam.skip (hseam : Seam text i) (hw : Blanks w) (htext : text.drop i = w ++ tail) :
    Seam text (i + w.length) := by
  intro k c d hk hc hd hdigit
  by_cases hnil : w = []
  · subst hnil
    exact hseam k c d hk hc hd hdigit
  · have hpos : 0 < w.length := List.length_pos_iff.mpr hnil
    have hblank := hw c (mem_of_drop htext (by omega) (by omega) hc)
    rw [not_blank_of_isDigit hdigit] at hblank
    cases hblank

/-- A number is a maximal run of digits, if none is cut in two in front of it. -/
theorem isMaximalRun_of_drop (hseam : Seam text t.position) (hb : t.symbol.Before tail)
    (htext : text.drop t.position = t.symbol.lexeme ++ tail) {digits : List Char}
    (hs : t.symbol = .integer digits) : IsMaximalRun text t.position t.stop := by
  have hlex : t.symbol.lexeme = digits := by rw [hs]; rfl
  have hright : text[t.stop]? = tail.head? := by
    rw [← drop_add_length htext, List.head?_drop]
    rfl
  rw [hs] at hb
  rw [hlex] at htext
  have hget : ∀ k, t.position ≤ k → k < t.position + digits.length →
      ∃ c, text[k]? = some c ∧ c.isDigit = true := fun k hle hlt => by
    rw [getElem?_of_drop htext hle hlt, List.getElem?_eq_getElem (by omega)]
    exact ⟨_, rfl, hb.1.isDigit _ (List.getElem_mem _)⟩
  constructor
  case isDigit =>
    intro k hle hlt
    rw [Token.stop, hlex] at hlt
    exact hget k hle hlt
  case left =>
    intro k c hk hc
    have hlen : 0 < digits.length := List.length_pos_iff.mpr hb.1.ne_nil
    obtain ⟨d, hd, hdigit⟩ := hget t.position (Nat.le_refl _) (by omega)
    rw [← Bool.not_eq_true]
    intro hcdigit
    rw [hseam k c d hk hc hd hcdigit] at hdigit
    cases hdigit
  case right =>
    intro c hc
    rw [hright] at hc
    exact hb.2 c hc

/-- Where only blanks are left, there are no tokens. -/
theorem lexed_of_blanks (hw : Blanks w) (htext : text.drop i = w) : Lexed text i [] none := by
  refine ⟨nofun, nofun, .nil, fun front t back h => ?_, nofun, fun _ => ?_, nofun⟩
  · exact absurd h (by simp)
  · intro k c hle hlt hc
    rw [endFrom_nil] at hle
    have hall : text.drop i = w ++ [] := by rw [htext, List.append_nil]
    refine hw c (mem_of_drop hall hle ?_ hc)
    rw [← htext, List.length_drop]
    omega

/-- In front of a foreign character there are no tokens. -/
theorem lexed_of_foreign (hw : Blanks w) (hc : IsForeign c) (htext : text.drop i = w ++ c :: tail) :
    Lexed text i [] (some (c, i + w.length)) := by
  have hblank : BlankBetween text i (i + w.length) := blankBetween_of_drop hw htext
  refine ⟨nofun, nofun, .nil, fun front t back h => ?_, nofun, nofun, fun d p h => ?_⟩
  · exact absurd h (by simp)
  · obtain ⟨rfl, rfl⟩ := Prod.mk.inj (Option.some.inj h)
    refine ⟨getElem?_of_drop_cons (drop_add_length htext), hc, hblank, fun k d hle hlt hd => ?_⟩
    exact not_isForeign_of_blank (hblank k d hle hlt hd)

/-- A symbol behind blanks is the first token, and the other tokens are those behind it. -/
theorem Lexed.cons (hrest : Lexed text t.stop more stop?) (hseam : Seam text i) (hw : Blanks w)
    (hb : t.symbol.Before tail) (htext : text.drop i = w ++ (t.symbol.lexeme ++ tail))
    (hp : t.position = i + w.length) : Lexed text i (t :: more) stop? := by
  have hle : i ≤ t.position := by omega
  have hstop : t.position < t.stop := by
    have := List.length_pos_iff.mpr hb.lexeme_ne_nil
    unfold Token.stop
    omega
  have hblank : BlankBetween text i t.position := hp ▸ blankBetween_of_drop hw htext
  have hdrop : text.drop t.position = t.symbol.lexeme ++ tail := hp ▸ drop_add_length htext
  constructor
  case slice =>
    refine List.forall_mem_cons.mpr ⟨⟨hb.lexeme_ne_nil, ?_⟩, hrest.slice⟩
    rw [hdrop, List.take_left]
  case start_le =>
    refine List.forall_mem_cons.mpr ⟨hle, fun s hs => ?_⟩
    have := hrest.start_le s hs
    omega
  case ascending =>
    refine List.pairwise_cons.mpr ⟨fun s hs => ?_, hrest.ascending⟩
    have := hrest.start_le s hs
    omega
  case gap =>
    intro front s back h
    obtain ⟨rfl, heq⟩ | ⟨front', rfl, heq⟩ := List.cons_eq_append_iff.mp h
    · cases heq
      exact hblank
    · rw [endFrom_cons]
      exact hrest.gap front' s back heq
  case maximal =>
    refine List.forall_mem_cons.mpr ⟨fun digits hs => ?_, hrest.maximal⟩
    exact isMaximalRun_of_drop (hp ▸ hseam.skip hw htext) hb hdrop hs
  case finished =>
    rw [endFrom_cons]
    exact hrest.finished
  case foreign =>
    intro c p h
    obtain ⟨hc, hf, hgap, hfirst⟩ := hrest.foreign c p h
    rw [endFrom_cons]
    refine ⟨hc, hf, hgap, fun k d hik hkp hd => ?_⟩
    -- The character is a blank before the token, one of the token or one behind it.
    by_cases hbefore : k < t.position
    · exact not_isForeign_of_blank (hblank k d hik hbefore hd)
    by_cases hin : k < t.stop
    · unfold Token.stop at hin
      exact hb.not_isForeign (mem_of_drop hdrop (by omega) hin hd)
    · exact hfirst k d (by omega) hkp hd

end Step

/-- What is handed out from a place in a text are the tokens from there on. -/
theorem Cursor.HandsOut.lexed {text : List Char} {cursor : Cursor} {tokens : List Token}
    {stop? : Option (Char × Nat)} (h : cursor.HandsOut tokens stop?)
    (htext : text.drop cursor.position = cursor.unread) (hseam : Seam text cursor.position) :
    Lexed text cursor.position tokens stop? := by
  induction h with
  | finished hs =>
    have hscan := hs ▸ Cursor.scansTo_scan _
    cases hscan with
    | finished hw => exact lexed_of_blanks hw htext
  | illegal hs =>
    have hscan := hs ▸ Cursor.scansTo_scan _
    cases hscan with
    | illegal hw hc hu => exact lexed_of_foreign hw hc (htext.trans hu)
  | token hs hrest ih =>
    have hbehind := drop_of_scan htext hs
    have hscan := hs ▸ Cursor.scansTo_scan _
    cases hscan with
    | token hw hb hu hp hr =>
      rw [hu] at htext
      rw [hr] at ih hbehind
      exact (ih hbehind (seam_stop hb (hp ▸ drop_add_length htext))).cons hseam hw hb htext hp

/-- Scanning a text comes to an end, in one way, after no more tokens than it has characters. Every
token is a part of the text at its position; one follows the other, with nothing but blanks in front
of each; a number is a maximal run of digits. In the end only blanks are left, or the first foreign
character of the text is met. -/
theorem tokenize_exact (text : String) :
    (∀ tokens stop?,
      (Cursor.ofText text).HandsOut tokens stop? ↔ tokenize text = (tokens, stop?)) ∧
    (tokenize text).1.length ≤ text.length ∧
    Lexed text.toList 0 (tokenize text).1 (tokenize text).2 := by
  have h : (Cursor.ofText text).HandsOut (tokenize text).1 (tokenize text).2 :=
    Cursor.HandsOut.of_tokens _
  exact ⟨fun tokens stop? => Cursor.HandsOut.iff_tokens, h.length_le, h.lexed rfl seam_zero⟩

-- Blanks part two numbers, and a digit of another script is foreign.
example : tokenize " 12 3-\t4²5" =
    ([⟨.integer ['1', '2'], 1⟩, ⟨.integer ['3'], 4⟩, ⟨.dash, 5⟩, ⟨.integer ['4'], 7⟩],
      some ('²', 8)) := by cbv

end IntervalExpr
