/-!
# Tokens

A subexpression is read as a sequence of tokens: stars, dashes and unbroken runs of ASCII digits.
Six blank characters may stand before, between and after them; any other character is a fault. Texts
are sequences of Unicode characters; surrogates, which stand for no character, are left out.

* `isBlank`, `isBlank_iff`: the blank characters.
* `Cursor`: what is left to read of a text, and how many characters have been read.
* `Cursor.scan`: the next token, found on demand.
* `Cursor.length_of_scan`: a token is not empty, so that reading ends.
* `Cursor.tokens`: all tokens up to the end of the text or to the first foreign character.
-/

namespace IntervalExpr

/-- What a token stands for. -/
inductive Symbol where
  | star
  | dash
  | integer (digits : List Char)
  deriving DecidableEq

/-- The characters of a symbol. -/
def Symbol.lexeme : Symbol → List Char
  | .star => ['*']
  | .dash => ['-']
  | .integer digits => digits

/-- A symbol at its place in a text; positions count characters from zero. -/
structure Token where
  symbol : Symbol
  position : Nat
  deriving DecidableEq

/-- The characters that may stand around tokens: space, tab, carriage return, line feed, form feed
and vertical tab. -/
def isBlank (c : Char) : Bool :=
  c = ' ' || c = '\t' || c = '\r' || c = '\n' || c = '\x0c' || c = '\x0b'

/-- There are six blank characters. -/
theorem isBlank_iff {c : Char} : isBlank c = true ↔
    c = ' ' ∨ c = '\t' ∨ c = '\r' ∨ c = '\n' ∨ c = '\x0c' ∨ c = '\x0b' := by
  simp only [isBlank, Bool.or_eq_true, decide_eq_true_eq, or_assoc]

/-- A place in a text. -/
structure Cursor where
  unread : List Char
  position : Nat
  deriving DecidableEq

/-- What reading on from a place comes to. -/
inductive Scan where
  /-- Only blanks are left. -/
  | finished
  /-- A token, and the place after it. -/
  | token (token : Token) (rest : Cursor)
  /-- A character that belongs to no token. -/
  | illegal (char : Char) (position : Nat)
  deriving DecidableEq

namespace Cursor

/-- The start of a text. -/
def ofText (text : String) : Cursor :=
  ⟨text.toList, 0⟩

def skipBlanks (cursor : Cursor) : Cursor :=
  ⟨cursor.unread.dropWhile isBlank, cursor.position + (cursor.unread.takeWhile isBlank).length⟩

theorem length_skipBlanks (cursor : Cursor) :
    cursor.skipBlanks.unread.length ≤ cursor.unread.length :=
  (List.dropWhile_sublist _).length_le

/-- Reads the next token, after any blanks. A run of digits is read as far as it goes. -/
def scan (cursor : Cursor) : Scan :=
  let position := cursor.skipBlanks.position
  match cursor.skipBlanks.unread with
  | [] => .finished
  | c :: rest =>
    if c = '*' then .token ⟨.star, position⟩ ⟨rest, position + 1⟩
    else if c = '-' then .token ⟨.dash, position⟩ ⟨rest, position + 1⟩
    else if c.isDigit then
      let digits := c :: rest.takeWhile Char.isDigit
      .token ⟨.integer digits, position⟩ ⟨rest.dropWhile Char.isDigit, position + digits.length⟩
    else .illegal c position

/-- A token is not empty: less is left to read after it. -/
theorem length_of_scan {cursor rest : Cursor} {token : Token}
    (h : cursor.scan = .token token rest) : rest.unread.length < cursor.unread.length := by
  have hskip := length_skipBlanks cursor
  unfold scan at h
  cases hu : cursor.skipBlanks.unread with
  | nil => simp [hu] at h
  | cons c tail =>
    rw [hu, List.length_cons] at hskip
    have hdrop := (List.dropWhile_sublist (p := Char.isDigit) (l := tail)).length_le
    simp only [hu] at h
    split at h
    · obtain ⟨rfl, rfl⟩ := Scan.token.inj h
      simp only
      omega
    · split at h
      · obtain ⟨rfl, rfl⟩ := Scan.token.inj h
        simp only
        omega
      · split at h
        · obtain ⟨rfl, rfl⟩ := Scan.token.inj h
          simp only
          omega
        · simp at h

/-- All tokens from a place on, and the foreign character that stops the reading, if one does,
with its position. -/
def tokens (cursor : Cursor) : List Token × Option (Char × Nat) :=
  match h : cursor.scan with
  | .finished => ([], none)
  | .illegal char position => ([], some (char, position))
  | .token token rest =>
    have := length_of_scan h
    let more := rest.tokens
    (token :: more.1, more.2)
termination_by cursor.unread.length

end Cursor

/-- All tokens of a text, and the foreign character that stops the reading, if one does. -/
def tokenize (text : String) : List Token × Option (Char × Nat) :=
  (Cursor.ofText text).tokens

end IntervalExpr
