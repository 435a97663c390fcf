import IntervalExpr.Text.Printable

/-!
# Quoted text

Messages show foreign text between quotes, with every unprintable character replaced by an escape,
so that the text can be read off a message and the message can be printed on one line. Surrogates,
which are no characters, do not occur.

* `quoteMark`: the mark is an apostrophe, unless the text holds one and no quotation mark.
* `escape`: the mark and the backslash follow a backslash, tab, line feed and carriage return have
  a letter each, other unprintable characters become two, four or eight hexadecimal digits.
* `quote`: the escaped text between two marks.
-/

namespace IntervalExpr.Text

def apostrophe : Char := '\x27'

def quotationMark : Char := '\x22'

def backslash : Char := '\x5c'

/-- The lowest `width` hexadecimal digits of a number, in lower case. -/
def hexDigits : Nat → Nat → List Char
  | 0, _ => []
  | width + 1, n => hexDigits width (n / 16) ++ [Nat.digitChar (n % 16)]

theorem length_hexDigits (width n : Nat) : (hexDigits width n).length = width := by
  induction width generalizing n with
  | zero => rfl
  | succ width ih => simp [hexDigits, ih]

/-- The mark that encloses a text: an apostrophe, unless the text holds an apostrophe and no
quotation mark. -/
def quoteMark (text : List Char) : Char :=
  if apostrophe ∈ text ∧ quotationMark ∉ text then quotationMark else apostrophe

/-- The numeric escape of a character, with as few of two, four and eight digits as hold it. -/
def numericEscape (c : Char) : List Char :=
  if c.toNat < 0x100 then backslash :: 'x' :: hexDigits 2 c.toNat
  else if c.toNat < 0x10000 then backslash :: 'u' :: hexDigits 4 c.toNat
  else backslash :: 'U' :: hexDigits 8 c.toNat

/-- How one character is written between two marks. -/
def escape (mark c : Char) : List Char :=
  if c = mark ∨ c = backslash then [backslash, c]
  else if c = '\t' then [backslash, 't']
  else if c = '\n' then [backslash, 'n']
  else if c = '\r' then [backslash, 'r']
  else if isPrintable c then [c]
  else numericEscape c

/-- What stands between the marks. -/
def escapeAll (mark : Char) (text : List Char) : List Char :=
  text.flatMap (escape mark)

/-- The characters of the quoted form of a text. -/
def quoted (text : List Char) : List Char :=
  quoteMark text :: escapeAll (quoteMark text) text ++ [quoteMark text]

/-- The quoted form of a text. -/
def quote (text : String) : String :=
  String.ofList (quoted text.toList)

theorem toList_quote (text : String) : (quote text).toList = quoted text.toList :=
  String.toList_ofList

end IntervalExpr.Text
