import IntervalExpr.Text.Unprintable

/-!
# Printable characters

A text is a sequence of Unicode characters. Surrogates are none of these, so that a text with a
surrogate standing alone is not covered here or anywhere else.

* `isPrintable`: a character may stand as it is in a message meant for people.
* `isPrintable_of_ascii`: in ASCII these are the characters from space to tilde.
-/

namespace IntervalExpr.Text

/-- A character is printable if it is neither a control, a format, a surrogate, a private use or
an unassigned character nor a separator other than the ASCII space. -/
def isPrintable (c : Char) : Bool :=
  if c.toNat < 0x80 then 0x20 ≤ c.toNat && c.toNat < 0x7f
  else !isUnprintableBeyondAscii c.toNat

/-- In ASCII the characters from space to tilde are printable. -/
theorem isPrintable_of_ascii {c : Char} (low : 0x20 ≤ c.toNat) (high : c.toNat < 0x7f) :
    isPrintable c = true := by
  unfold isPrintable
  rw [if_pos (by omega)]
  simp [low, high]

end IntervalExpr.Text
