import Dialogue.Text.Numeral
import Dialogue.Text.Printable

/-!
# Quoted text

How a text is shown inside a description or a message. It stands between two marks: the apostrophe,
unless the text holds an apostrophe and no double quote, in which case the double quote. Inside, the
backslash and the mark itself are escaped by a backslash, the tab and the two line controls have
escapes of their own, and every other character without a visible form is written as the hexadecimal
number of its code point, two, four or eight digits long. Everything else stands as it is.
-/

namespace Dialogue

/-- The apostrophe, the mark that text is quoted with by preference. -/
def apostrophe : Char := '\x27'

/-- The double quote, the mark for text that holds apostrophes only. -/
def doubleQuote : Char := '\x22'

namespace Quoted

/-- The mark that a text is quoted with. -/
def mark (t : Text) : Char :=
  if t.contains apostrophe && !t.contains doubleQuote then doubleQuote else apostrophe

/-- The shortest numeric escape that holds a code point. -/
def numeric (c : Char) : Text :=
  if c.toNat < 0x100 then '\\' :: 'x' :: hexDigits 2 c.toNat
  else if c.toNat < 0x10000 then '\\' :: 'u' :: hexDigits 4 c.toNat
  else '\\' :: 'U' :: hexDigits 8 c.toNat

/-- How one character is written between two `mark`s. -/
def escape (mark c : Char) : Text :=
  if c = '\\' ∨ c = mark then ['\\', c]
  else if c = '\t' then ['\\', 't']
  else if c = '\n' then ['\\', 'n']
  else if c = '\r' then ['\\', 'r']
  else if isPrintable c then [c]
  else numeric c

/-- A text in its marks. -/
def encode (t : Text) : Text :=
  mark t :: t.flatMap (escape (mark t)) ++ [mark t]

end Quoted

/-- **A text as it is quoted** in descriptions and messages. -/
def Text.quoted (t : Text) : String :=
  String.ofList (Quoted.encode t)

end Dialogue
