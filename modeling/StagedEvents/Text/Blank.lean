/-!
# Blank space around a text

The characters with the Unicode property White_Space, and the text that is left
when they are taken from both ends.
-/

namespace StagedEvents

/-- The characters that count as blank space: the ASCII controls from tab to
    carriage return, the next-line control, and the space separators. -/
def blankChars : List Char :=
  ['\t', '\n', '\x0b', '\x0c', '\r', ' ', '\u0085', '\u00a0', '\u1680', '\u2000', '\u2001',
   '\u2002', '\u2003', '\u2004', '\u2005', '\u2006', '\u2007', '\u2008', '\u2009', '\u200a',
   '\u2028', '\u2029', '\u202f', '\u205f', '\u3000']

/-- Whether the character is blank space. -/
def isBlank (c : Char) : Bool := blankChars.contains c

/-- The text without the blank space at its two ends. -/
def trimBlanks (text : List Char) : List Char :=
  (((text.dropWhile isBlank).reverse).dropWhile isBlank).reverse

end StagedEvents
