import StagedEvents.Text.Extending
import StagedEvents.Text.Unprintable

/-!
# Quoted text

A text between double quotes in which quotes, backslashes, line breaks and every
character that would not show as itself are written as escapes, so that the
reader of a message sees exactly which characters the text holds.
-/

namespace StagedEvents

/-- The lower-case hexadecimal digits of a number. -/
def hexText (n : Nat) : String := String.ofList (Nat.toDigits 16 n)

/-- One character of a quoted text: the short escapes, then the numbered escape
    for characters that would not show as themselves, then the character. -/
def escapedChar (c : Char) : String :=
  match c with
  | '\x00' => "\\0"
  | '\t' => "\\t"
  | '\r' => "\\r"
  | '\n' => "\\n"
  | '"' => "\\\""
  | '\\' => "\\\\"
  | _ =>
    if isExtending c || isUnprintable c then "\\u\x7b" ++ hexText c.toNat ++ "\x7d"
    else c.toString

/-- The text between double quotes, with escapes. -/
def quoted (text : String) : String :=
  "\"" ++ String.join (text.toList.map escapedChar) ++ "\""

end StagedEvents
