import StagedEvents.Json.Value

/-!
# Reading JSON

`Json.read?` reads one JSON value that makes up a whole text. The grammar is the
strict one: no leading zeros, no comma at the end of a list, no comments, and
nothing but spaces, tabs and line breaks between the tokens.

A value is read with a budget that falls by one at every nested value and is as
large as the text is long, which no nesting can exceed.
-/

namespace StagedEvents.Json

/-- Whether the character may stand between tokens. -/
def isSpace (c : Char) : Bool := c == ' ' || c == '\n' || c == '\t' || c == '\r'

/-- The rest of the text from its next token on. -/
def skipSpace (text : List Char) : List Char := text.dropWhile isSpace

/-! ## Numbers -/

/-- The digits at the start of a text and the rest. -/
def spanDigits (text : List Char) : List Char × List Char :=
  (text.takeWhile isDecimalDigit, text.dropWhile isDecimalDigit)

/-- The whole part of a number: a single zero, or digits that start with another. -/
def readWhole? (text : List Char) : Option (List Char × List Char) :=
  match spanDigits text with
  | ([], _) => none
  | (['0'], rest) => some (['0'], rest)
  | ('0' :: _, _) => none
  | (digits, rest) => some (digits, rest)

/-- The digits after a point, if one comes next. -/
def readPlaces? (text : List Char) : Option (Option (List Char) × List Char) :=
  match text with
  | '.' :: rest =>
    match spanDigits rest with
    | ([], _) => none
    | (digits, rest) => some (some digits, rest)
  | _ => some (none, text)

/-- The exponent of a number, if one comes next. -/
def readExponent? (text : List Char) : Option (Option (Bool × List Char) × List Char) :=
  match text with
  | c :: rest =>
    if c == 'e' || c == 'E' then
      let (negative, rest) := splitSign rest
      match spanDigits rest with
      | ([], _) => none
      | (digits, rest) => some (some (negative, digits), rest)
    else some (none, text)
  | [] => some (none, text)

/-- A number and the rest of the text. -/
def readNumeral? (text : List Char) : Option (Numeral × List Char) := do
  let (negative, afterSign) :=
    match text with
    | '-' :: rest => (true, rest)
    | _ => (false, text)
  let (whole, afterWhole) ← readWhole? afterSign
  let (places, afterPlaces) ← readPlaces? afterWhole
  let (exponent, rest) ← readExponent? afterPlaces
  return ({ negative, whole, places, exponent }, rest)

/-! ## Strings -/

/-- The value of a hexadecimal digit. -/
def hexDigit? (c : Char) : Option Nat :=
  if '0' ≤ c ∧ c ≤ '9' then some (c.toNat - '0'.toNat)
  else if 'a' ≤ c ∧ c ≤ 'f' then some (c.toNat - 'a'.toNat + 10)
  else if 'A' ≤ c ∧ c ≤ 'F' then some (c.toNat - 'A'.toNat + 10)
  else none

/-- The code unit written with four hexadecimal digits at the start of a text. -/
def readUnit? : List Char → Option (Nat × List Char)
  | a :: b :: c :: d :: rest => do
    let a ← hexDigit? a
    let b ← hexDigit? b
    let c ← hexDigit? c
    let d ← hexDigit? d
    return (((a * 16 + b) * 16 + c) * 16 + d, rest)
  | _ => none

/-- One step of a string: a character as such, or a code unit from an escape. -/
inductive Piece where
  | char (c : Char)
  | unit (code : Nat)

/-- What a one-letter escape stands for. -/
def shortEscape? : Char → Option Char
  | '"' => some '"'
  | '\\' => some '\\'
  | '/' => some '/'
  | 'b' => some '\x08'
  | 'f' => some '\x0c'
  | 'n' => some '\n'
  | 'r' => some '\r'
  | 't' => some '\t'
  | _ => none

/-- The pieces of a string up to its closing quote, and the rest of the text. Control
    characters may only be written as escapes. -/
def readPieces? : (budget : Nat) → List Char → Option (List Piece × List Char)
  | 0, _ => none
  | budget + 1, text =>
    match text with
    | [] => none
    | '"' :: rest => some ([], rest)
    | '\\' :: 'u' :: rest => do
      let (code, rest) ← readUnit? rest
      let (pieces, rest) ← readPieces? budget rest
      return (.unit code :: pieces, rest)
    | '\\' :: c :: rest => do
      let c ← shortEscape? c
      let (pieces, rest) ← readPieces? budget rest
      return (.char c :: pieces, rest)
    | c :: rest =>
      if c.toNat < 0x20 || c == '\\' then none
      else do
        let (pieces, rest) ← readPieces? budget rest
        return (.char c :: pieces, rest)

/-- Whether the code unit is the first half of a surrogate pair. -/
def isHighHalf (code : Nat) : Bool := 0xD800 ≤ code && code < 0xDC00

/-- Whether the code unit is the second half of a surrogate pair. -/
def isLowHalf (code : Nat) : Bool := 0xDC00 ≤ code && code < 0xE000

/-- The characters that the pieces of a string spell: two halves of a surrogate pair
    make one character, and a half alone makes none. -/
def assemble? : List Piece → Option (List Char)
  | [] => some []
  | .char c :: rest => (assemble? rest).map (c :: ·)
  | .unit high :: .unit low :: rest =>
    if isHighHalf high then
      if isLowHalf low then
        let code := 0x10000 + (high - 0xD800) * 0x400 + (low - 0xDC00)
        (assemble? rest).map (Char.ofNat code :: ·)
      else none
    else if isLowHalf high then none
    else (assemble? (.unit low :: rest)).map (Char.ofNat high :: ·)
  | .unit code :: rest =>
    if isHighHalf code || isLowHalf code then none
    else (assemble? rest).map (Char.ofNat code :: ·)

/-- A string after its opening quote: its text, if it spells one, and the rest. -/
def readString? (text : List Char) : Option (Option String × List Char) :=
  (readPieces? (text.length + 1) text).map fun (pieces, rest) =>
    ((assemble? pieces).map String.ofList, rest)

/-! ## Values -/

/-- The rest of the text after a word that it starts with. -/
def afterWord? (word : String) (text : List Char) : Option (List Char) :=
  if word.toList.isPrefixOf text then some (text.drop word.length) else none

mutual

/-- The value at the start of a text and the rest. -/
def readValue? : (budget : Nat) → List Char → Option (Json × List Char)
  | 0, _ => none
  | budget + 1, text =>
    match skipSpace text with
    | '[' :: rest =>
      match skipSpace rest with
      | ']' :: rest => some (.array [], rest)
      | rest => (readItems? budget rest).map fun (items, rest) => (.array items, rest)
    | '\x7b' :: rest =>
      match skipSpace rest with
      | '\x7d' :: rest => some (.object [], rest)
      | rest => (readMembers? budget rest).map fun (members, rest) => (.object members, rest)
    | '"' :: rest => (readString? rest).map fun (value, rest) => (.string value, rest)
    | 'n' :: rest => (afterWord? "ull" rest).map fun rest => (.null, rest)
    | 't' :: rest => (afterWord? "rue" rest).map fun rest => (.truth true, rest)
    | 'f' :: rest => (afterWord? "alse" rest).map fun rest => (.truth false, rest)
    | rest => (readNumeral? rest).map fun (numeral, rest) => (.number numeral, rest)

/-- The items of an array from the first one on, up to its closing bracket. -/
def readItems? : (budget : Nat) → List Char → Option (List Json × List Char)
  | 0, _ => none
  | budget + 1, text =>
    match readValue? budget text with
    | none => none
    | some (item, rest) =>
      match skipSpace rest with
      | ']' :: rest => some ([item], rest)
      | ',' :: rest => (readItems? budget rest).map fun (items, rest) => (item :: items, rest)
      | _ => none

/-- The members of an object from the first one on, up to its closing brace. -/
def readMembers? : (budget : Nat) → List Char → Option (List (Option String × Json) × List Char)
  | 0, _ => none
  | budget + 1, text =>
    match skipSpace text with
    | '"' :: rest =>
      match readString? rest with
      | none => none
      | some (key, rest) =>
        match skipSpace rest with
        | ':' :: rest =>
          match readValue? budget rest with
          | none => none
          | some (value, rest) =>
            match skipSpace rest with
            | '\x7d' :: rest => some ([(key, value)], rest)
            | ',' :: rest =>
              (readMembers? budget rest).map fun (members, rest) => ((key, value) :: members, rest)
            | _ => none
        | _ => none
    | _ => none

end

/-- The value that a text consists of. -/
def read? (text : String) : Option Json :=
  match readValue? (2 * text.length + 2) text.toList with
  | some (value, rest) => if (skipSpace rest).isEmpty then some value else none
  | none => none

end StagedEvents.Json
