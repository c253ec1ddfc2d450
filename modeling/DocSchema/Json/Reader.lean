import DocSchema.Json.Basic
import DocSchema.Keyed
import DocSchema.Double.Reader

/-!
# Reading JSON text

Strict JSON with white space around every token. Arrays and objects may be nested up to a
given depth. Members are read as they are written; as a value, an object keeps of equal
keys the last value in the first one's place. The readers below take the characters
still to be read and give back a value with the characters after it. They descend on
fuel computed from the length of the text: of two calls on the way to a value at least
one consumes a character, so twice the characters to be read are left for every string.
-/

namespace DocSchema.Json

-- Powers of the core library, as in `DocSchema.Double.Basic`.
attribute [local instance(high)] instPowNat

def isSpace (character : Char) : Bool :=
  character == ' ' || character == '\n' || character == '\t' || character == '\r'

def skipSpace (characters : List Char) : List Char := characters.dropWhile isSpace

/-! ### Strings -/

/-- The value of a hexadecimal digit. -/
def hexValue? (digit : Char) : Option Nat :=
  if digit.isDigit then some (digit.toNat - '0'.toNat)
  else if 'a' ≤ digit && digit ≤ 'f' then some (digit.toNat - 'a'.toNat + 10)
  else if 'A' ≤ digit && digit ≤ 'F' then some (digit.toNat - 'A'.toNat + 10)
  else none

/-- The code unit that four hexadecimal digits write. -/
def codeUnit? : List Char → Option (Nat × List Char)
  | a :: b :: c :: d :: rest => do
    let a ← hexValue? a
    let b ← hexValue? b
    let c ← hexValue? c
    let d ← hexValue? d
    pure (((a * 16 + b) * 16 + c) * 16 + d, rest)
  | _ => none

/-- The character a `\u` escape writes, after its `u`. A high surrogate must be followed
by the escape of a low one; a surrogate alone is refused. -/
def unicodeEscape? (characters : List Char) : Option (Char × List Char) := do
  let (unit, rest) ← codeUnit? characters
  if 0xDC00 ≤ unit && unit ≤ 0xDFFF then none
  else if 0xD800 ≤ unit && unit ≤ 0xDBFF then
    match rest with
    | '\\' :: 'u' :: more =>
      let (low, rest) ← codeUnit? more
      if 0xDC00 ≤ low && low ≤ 0xDFFF then
        pure (Char.ofNat (0x10000 + (unit - 0xD800) * 0x400 + (low - 0xDC00)), rest)
      else none
    | _ => none
  else pure (Char.ofNat unit, rest)

/-- The character an escape writes, after its backslash. -/
def escape? : List Char → Option (Char × List Char)
  | '"' :: rest => some ('"', rest)
  | '\\' :: rest => some ('\\', rest)
  | '/' :: rest => some ('/', rest)
  | 'b' :: rest => some ('\x08', rest)
  | 'f' :: rest => some ('\x0c', rest)
  | 'n' :: rest => some ('\n', rest)
  | 'r' :: rest => some ('\r', rest)
  | 't' :: rest => some ('\t', rest)
  | 'u' :: rest => unicodeEscape? rest
  | _ => none

/-- The rest of a string after its opening quote, `read` holding the characters already
read in reverse. -/
def readString? : Nat → List Char → List Char → Option (String × List Char)
  | 0, _, _ => none
  | fuel + 1, read, characters =>
    match characters with
    | [] => none
    | '"' :: rest => some (String.ofList read.reverse, rest)
    | '\\' :: rest => do
      let (character, rest) ← escape? rest
      readString? fuel (character :: read) rest
    | character :: rest =>
      if character.toNat < 0x20 then none else readString? fuel (character :: read) rest

/-! ### Numbers -/

/-- Takes digits into a significand as long as it fits a 64-bit word. -/
def absorbDigits : Nat → List Char → Nat × List Char
  | significand, [] => (significand, [])
  | significand, digit :: rest =>
    let next := significand * 10 + Double.digitValue digit
    if next < 2 ^ (64 : Nat) then absorbDigits next rest else (significand, digit :: rest)

/-- A whole number without sign mark, point or exponent. Negative zero and what fits no
64-bit word, signed if negative, are floating-point numbers. -/
def ofWord (negative : Bool) (significand : Nat) : Json :=
  if !negative then .integer significand
  else if significand = 0 || 2 ^ (63 : Nat) < significand then
    let value := (Double.ofRatio false significand 1).withSign true
    if finite : value.isFinite = true then .number value finite else .null
  else .integer (-(significand : Int))

/-- The exponent behind its mark, if one follows. -/
def readExponent? (characters : List Char) : Option (Option Int × List Char) :=
  match characters with
  | mark :: rest =>
    if mark == 'e' || mark == 'E' then
      let (negative, rest) := match rest with
        | '-' :: more => (true, more)
        | '+' :: more => (false, more)
        | more => (false, more)
      let digits := rest.takeWhile Char.isDigit
      let size : Int := Double.readDigits 0 digits
      if digits.isEmpty then none
      else some (some (if negative then -size else size), rest.dropWhile Char.isDigit)
    else some (none, characters)
  | [] => some (none, [])

/-- The digits after the point, if one follows. -/
def readFraction? (characters : List Char) : Option (List Char × List Char) :=
  match characters with
  | '.' :: rest =>
    let digits := rest.takeWhile Char.isDigit
    if digits.isEmpty then none else some (digits, rest.dropWhile Char.isDigit)
  | _ => some ([], characters)

/-- A number after its sign. -/
def readNumber? (negative : Bool) (characters : List Char) : Option (Json × List Char) := do
  let whole := characters.takeWhile Char.isDigit
  let afterWhole := characters.dropWhile Char.isDigit
  if whole.isEmpty || (whole.head? == some '0' && 1 < whole.length) then none
  else
    let (significand, beyond) := absorbDigits 0 whole
    let (fraction, afterFraction) ← readFraction? afterWhole
    let (exponent, rest) ← readExponent? afterFraction
    if beyond.isEmpty && fraction.isEmpty && exponent.isNone then
      pure (ofWord negative significand, rest)
    else
      -- Digits of the whole part that do not fit shift the value up, digits of the
      -- fraction that were taken shift it down, and the others are lost.
      let (significand, unread) := absorbDigits significand fraction
      let shift : Int := beyond.length - (fraction.length - unread.length : Nat)
      let value ← Double.ofScaledWord? negative significand (shift + exponent.getD 0)
      if finite : value.isFinite = true then pure (.number value finite, rest) else none

/-! ### Values -/

/-- Removes a word from the front. -/
def dropWord? (word : String) (characters : List Char) : Option (List Char) :=
  if word.toList.isPrefixOf characters then some (characters.drop word.length) else none

mutual

/-- A value after white space; `depth` more levels of nesting are allowed. -/
def readValue? : Nat → Nat → List Char → Option (Json × List Char)
  | 0, _, _ => none
  | fuel + 1, depth, characters =>
    match skipSpace characters with
    | [] => none
    | 'n' :: rest => (dropWord? "ull" rest).map fun rest => (.null, rest)
    | 't' :: rest => (dropWord? "rue" rest).map fun rest => (.boolean true, rest)
    | 'f' :: rest => (dropWord? "alse" rest).map fun rest => (.boolean false, rest)
    | '"' :: rest =>
      (readString? fuel [] rest).map fun (text, rest) => (.string text, rest)
    | '-' :: rest => readNumber? true rest
    | '[' :: rest =>
      if depth = 0 then none
      else match skipSpace rest with
        | ']' :: after => some (.array [], after)
        | _ => (readItems? fuel (depth - 1) rest).map fun (items, rest) => (.array items, rest)
    | '\x7b' :: rest =>
      if depth = 0 then none
      else match skipSpace rest with
        | '\x7d' :: after => some (.object [], after)
        | _ =>
          (readFields? fuel (depth - 1) rest).map fun (fields, rest) =>
            (.object fields, rest)
    | first :: rest => readNumber? false (first :: rest)

/-- One item or more up to the closing bracket. -/
def readItems? : Nat → Nat → List Char → Option (List Json × List Char)
  | 0, _, _ => none
  | fuel + 1, depth, characters => do
    let (item, rest) ← readValue? fuel depth characters
    match skipSpace rest with
    | ']' :: rest => pure ([item], rest)
    | ',' :: rest =>
      let (items, rest) ← readItems? fuel depth rest
      pure (item :: items, rest)
    | _ => none

/-- One member or more up to the closing brace. -/
def readFields? : Nat → Nat → List Char → Option (List (String × Json) × List Char)
  | 0, _, _ => none
  | fuel + 1, depth, characters =>
    match skipSpace characters with
    | '"' :: rest => do
      let (key, rest) ← readString? fuel [] rest
      match skipSpace rest with
      | ':' :: rest =>
        let (value, rest) ← readValue? fuel depth rest
        match skipSpace rest with
        | '\x7d' :: rest => pure ([(key, value)], rest)
        | ',' :: rest =>
          let (fields, rest) ← readFields? fuel depth rest
          pure ((key, value) :: fields, rest)
        | _ => none
      | _ => none
    | _ => none

end

/-! ### Texts -/

mutual

/-- The value with the members of every object brought to distinct keys. -/
def distinct : Json → Json
  | .array items => .array (distinctItems items)
  | .object fields => .object (Keyed.ofEntries (distinctFields fields))
  | value => value

def distinctItems : List Json → List Json
  | [] => []
  | item :: rest => distinct item :: distinctItems rest

def distinctFields : List (String × Json) → List (String × Json)
  | [] => []
  | (key, value) :: rest => (key, distinct value) :: distinctFields rest

end

/-- What a text writes, nested at most `depth` levels, if it is strict JSON with nothing
after the value but white space. Members are kept as they are written. -/
def writtenWithin? (depth : Nat) (text : String) : Option Json := do
  let characters := text.toList
  let (value, rest) ← readValue? (2 * characters.length + 1) depth characters
  if (skipSpace rest).isEmpty then pure value else none

/-- The deepest nesting that is read from documents. -/
def depthLimit : Nat := 127

/-- What a document writes, members as they are written. -/
def written? (text : String) : Option Json := writtenWithin? depthLimit text

/-- The value a text holds, nested at most `depth` levels. -/
def ofTextWithin? (depth : Nat) (text : String) : Option Json :=
  (writtenWithin? depth text).map distinct

/-- The value a document holds. -/
def ofText? (text : String) : Option Json := ofTextWithin? depthLimit text

end DocSchema.Json
