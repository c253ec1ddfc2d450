import DocSchema.Text.CaseTable

/-!
# Upper and lower case

Full case mapping of texts: one character may become several, and a capital sigma at
the end of a word becomes the final small letter.
-/

namespace DocSchema.Text

/-- Whether a code point lies in one of some ranges. -/
def inRanges (ranges : List (Nat × Nat)) (code : Nat) : Bool :=
  ranges.any fun range => range.1 ≤ code && code ≤ range.2

def CaseRange.covers (range : CaseRange) (code : Nat) : Bool :=
  range.first ≤ code && code ≤ range.last && (code - range.first) % range.step == 0

/-- The characters a character is mapped to; one that no table names stays. -/
def mapped (ranges : List CaseRange) (sequences : List (Nat × List Nat)) (character : Char) :
    List Char :=
  let code := character.toNat
  match sequences.lookup code with
  | some codes => codes.map Char.ofNat
  | none =>
    match ranges.find? (·.covers code) with
    | some range => [Char.ofNat ((code : Int) + range.shift).toNat]
    | none => [character]

def upperCharacter (character : Char) : List Char :=
  if character.toNat < 0x80 then [character.toUpper]
  else mapped upperRanges upperSequences character

def lowerCharacter (character : Char) : List Char :=
  if character.toNat < 0x80 then [character.toLower]
  else mapped lowerRanges lowerSequences character

def isCased (character : Char) : Bool := inRanges casedRanges character.toNat

def isCaseIgnorable (character : Char) : Bool := inRanges caseIgnorableRanges character.toNat

/-- Whether the first character that is not ignored beside letters has a case. -/
def startsCased (characters : List Char) : Bool :=
  match characters.dropWhile isCaseIgnorable with
  | [] => false
  | first :: _ => isCased first

/-- Lower-cases characters, `before` being those in front of them in reverse. A capital
sigma is final if a letter stands before it and none after it. -/
def lowerAfter (before : List Char) : List Char → List Char
  | [] => []
  | character :: rest =>
    let lowered :=
      -- The only character whose lower case depends on what stands around it.
      if character == 'Σ' then
        if startsCased before && !startsCased rest then ['ς'] else ['σ']
      else lowerCharacter character
    lowered ++ lowerAfter (character :: before) rest

def lower (characters : List Char) : List Char := lowerAfter [] characters

def upper (characters : List Char) : List Char := characters.flatMap upperCharacter

end DocSchema.Text
