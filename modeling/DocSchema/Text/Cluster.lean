import DocSchema.Text.ClusterTable
import DocSchema.Text.LetterCase
import DocSchema.Text.PrintableTable

/-!
# Grapheme clusters

A cluster is what a reader takes for one character: a base with the marks after it, or
pictographs held together by joiners. Of the rules that divide a text only those are kept
that can join a character with a case, a digit or a separator to another one.
-/

namespace DocSchema.Text

def isControl (character : Char) : Bool := inRanges controlRanges character.toNat

def isPictograph (character : Char) : Bool := inRanges pictographRanges character.toNat

/-- The mark that holds two pictographs together. -/
def joiner : Char := '\u200D'

/-- Whether a character is a mark that a pictograph can carry. Skin tones are such marks. -/
def isExtending (character : Char) : Bool :=
  inRanges extendingRanges character.toNat
    || (0x1F3FB ≤ character.toNat && character.toNat ≤ 0x1F3FF)

/-- Whether a cluster, given in reverse, ends with a pictograph and a joiner. -/
def endsJoined (cluster : List Char) : Bool :=
  match cluster with
  | last :: rest =>
    last == joiner && ((rest.dropWhile isExtending).head?.map isPictograph).getD false
  | [] => false

/-- Whether a character goes on with a cluster, given in reverse, whose last character is
`last`. -/
def continues (cluster : List Char) (last character : Char) : Bool :=
  if last == '\r' && character == '\n' then true
  else if last.toNat < 0x80 && character.toNat < 0x80 then false
  else if isControl last || isControl character then false
  else inRanges joiningRanges character.toNat || inRanges leadingRanges last.toNat
    || (isPictograph character && endsJoined cluster)

/-- The clusters of characters, the first of which is `last` with the rest of its cluster
before it in reverse. -/
def clustersFrom (before : List Char) (last : Char) : List Char → List (List Char)
  | [] => [(last :: before).reverse]
  | character :: rest =>
    if continues (last :: before) last character then
      clustersFrom (last :: before) character rest
    else (last :: before).reverse :: clustersFrom [] character rest

/-- The clusters of a text in order. -/
def clusters : List Char → List (List Char)
  | [] => []
  | first :: rest => clustersFrom [] first rest

end DocSchema.Text
