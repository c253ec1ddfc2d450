import DocSchema.Text.Cluster

/-!
# Camel case

Spellings of a name that differ in separators and letter case only are brought to one
form: `given_name`, `Given-Name` and `givenName` all become `givenName`. Words are cut
at separators and where the kind of the characters changes; the first word is
lower-cased, every later one capitalized. Empty words count, so `_a` becomes `A`.
-/

namespace DocSchema.Text

/-- What a cluster is where words are cut. -/
inductive ClusterKind where
  | separator
  | upper
  | lower
  | digit
  | other
deriving DecidableEq, Repr

/-- The kind of a cluster. It has a case if its two case forms differ and it is one of
them. -/
def kindOf (cluster : List Char) : ClusterKind :=
  if cluster == ['_'] || cluster == ['-'] || cluster == [' '] then .separator
  else if cluster.all Char.isDigit then .digit
  else
    -- A cluster of marks only, or of letters without case, has equal forms.
    let raised := upper cluster
    let lowered := lower cluster
    if raised == lowered then .other
    else if cluster == raised then .upper
    else if cluster == lowered then .lower
    else .other

/-- Whether a word ends after a cluster, seen from the kinds of the two that follow. In a
run of capitals the last one belongs to the word after it. -/
def endsWord (kind : ClusterKind) (following : List ClusterKind) : Bool :=
  match kind, following with
  | .lower, .upper :: _ => true
  | .lower, .digit :: _ => true
  | .upper, .digit :: _ => true
  | .digit, .lower :: _ => true
  | .digit, .upper :: _ => true
  | .upper, .upper :: .lower :: _ => true
  | _, _ => false

/-- Cuts clusters into words, `begun` being the word begun, in reverse. Separators are
dropped. -/
def cutWords (begun : List Char) : List (List Char × ClusterKind) → List (List Char)
  | [] => [begun.reverse]
  | (cluster, kind) :: rest =>
    if kind = .separator then begun.reverse :: cutWords [] rest
    else
      let word := cluster.reverse ++ begun
      if endsWord kind ((rest.take 2).map Prod.snd) then word.reverse :: cutWords [] rest
      else cutWords word rest

/-- The words of a name. -/
def words (characters : List Char) : List (List Char) :=
  cutWords [] ((clusters characters).map fun cluster => (cluster, kindOf cluster))

def capitalized : List Char → List Char
  | [] => []
  | first :: rest => upperCharacter first ++ lower rest

/-- The one spelling that stands for all spellings of a name. -/
def camelCase (name : String) : String :=
  match words name.toList with
  | [] => ""
  | first :: rest => String.ofList (lower first ++ rest.flatMap capitalized)

end DocSchema.Text
