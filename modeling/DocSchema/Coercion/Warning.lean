import DocSchema.Path

/-!
# Warnings

A warning tells of an adjustment that a tree suffered while it was coerced.
-/

namespace DocSchema

/-- An adjustment of a tree and where it was made. -/
inductive Warning where
  /-- A property that stands for none of the record's type was dropped. -/
  | unknownProperty (property : String) (path : Path)
  /-- A property stood for one that had been given before and was dropped. -/
  | duplicateProperty (property canonical : String) (path : Path)
  /-- Of the values of a property that has one value only the first was kept. -/
  | cardinalityReduced (property : String) (discarded : Nat) (path : Path)
  /-- There is no decoder for a format. -/
  | decodeUnavailable (format : String) (path : Path)
  /-- A decoder failed and the content was kept. -/
  | decodeFailed (format message : String) (path : Path)
deriving DecidableEq, Repr

namespace Warning

def path : Warning → Path
  | unknownProperty _ path => path
  | duplicateProperty _ _ path => path
  | cardinalityReduced _ _ path => path
  | decodeUnavailable _ path => path
  | decodeFailed _ _ path => path

def text : Warning → String
  | unknownProperty property path =>
    "Dropped unknown property '" ++ property ++ "' at path " ++ Path.text path
  | duplicateProperty property canonical path =>
    "Dropped '" ++ property ++ "' at path " ++ Path.text path ++ ": '" ++ canonical
      ++ "' was already given"
  | cardinalityReduced property discarded path =>
    "Kept the first of " ++ (discarded + 1).repr ++ " values for single-valued property '"
      ++ property ++ "' at path " ++ Path.text path
  | decodeUnavailable format path =>
    "No decoder for format '" ++ format ++ "'; left content at path " ++ Path.text path
      ++ " as is"
  | decodeFailed format message path =>
    "Failed to decode " ++ format ++ " content at path " ++ Path.text path ++ ": " ++ message

/-- Whether a property was dropped to fit a record to its type. -/
def isDropped : Warning → Bool
  | unknownProperty _ _ => true
  | duplicateProperty _ _ _ => true
  | _ => false

end Warning

end DocSchema
