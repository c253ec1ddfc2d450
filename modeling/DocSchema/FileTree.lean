import DocSchema.Keyed

/-!
# File trees

The contents of a directory as a value.
-/

namespace DocSchema

/-- What stands under a name in a directory. -/
inductive FileEntry where
  | file (text : String)
  | folder (entries : List (String × FileEntry))

/-- The entries of a directory by name. -/
abbrev FileTree := List (String × FileEntry)

namespace FileTree

/-- Puts a file, or a folder if there is no text, under the names that lead to it. The
folders on the way are made where they are missing; what is there already stays. -/
def put (tree : FileTree) (names : List String) (text? : Option String) : FileTree :=
  match names with
  | [] => tree
  | [name] =>
    match text?, Keyed.get? tree name with
    | some text, _ => Keyed.insert tree name (.file text)
    | none, some _ => tree
    | none, none => Keyed.insert tree name (.folder [])
  | name :: rest =>
    let inside := match Keyed.get? tree name with
      | some (.folder entries) => entries
      | _ => []
    Keyed.insert tree name (.folder (put inside rest text?))

/-- The size of the longest name a file can have, in bytes. -/
def longestName : Nat := 255

/-- The size of the longest path in a directory, in bytes. A whole path has no more than
4095, and some of them lead to the directory itself. -/
def longestPath : Nat := 4064

/-- What a name leads to from a folder, the folders around it being given from the inside
out. Empty names and `.` stay in the folder, `..` leaves it. -/
def step? (folders : List FileTree) (name : String) : Option (List FileTree × FileEntry) :=
  match folders, name with
  | [], _ => none
  | folder :: around, "" | folder :: around, "." => some (folder :: around, .folder folder)
  | _ :: [], ".." => none
  | _ :: outer :: around, ".." => some (outer :: around, .folder outer)
  | folder :: around, name =>
    if longestName < name.utf8ByteSize then none
    else
      match Keyed.get? folder name with
      | some (.folder inner) => some (inner :: folder :: around, .folder inner)
      | some (.file text) => some ([], .file text)
      | none => none

/-- What names lead to one after the other. Behind a file they lead nowhere. -/
def follow? (folders : List FileTree) (entry : FileEntry) : List String → Option FileEntry
  | [] => some entry
  | name :: rest => (step? folders name).bind fun (folders, entry) => follow? folders entry rest

/-- What a path leads to, which must not begin at the root of the file system. One that is
too long leads nowhere, wherever its names would lead. -/
def find? (tree : FileTree) (path : String) : Option FileEntry :=
  if longestPath < path.utf8ByteSize then none
  else
    match (path.toList.splitOn '/').map String.ofList with
    | "" :: _ :: _ => none
    | names => follow? [tree] (.folder tree) names

end FileTree

end DocSchema
