import DocSchema.FileTree
import DocSchema.Suite.Scenario

/-!
# Running suites

A suite is a directory of case files. Its files are run in the order of their paths, each
on an engine of its own.
-/

namespace DocSchema.Suite

/-- A failed test: its name and why it failed. A file that holds no case has no reason. -/
structure Failure where
  name : String
  reason : Option String

/-- The outcome of a suite. -/
structure Results where
  passed : Nat
  failures : List Failure

namespace Results

def failed (results : Results) : Nat := results.failures.length

def total (results : Results) : Nat := results.passed + results.failed

def isSuccess (results : Results) : Bool := results.failures.isEmpty

def append (left right : Results) : Results :=
  ⟨left.passed + right.passed, left.failures ++ right.failures⟩

end Results

/-! ### File names -/

/-- The part of a file name before its last point and the part after it. A point in first
place divides nothing. -/
def divideName (name : String) : String × Option String :=
  let characters := name.toList
  let ending := (characters.reverse.takeWhile (· != '.')).reverse
  let front := characters.take (characters.length - ending.length - 1)
  if ending.length < characters.length && !front.isEmpty && name != ".." then
    (String.ofList front, some (String.ofList ending))
  else (name, none)

/-- The names on a path; empty ones and those of the same directory do not count. -/
def namesOf (path : String) : List String :=
  ((path.toList.splitOn '/').map String.ofList).filter fun name => name != "" && name != "."

/-- The name of a case by its path: the last name without its ending. -/
def caseName (path : String) : String :=
  match (namesOf path).getLast? with
  | none => path
  | some ".." => path
  | some name => (divideName name).1

/-- The path of a name in the folder that another path leads to. -/
def joinPath (above name : String) : String :=
  if above = "" || above.endsWith "/" then above ++ name else above ++ "/" ++ name

/-! ### Discovery -/

mutual

/-- The files below an entry with the names on the way to them. -/
def filesOfEntry (above : List String) : FileEntry → List (List String × String)
  | .file text => [(above, text)]
  | .folder entries => filesOfTree above entries

def filesOfTree (above : List String) :
    List (String × FileEntry) → List (List String × String)
  | [] => []
  | (name, entry) :: rest => filesOfEntry (above ++ [name]) entry ++ filesOfTree above rest

end

/-- Whether a path stands before another one or is the same, compared name by name. -/
def isAtMost : List String → List String → Bool
  | [], _ => true
  | _ :: _, [] => false
  | left :: lefts, right :: rights =>
    if left = right then isAtMost lefts rights else decide (left < right)

/-- The case files in a folder, in the order of their paths. -/
def caseFiles (folder : FileTree) : List (List String × String) :=
  let files := (filesOfTree [] folder).filter fun file =>
    (file.1.getLast?.bind fun name => (divideName name).2) == some "json"
  files.mergeSort fun left right => isAtMost left.1 right.1

/-! ### Running -/

/-- The result of a scenario. -/
def resultOf (name : String) (outcome : String × Option ScenarioError) : Results :=
  match outcome.2 with
  | none => ⟨1, []⟩
  | some error => ⟨0, [⟨name ++ " (" ++ outcome.1 ++ ")", some error.message⟩]⟩

/-- The results of a case. One without expectations has failed. -/
def runCase (name : String) (file : CaseFile) : Results :=
  match file.outcomes with
  | [] => ⟨0, [⟨name, some "Case has no expectations"⟩]⟩
  | outcomes => (outcomes.map (resultOf name)).foldl Results.append ⟨0, []⟩

/-- The results of a file. -/
def runFile (path text : String) : Results :=
  match (Json.written? text).bind CaseFile.ofJson? with
  | none => ⟨0, [⟨path, none⟩]⟩
  | some case => runCase (caseName path) case

/-- The results of all case files in a folder, to which the path `above` leads. -/
def runFolder (above : String) (folder : FileTree) : Results :=
  let results := (caseFiles folder).map fun (names, text) =>
    runFile (names.foldl joinPath above) text
  results.foldl Results.append ⟨0, []⟩

/-- The results of all case files below a path in a directory. There are none if it leads
nowhere, and no results at all if it leads to a file. -/
def runSuite (tree : FileTree) (root : String) : Option Results :=
  match tree.find? root with
  | some (.folder folder) => some (runFolder root folder)
  | some (.file _) => none
  | none => some ⟨0, []⟩

end DocSchema.Suite
