import DocSchema.Suite.CaseFile
import DocSchema.Node.Pretty

/-!
# Scenarios

Every expectation of a case is a scenario of its own. A scenario passes or fails with a
reason.
-/

namespace DocSchema.Suite

/-- One expectation of a case. -/
inductive Scenario where
  /-- Coercing the input gives the output, and that is valid. -/
  | coercion (input output : Node)
  /-- Coercing the output changes nothing. -/
  | idempotence (output : Node)
  /-- Coercing the input fails with an error that contains a text. -/
  | coercionError (input : Node) (error : String)
  /-- Coercing the input gives these warnings. -/
  | warnings (input : Node) (warnings : List String)
  /-- The input is valid as it is, or is not. -/
  | validity (input : Node) (valid : Bool)

/-- Why a scenario failed. -/
inductive ScenarioError where
  | coercionFailed (message : String)
  | outputMismatch (expected actual : String)
  | expectedFailure (expectedError actual : String)
  | errorMismatch (expectedError actual : String)
  | warningsMismatch (expected actual : List String)
  | validityMismatch (expected : Bool)

namespace ScenarioError

/-- Texts on lines of their own, set in. -/
def listed (texts : List String) : String :=
  String.join (texts.map fun text => "  " ++ text ++ "\n")

def message : ScenarioError → String
  | coercionFailed message => "Coercion failed: " ++ message
  | outputMismatch expected actual =>
    "Output mismatch.\nExpected:\n" ++ expected ++ "\nActual:\n" ++ actual
  | expectedFailure expectedError actual =>
    "Expected coercion to fail with '" ++ expectedError ++ "', but it produced:\n" ++ actual
  | errorMismatch expectedError actual =>
    "Expected error containing '" ++ expectedError ++ "', got: " ++ actual
  | warningsMismatch expected actual =>
    "Warnings mismatch.\nExpected:\n" ++ listed expected ++ "Actual:\n" ++ listed actual
  | validityMismatch expected =>
    "Expected the input to be " ++ (if expected then "valid" else "invalid")

end ScenarioError

namespace Scenario

def name : Scenario → String
  | coercion _ _ => "coercion"
  | idempotence _ => "idempotence"
  | coercionError _ _ => "coercion_error"
  | warnings _ _ => "warnings"
  | validity _ _ => "validity"

/-- The scenarios of a case. -/
def ofCase (file : CaseFile) : List Scenario :=
  let input := Node.ofJson file.input
  (match file.output with
    | some output => [coercion input (Node.ofJson output), idempotence (Node.ofJson output)]
    | none => [])
  ++ (file.error.map (coercionError input)).toList
  ++ (file.warnings.map (warnings input)).toList
  ++ (file.valid.map (validity input)).toList

/-- A tree as it is shown: indented JSON, or its tagged form if JSON cannot hold it. -/
def shown (node : Node) : String :=
  match node.toJson with
  | .ok _ => node.pretty.text
  | .error _ => node.tagged

/-- Whether `part` stands somewhere in a text. -/
def occursIn (part : List Char) : List Char → Bool
  | [] => part.isEmpty
  | character :: rest => part.isPrefixOf (character :: rest) || occursIn part rest

/-- Runs a scenario. Without an error it has passed. -/
def run (typeName : Option String) (engine : Engine) :
    Scenario → Option ScenarioError × Engine
  | coercion input output =>
    match engine.coerce input typeName with
    | (.error error, engine) => (some (.coercionFailed error.message), engine)
    | (.ok result, engine) =>
      if !result.node.equals output then
        (some (.outputMismatch (shown output) (shown result.node)), engine)
      else
        match engine.isValid result.node typeName with
        | (true, engine) => (none, engine)
        | (false, engine) => (some (.validityMismatch true), engine)
  | idempotence output =>
    match engine.coerce output typeName with
    | (.error error, engine) => (some (.coercionFailed error.message), engine)
    | (.ok result, engine) =>
      if result.node.equals output then (none, engine)
      else (some (.outputMismatch (shown output) (shown result.node)), engine)
  | coercionError input expected =>
    match engine.coerce input typeName with
    | (.ok result, engine) => (some (.expectedFailure expected (shown result.node)), engine)
    | (.error error, engine) =>
      if occursIn expected.toList error.message.toList then (none, engine)
      else (some (.errorMismatch expected error.message), engine)
  | warnings input expected =>
    match engine.coerce input typeName with
    | (.error error, engine) => (some (.coercionFailed error.message), engine)
    | (.ok result, engine) =>
      let actual := result.warnings.map Warning.text
      if actual = expected then (none, engine)
      else (some (.warningsMismatch expected actual), engine)
  | validity input expected =>
    match engine.isValid input typeName with
    | (valid, engine) =>
      if valid = expected then (none, engine) else (some (.validityMismatch expected), engine)

/-- Runs scenarios one after the other on one engine. -/
def runAll (typeName : Option String) (engine : Engine) :
    List Scenario → List (String × Option ScenarioError)
  | [] => []
  | scenario :: rest =>
    match scenario.run typeName engine with
    | (outcome, engine) => (scenario.name, outcome) :: runAll typeName engine rest

end Scenario

/-- The outcome of every scenario of a case. -/
def CaseFile.outcomes (file : CaseFile) : List (String × Option ScenarioError) :=
  Scenario.runAll file.typeName file.engine (Scenario.ofCase file)

end DocSchema.Suite
