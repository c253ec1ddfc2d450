import DocSchema.Engine.Builtin

/-!
# Case files

A case gives an input tree and what is expected of coercing or validating it over the
bundled types. It is read from JSON: members that may be left out may be `null`, none may
be given twice, and no others are allowed. The members may also be given as an array in
their fixed order, later ones left out.
-/

namespace DocSchema.Suite

/-- A decoder with one answer for every content. -/
inductive FixedDecoder where
  | output (value : Json)
  | error (message : String)

/-- A case as it is written. -/
structure CaseFile where
  description : Option String := none
  /-- The expected type; that of the input's discriminator if absent. -/
  typeName : Option String := none
  input : Json := .null
  /-- The expected result of coercing the input. -/
  output : Option Json := none
  /-- A text the error of coercing the input must contain. -/
  error : Option String := none
  /-- The expected warnings. -/
  warnings : Option (List String) := none
  /-- Whether the input is expected to be valid as it is. -/
  valid : Option Bool := none
  options : Option Options := none
  decoders : Keyed FixedDecoder := []

namespace FixedDecoder

def ofJson? : Json → Option FixedDecoder
  | .object [("output", value)] => some (.output value.distinct)
  | .object [("error", .string message)] => some (.error message)
  | _ => none

def decoder : FixedDecoder → Decoder
  | output value => fun _ => .ok (Node.ofJson value)
  | error message => fun _ => .error message

end FixedDecoder

namespace CaseFile

/-- The members in their fixed order. -/
def memberNames : List String :=
  ["description", "typeName", "input", "output", "error", "warnings", "valid", "options",
    "decoders"]

def asBoolean? : Json → Option Bool
  | .boolean value => some value
  | _ => none

/-- Reads decoders by their formats. -/
def readDecoders? : List (String × Json) → Option (List (String × FixedDecoder))
  | [] => some []
  | (format, value) :: rest => do
    let decoder ← FixedDecoder.ofJson? value
    let rest ← readDecoders? rest
    pure ((format, decoder) :: rest)

/-- Reads one member into the case read so far. -/
def withMember? (file : CaseFile) (name : String) (value : Json) : Option CaseFile :=
  match name with
  | "description" =>
    (Json.optional? Json.asString? value).map fun description => { file with description }
  | "typeName" => (Json.optional? Json.asString? value).map fun typeName => { file with typeName }
  | "input" => some { file with input := value.distinct }
  | "output" =>
    (Json.optional? some value).map fun output => { file with output := output.map Json.distinct }
  | "error" => (Json.optional? Json.asString? value).map fun error => { file with error }
  | "warnings" => (Json.optional? Json.asStrings? value).map fun warnings => { file with warnings }
  | "valid" => (Json.optional? asBoolean? value).map fun valid => { file with valid }
  | "options" => (Json.optional? Options.ofJson? value).map fun options => { file with options }
  | "decoders" =>
    match value with
    | .object fields =>
      (readDecoders? fields).map fun decoders => { file with decoders := Keyed.ofEntries decoders }
    | _ => none
  | _ => none

/-- Reads members into the case read so far. -/
def withMembers? (file : CaseFile) : List (String × Json) → Option CaseFile
  | [] => some file
  | (name, value) :: rest => do
    let file ← withMember? file name value
    withMembers? file rest

/-- Reads a case from what a text writes. It must have an input. -/
def ofJson? : Json → Option CaseFile
  | .object fields =>
    if Keyed.Distinct fields ∧ Keyed.contains fields "input" then withMembers? {} fields else none
  | .array items =>
    if items.length < 3 || memberNames.length < items.length then none
    else withMembers? {} (memberNames.zip items)
  | _ => none

/-- The decoders of a case, registered in the order of their formats. -/
def registered (file : CaseFile) : Decoders :=
  -- Formats that differ in case only are one to the engine; the last one counts.
  let sorted := file.decoders.mergeSort fun left right => decide (left.1 ≤ right.1)
  sorted.foldl (fun decoders entry => decoders.register entry.1 entry.2.decoder) .empty

/-- An engine over the bundled types as the case asks for it. -/
def engine (file : CaseFile) : Engine :=
  { Builtin.engine with decoders := file.registered, options := file.options.getD {} }

end CaseFile

end DocSchema.Suite
