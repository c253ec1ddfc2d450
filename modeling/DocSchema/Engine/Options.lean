import DocSchema.Json.Reader
import DocSchema.Schema.SchemaSet

/-!
# Engine options

Options are read from JSON text. Every member may be left out, none may be given twice,
and no others are allowed. The members may also be given as an array in their fixed
order, later ones left out.
-/

namespace DocSchema

/-- What to do when a decoder fails. -/
inductive FailurePolicy where
  /-- Give up the whole call. -/
  | abort
  /-- Keep the content and record a warning. -/
  | warn
deriving DecidableEq, Repr

/-- How an engine works. -/
structure Options where
  decodeFailure : FailurePolicy := .abort
  /-- Whether content is decoded. -/
  expand : Bool := true
  /-- How many union types may be entered one inside the other at one value. -/
  maxReferenceDepth : Nat := SchemaSet.defaultLimit
deriving DecidableEq, Repr

namespace FailurePolicy

def name : FailurePolicy → String
  | abort => "abort"
  | warn => "warn"

def ofName? : String → Option FailurePolicy
  | "abort" => some abort
  | "warn" => some warn
  | _ => none

/-- A policy is written as its name, or as an object with its name over `null`. -/
def ofJson? : Json → Option FailurePolicy
  | .string name => ofName? name
  | .object [(name, .null)] => ofName? name
  | _ => none

end FailurePolicy

namespace Options

-- Powers of the core library, as in `DocSchema.Double.Basic`.
attribute [local instance(high)] instPowNat

/-- The members in their fixed order. -/
def memberNames : List String := ["decodeFailure", "expand", "maxReferenceDepth"]

/-- Reads one member into the options read so far. -/
def withMember? (options : Options) (name : String) (value : Json) : Option Options :=
  match name, value with
  | "decodeFailure", value =>
    (FailurePolicy.ofJson? value).map fun decodeFailure => { options with decodeFailure }
  | "expand", .boolean expand => some { options with expand }
  | "maxReferenceDepth", .integer depth =>
    if 0 ≤ depth ∧ depth < 2 ^ (64 : Nat) then some { options with maxReferenceDepth := depth.toNat }
    else none
  | _, _ => none

/-- Reads members into the options read so far. -/
def withMembers? (options : Options) : List (String × Json) → Option Options
  | [] => some options
  | (name, value) :: rest => do
    let options ← withMember? options name value
    withMembers? options rest

/-- Reads options from what a text writes. -/
def ofJson? : Json → Option Options
  | .object fields => if Keyed.Distinct fields then withMembers? {} fields else none
  | .array items =>
    if memberNames.length < items.length then none else withMembers? {} (memberNames.zip items)
  | _ => none

/-- Reads options from JSON text. -/
def ofText? (text : String) : Option Options := (Json.written? text).bind ofJson?

end Options

end DocSchema
