import DocSchema.Coercion.Tree
import DocSchema.Engine.Decoders
import DocSchema.Engine.Error
import DocSchema.Engine.Options
import DocSchema.Node.Address

/-!
# Expansion of encoded content

Every text with a decode directive is replaced by the tree that a decoder makes of it,
coerced towards the shape of the directive. All texts are taken from the tree as it was
before; directives inside decoded content are left alone.
-/

namespace DocSchema

/-- A tree with the warnings of what was done to it. -/
structure Coercion.Result where
  node : Node
  warnings : List Warning

namespace Expansion

/-- What came of a text to be decoded. -/
inductive Outcome where
  /-- There is no text at the site. -/
  | gone
  | unavailable
  | failed (message : String)
  | decoded (node : Node)

/-- Finds the decoder for a format. -/
abbrev Resolver := String → Option Decoder

/-- Decodes the text at a site. -/
def decodeSite (resolver : Resolver) (node : Node) (site : DecodeSite) : Outcome :=
  match node.get? site.path with
  | some (.string content) =>
    match resolver site.format with
    | none => .unavailable
    | some decoder =>
      match decoder content with
      | .ok decoded => .decoded decoded
      | .error message => .failed message
  | _ => .gone

/-- Puts what was decoded in its place, site after site. Every decoded tree is coerced with the
fuel that `patience` grants it. -/
def splice (patience : Node → Nat) (set : SchemaSet) (policy : FailurePolicy) (typeName : String)
    (node : Node) (warnings : List Warning) :
    List (DecodeSite × Outcome) → Except EngineError Coercion.Result
  | [] => .ok ⟨node, warnings⟩
  | (site, outcome) :: rest =>
    match outcome with
    | .gone => splice patience set policy typeName node warnings rest
    | .unavailable =>
      splice patience set policy typeName node
        (warnings ++ [.decodeUnavailable site.format site.path]) rest
    | .failed message =>
      match policy with
      | .abort => .error (.decodeFailure site.path site.format message)
      | .warn =>
        splice patience set policy typeName node
          (warnings ++ [.decodeFailed site.format message site.path]) rest
    | .decoded decoded =>
      match Coercion.coerceTree set (patience decoded) decoded site.shape site.path with
      | none => .error (.endless typeName)
      | some coerced =>
        match node.replace site.path coerced.node with
        | .error path => .error (.missingPath path)
        | .ok node =>
          splice patience set policy typeName node (warnings ++ coerced.warnings) rest

/-- Expands a coerced tree, with given fuel for what is decoded. -/
def expandWith (patience : Node → Nat) (set : SchemaSet) (resolver : Resolver)
    (policy : FailurePolicy) (typeName : String) (coerced : Coerced) :
    Except EngineError Coercion.Result :=
  splice patience set policy typeName coerced.node coerced.warnings
    (coerced.sites.map fun site => (site, decodeSite resolver coerced.node site))

end Expansion

end DocSchema
