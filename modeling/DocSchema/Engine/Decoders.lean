import DocSchema.Node.Basic
import DocSchema.Text.Quoted

/-!
# Decoders

A decoder turns text in one format into a tree, or says why it cannot. Decoders are
registered by the name of their format, whose ASCII letters may be written in either
case.
-/

namespace DocSchema

/-- Turns content into a tree. -/
abbrev Decoder := String → Except String Node

/-- Decoders by the lower-case name of their format. -/
structure Decoders where
  entries : Keyed Decoder

namespace Decoders

def empty : Decoders := ⟨[]⟩

/-- A format name in lower-case ASCII letters. -/
def formatKey (format : String) : String := String.ofList (format.toList.map Char.toLower)

/-- Registers a decoder in place of one with the same format. -/
def register (decoders : Decoders) (format : String) (decoder : Decoder) : Decoders :=
  ⟨Keyed.insert decoders.entries (formatKey format) decoder⟩

def get? (decoders : Decoders) (format : String) : Option Decoder :=
  Keyed.get? decoders.entries (formatKey format)

def size (decoders : Decoders) : Nat := decoders.entries.length

/-- The registered formats in the order of their code points. -/
def formats (decoders : Decoders) : List String :=
  (Keyed.keys decoders.entries).mergeSort fun left right => decide (left ≤ right)

/-- What is registered, in short. -/
def description (decoders : Decoders) : String :=
  "Decoders \x7b formats: [" ++ ", ".intercalate (decoders.formats.map Text.quoted) ++ "] \x7d"

end Decoders

end DocSchema
