import VoxelGI.Overlay
import VoxelGI.Text.Name

/-!
What can be wrong with the text of a document. Only some faults have a wording of their own; all
others are the same to the reader of the message.
-/
namespace VoxelGI.Document

inductive Fault where
  | malformed
  | unclosedComment
  | trailing
  | tooDeep
  | expectedInteger
  | integerOutOfBounds
  | expectedFlag
  | expectedText
  | expectedNumber
  | expectedOption
  | wrongName (expected found : String)
  | unknownExtension (name : String)
  | unknownVariant (found : String)
  | shortRow (found : Nat)
  | missingField (field : String) (owner : Option String)
  | repeatedField (field : String) (owner : Option String)
  | unknownOverlay (unknown : Overlay.Unknown)
  | noOverlay
deriving DecidableEq

/-- A name in a message; one that is not a plain name is marked as raw. -/
def quotedName (name : String) : String :=
  match name.toList with
  | c :: rest =>
    if Name.isFirst c && rest.all Name.isRest then "`" ++ name ++ "`" else "`r#" ++ name ++ "`"
  | [] => "`" ++ name ++ "`"

namespace Fault

/-- Says which record a fault about a field belongs to, unless that was said already. -/
def ownedBy (owner : String) : Fault → Fault
  | missingField field none => missingField field (some owner)
  | repeatedField field none => repeatedField field (some owner)
  | fault => fault

def ownerText : Option String → String
  | none => ""
  | some owner => " in " ++ quotedName owner

def memberCount : Nat → String
  | 0 => "zero elements"
  | 1 => "one element"
  | n => s!"{n} elements"

def message? : Fault → Option String
  | malformed => none
  | unclosedComment => some "Unclosed block comment"
  | trailing => some "Non-whitespace trailing characters"
  | tooDeep =>
    some ("Exceeded recursion limit, try increasing `ron::Options::recursion_limit` and using "
      ++ "`serde_stacker` to protect against a stack overflow")
  | expectedInteger => some "Expected integer"
  | integerOutOfBounds => some "Integer is out of bounds"
  | expectedFlag => some "Expected boolean"
  | expectedText => some "Expected string"
  | expectedNumber => some "Expected float"
  | expectedOption => some "Expected option"
  | wrongName expected found =>
    some ("Expected struct " ++ quotedName expected ++ " but found " ++ quotedName found)
  | unknownExtension name => some ("No RON extension named " ++ quotedName name)
  | unknownVariant found =>
    some ("Unexpected variant named " ++ quotedName found
      ++ " in enum `DebugVisualizationMode`, expected one of `albedo`, `normal`, `emissive`, "
      ++ "`lighting`, or `none` instead")
  | shortRow found =>
    some ("Expected an array of length 3 but found " ++ memberCount found ++ " instead")
  | missingField field owner =>
    some ("Unexpected missing field named " ++ quotedName field ++ ownerText owner)
  | repeatedField field owner =>
    some ("Unexpected duplicate field named " ++ quotedName field ++ ownerText owner)
  | unknownOverlay unknown => some unknown.message
  | noOverlay => some "data did not match any variant of untagged enum ModeRepr"

end Fault

end VoxelGI.Document
