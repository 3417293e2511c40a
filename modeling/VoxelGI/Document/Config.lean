import VoxelGI.Document.Preamble
import VoxelGI.Document.Schema

/-!
Configurations in documents: reading them, with the check of their grids, and writing them.
-/
namespace VoxelGI

inductive ConfigFault where
  | unreadable (path : String)
  | notADocument (fault : Document.Fault)
  | emptyGrid (place : PlacedGrid)
deriving DecidableEq

def ConfigFault.message? : ConfigFault → Option String
  | unreadable path => some s!"failed to read GI config '{path}'"
  | notADocument fault => fault.message?
  | emptyGrid place => some place.faultMessage

namespace Config

def validate (c : Config) : Except ConfigFault Unit :=
  match c.firstFault with
  | none => .ok ()
  | some place => .error (.emptyGrid place)

def parse (document : String) : Except ConfigFault Config :=
  match Document.parse .config document with
  | .error fault => .error (.notADocument fault)
  | .ok c => c.validate.map fun _ => c

def load (path : String) (contents : Option ByteArray) : Except ConfigFault Config :=
  match contents.bind String.fromUTF8? with
  | none => .error (.unreadable path)
  | some document => parse document

def toDocument (c : Config) : String := Document.write .config c

end Config

end VoxelGI
