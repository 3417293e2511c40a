/-!
Which visuals take part in global illumination, as a set of flags.
-/
namespace VoxelGI

structure Participants where
  bits : UInt32
deriving DecidableEq, Inhabited

namespace Participants

def empty : Participants := ⟨0⟩

def fixed : Participants := ⟨1⟩

def moving : Participants := ⟨2⟩

def union (a b : Participants) : Participants := ⟨a.bits ||| b.bits⟩

def everything : Participants := fixed.union moving

def contains (a b : Participants) : Bool := a.bits &&& b.bits == b.bits

end Participants

end VoxelGI
