/-!
Sets of characters given by runs of code points.

A set is the ascending list of the code points at which membership changes: the first entry begins
a run of members, the second ends it, and so on.
-/
namespace VoxelGI.CharSet

/-- Whether a code point lies in the set: an odd number of changes lies at or before it. -/
def member (changes : List Nat) (code : Nat) : Bool :=
  (changes.takeWhile (· ≤ code)).length % 2 == 1

end VoxelGI.CharSet
