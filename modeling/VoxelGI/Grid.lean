/-!
Voxel grids: one count per axis.
-/
namespace VoxelGI

inductive Axis where
  | x
  | y
  | z
deriving DecidableEq, Inhabited

def Axis.index : Axis → Nat
  | x => 0
  | y => 1
  | z => 2

structure Grid where
  x : UInt32
  y : UInt32
  z : UInt32
deriving DecidableEq, Inhabited

namespace Grid

def cube (n : UInt32) : Grid := ⟨n, n, n⟩

def get (g : Grid) : Axis → UInt32
  | .x => g.x
  | .y => g.y
  | .z => g.z

def set (g : Grid) (axis : Axis) (n : UInt32) : Grid :=
  match axis with
  | .x => { g with x := n }
  | .y => { g with y := n }
  | .z => { g with z := n }

@[simp] theorem get_set_self (g : Grid) (axis : Axis) (n : UInt32) :
    (g.set axis n).get axis = n := by
  cases axis <;> rfl

theorem get_set_of_ne (g : Grid) {axis other : Axis} (n : UInt32) (h : other ≠ axis) :
    (g.set axis n).get other = g.get other := by
  revert h
  cases axis <;> cases other <;> simp [get, set]

/-- Whether the engine can allocate the grid: no axis is empty. -/
def isAllocatable (g : Grid) : Bool := g.x != 0 && g.y != 0 && g.z != 0

theorem isAllocatable_iff (g : Grid) : g.isAllocatable = true ↔ ∀ axis, g.get axis ≠ 0 := by
  constructor
  · intro h axis
    simp [isAllocatable] at h
    cases axis <;> simp [get, h]
  · intro h
    simp [isAllocatable]
    exact ⟨⟨h .x, h .y⟩, h .z⟩

def text (g : Grid) : String :=
  s!"[{g.x.toNat}, {g.y.toNat}, {g.z.toNat}]"

end Grid

end VoxelGI
