/-!
How much work the next tick owes the engine. The levels are ordered by cost, and a cheaper one is
part of every dearer one.
-/
namespace VoxelGI

inductive Pending where
  | clean
  | overlayOnly
  | relight
  | rebuild
deriving DecidableEq, Inhabited

namespace Pending

def rank : Pending → Nat
  | clean => 0
  | overlayOnly => 1
  | relight => 2
  | rebuild => 3

instance : LE Pending := ⟨fun a b => a.rank ≤ b.rank⟩

instance (a b : Pending) : Decidable (a ≤ b) := inferInstanceAs (Decidable (a.rank ≤ b.rank))

/-- The dearer of what was owed and what is asked for. -/
def mark (owed change : Pending) : Pending := if owed ≤ change then change else owed

theorem rank_inj {a b : Pending} : a.rank = b.rank ↔ a = b := by
  cases a <;> cases b <;> decide

theorem mark_clean (owed : Pending) : owed.mark clean = owed := by
  cases owed <;> rfl

theorem mark_eq_rebuild_iff (owed change : Pending) :
    owed.mark change = rebuild ↔ owed = rebuild ∨ change = rebuild := by
  cases owed <;> cases change <;> decide

theorem mark_rebuild_left (change : Pending) : rebuild.mark change = rebuild :=
  (mark_eq_rebuild_iff ..).mpr (.inl rfl)

theorem mark_rebuild_right (owed : Pending) : owed.mark rebuild = rebuild :=
  (mark_eq_rebuild_iff ..).mpr (.inr rfl)

theorem rebuild_le_iff (p : Pending) : rebuild ≤ p ↔ p = rebuild := by
  cases p <;> decide

theorem relight_le_iff (p : Pending) : relight ≤ p ↔ p = relight ∨ p = rebuild := by
  cases p <;> decide

def isVisualDirty (p : Pending) : Bool := decide (rebuild ≤ p)

theorem isVisualDirty_iff (p : Pending) : p.isVisualDirty = true ↔ p = rebuild :=
  decide_eq_true_iff.trans p.rebuild_le_iff

def isLightingDirty (p : Pending) : Bool := decide (relight ≤ p)

def isOverlayDirty (p : Pending) : Bool := decide (overlayOnly ≤ p)

def name : Pending → String
  | clean => "Clean"
  | overlayOnly => "DebugOnly"
  | relight => "Relight"
  | rebuild => "Rebuild"

end Pending

end VoxelGI
