import Mathlib.Data.Nat.Basic
import Mathlib.Order.MinMax
import VoxelGI.Pending

/-! The work that is owed is linearly ordered by its cost, and marking more work takes the maximum. -/
namespace VoxelGI.Pending

theorem rank_injective : Function.Injective rank := fun _ _ => rank_inj.mp

instance : LinearOrder Pending := LinearOrder.lift' rank rank_injective

theorem mark_eq_max (owed change : Pending) : owed.mark change = max owed change := rfl

end VoxelGI.Pending
