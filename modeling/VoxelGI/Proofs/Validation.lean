import VoxelGI.Proofs.CascadeGrids
import VoxelGI.Proofs.Numerals

/-! The check of a configuration. The places at which a configuration may hold a grid come in an order,
and the check finds the first one in that order whose grid has an empty axis. Its message tells the
place and the grid, and nothing else that the configuration says matters. -/
namespace VoxelGI

def GridField.rank : GridField → Nat
  | resolution => 0
  | octantCount => 1

theorem GridField.rank_lt (f : GridField) : f.rank < 2 := by
  cases f <;> decide

/-- The number of places that come before this one: the configuration's own grids are checked before
those of its cascades, these in the order of the cascades, and a resolution before the octants. -/
def GridPlace.rank (p : GridPlace) : Nat :=
  match p.cascade with
  | none => p.field.rank
  | some i => 2 * (i + 1) + p.field.rank

def CascadeOverride.grid? (o : CascadeOverride) : GridField → Option Grid
  | .resolution => o.resolution
  | .octantCount => o.octantCount

theorem Grid.isAllocatable_eq_false_iff (g : Grid) :
    g.isAllocatable = false ↔ ∃ axis, g.get axis = 0 := by
  rw [← Bool.not_eq_true, g.isAllocatable_iff]
  push Not
  rfl

theorem CascadeOverride.isAllocatable_iff (o : CascadeOverride) : o.isAllocatable = true ↔
    ∀ field grid, o.grid? field = some grid → ∀ axis, grid.get axis ≠ 0 := by
  have whole (g : Option Grid) : g.all Grid.isAllocatable = true ↔
      ∀ grid, g = some grid → ∀ axis, grid.get axis ≠ 0 := by
    cases g <;> simp [Grid.isAllocatable_iff]
  rw [isAllocatable, Bool.and_eq_true, whole, whole]
  constructor
  · rintro ⟨resolution, octantCount⟩ (_ | _)
    · exact resolution
    · exact octantCount
  · exact fun h => ⟨h .resolution, h .octantCount⟩

def PlacedGrid.Ordered (gs : List PlacedGrid) : Prop :=
  gs.Pairwise fun a b => a.place.rank < b.place.rank

/-- Of grids in order, the first that fails a test is the one that no other failing one comes
before. -/
theorem PlacedGrid.Ordered.find?_eq_some_iff {gs : List PlacedGrid} (h : Ordered gs)
    {fails : PlacedGrid → Bool} {g : PlacedGrid} : gs.find? fails = some g ↔
      g ∈ gs ∧ fails g = true ∧ ∀ b ∈ gs, b.place.rank < g.place.rank → fails b = false := by
  induction h with
  | nil => simp
  | @cons a rest below _ ih =>
    rw [List.find?_cons]
    cases here : fails a with
    | true =>
      constructor
      · intro same
        obtain rfl := Option.some.inj same
        refine ⟨List.mem_cons_self, here, List.forall_mem_cons.mpr ⟨?_, ?_⟩⟩
        · exact fun before => absurd before (Nat.lt_irrefl _)
        · exact fun b later before => absurd (below b later) (Nat.lt_asymm before)
      · rintro ⟨inside, _, first⟩
        rcases List.mem_cons.mp inside with rfl | later
        · rfl
        · have passes := first a List.mem_cons_self (below g later)
          exact absurd (here.symm.trans passes) nofun
    | false =>
      constructor
      · intro found
        obtain ⟨inside, failing, first⟩ := ih.mp found
        exact ⟨List.mem_cons_of_mem a inside, failing, List.forall_mem_cons.mpr ⟨fun _ => here, first⟩⟩
      · rintro ⟨inside, failing, first⟩
        rcases List.mem_cons.mp inside with rfl | later
        · exact absurd (here.symm.trans failing) nofun
        · exact ih.mpr ⟨later, failing, fun b further => first b (List.mem_cons_of_mem a further)⟩

namespace Config

def gridAt? (c : Config) : GridPlace → Option Grid
  | ⟨none, .resolution⟩ => some c.resolution
  | ⟨none, .octantCount⟩ => some c.octantCount
  | ⟨some i, field⟩ => c.cascades[i]?.bind (·.grid? field)

theorem mem_cascadeGrids {index : Nat} {o : CascadeOverride} {g : PlacedGrid} :
    g ∈ cascadeGrids index o ↔
      g.place.cascade = some index ∧ o.grid? g.place.field = some g.grid := by
  obtain ⟨⟨cascade, field⟩, grid⟩ := g
  cases field <;> simp [cascadeGrids, CascadeOverride.grid?, eq_comm, and_comm]

theorem mem_gridsFrom {index : Nat} {os : List CascadeOverride} {g : PlacedGrid} :
    g ∈ gridsFrom index os ↔ ∃ i, g.place.cascade = some (index + i) ∧
      os[i]?.bind (·.grid? g.place.field) = some g.grid := by
  induction os generalizing index with
  | nil => simp [gridsFrom]
  | cons o rest ih =>
    rw [gridsFrom, List.mem_append, mem_cascadeGrids, ih]
    constructor
    · rintro (⟨here, held⟩ | ⟨i, here, held⟩)
      · exact ⟨0, here, held⟩
      · exact ⟨i + 1, by rw [here, Nat.add_right_comm, Nat.add_assoc], held⟩
    · rintro ⟨_ | i, here, held⟩
      · exact .inl ⟨here, held⟩
      · exact .inr ⟨i, by rw [here, Nat.add_right_comm, Nat.add_assoc], held⟩

/-- The grids that are checked are those that the configuration holds at the places. -/
theorem mem_grids {c : Config} {g : PlacedGrid} :
    g ∈ c.grids ↔ c.gridAt? g.place = some g.grid := by
  obtain ⟨⟨cascade, field⟩, grid⟩ := g
  cases cascade with
  | none => cases field <;> simp [grids, gridAt?, mem_gridsFrom, eq_comm]
  | some i => simp [grids, gridAt?, mem_gridsFrom]

theorem ordered_cascadeGrids (index : Nat) (o : CascadeOverride) :
    PlacedGrid.Ordered (cascadeGrids index o) := by
  cases res : o.resolution <;> cases oct : o.octantCount <;>
    simp [PlacedGrid.Ordered, cascadeGrids, res, oct, GridPlace.rank, GridField.rank]

theorem ordered_gridsFrom (index : Nat) (os : List CascadeOverride) :
    PlacedGrid.Ordered (gridsFrom index os) := by
  induction os generalizing index with
  | nil => exact .nil
  | cons o rest ih =>
    refine List.pairwise_append.mpr ⟨ordered_cascadeGrids index o, ih _, fun a here b later => ?_⟩
    obtain ⟨i, cascade, _⟩ := mem_gridsFrom.mp later
    have below := a.place.field.rank_lt
    simp only [GridPlace.rank, (mem_cascadeGrids.mp here).1, cascade]
    omega

theorem ordered_grids (c : Config) : PlacedGrid.Ordered c.grids := by
  have later : ∀ g ∈ gridsFrom 0 c.cascades, 1 < g.place.rank := by
    intro g inside
    obtain ⟨i, cascade, _⟩ := mem_gridsFrom.mp inside
    simp only [GridPlace.rank, cascade]
    omega
  refine .cons ?_ (.cons later (ordered_gridsFrom 0 _))
  rw [List.forall_mem_cons]
  exact ⟨Nat.zero_lt_one, fun g inside => Nat.zero_lt_of_lt (later g inside)⟩

structure FirstFault (c : Config) (g : PlacedGrid) : Prop where
  held : c.gridAt? g.place = some g.grid
  empty : ∃ axis, g.grid.get axis = 0
  first : ∀ place grid, place.rank < g.place.rank → c.gridAt? place = some grid →
    ∀ axis, grid.get axis ≠ 0

theorem firstFault_eq_some_iff {c : Config} {g : PlacedGrid} :
    c.firstFault = some g ↔ c.FirstFault g := by
  rw [firstFault, c.ordered_grids.find?_eq_some_iff]
  simp only [Bool.not_eq_true', Bool.not_eq_false', mem_grids, Grid.isAllocatable_iff,
    Grid.isAllocatable_eq_false_iff]
  constructor
  · rintro ⟨held, empty, first⟩
    exact ⟨held, empty, fun place grid before held => first ⟨place, grid⟩ held before⟩
  · rintro ⟨held, empty, first⟩
    exact ⟨held, empty, fun b held before => first b.place b.grid before held⟩

theorem validate_eq_error_iff {c : Config} {fault : ConfigFault} :
    c.validate = .error fault ↔ ∃ g, c.FirstFault g ∧ fault = .emptyGrid g := by
  simp only [← firstFault_eq_some_iff]
  unfold validate
  cases c.firstFault <;> simp [eq_comm]

theorem validate_congr {c d : Config} (same : d.gridAt? = c.gridAt?) :
    d.validate = c.validate := by
  have faults (g : PlacedGrid) : d.FirstFault g ↔ c.FirstFault g := by
    constructor <;> rintro ⟨held, empty, first⟩ <;> exact ⟨same ▸ held, empty, same ▸ first⟩
  have found : d.firstFault = c.firstFault := by
    apply Option.ext
    simp only [firstFault_eq_some_iff, faults, implies_true]
  rw [validate, validate, found]

end Config

theorem Grid.toList_text (g : Grid) : g.text.toList =
    '[' :: (Decimal.digits g.x.toNat ++ ',' :: ' ' :: (Decimal.digits g.y.toNat ++
      ',' :: ' ' :: (Decimal.digits g.z.toNat ++ [']']))) := by
  simp [text, Decimal.digits, toString]

theorem Grid.text_injective {g g' : Grid} (same : g.text = g'.text) : g = g' := by
  have spelled := congrArg String.toList same
  rw [toList_text, toList_text, List.cons.injEq] at spelled
  obtain ⟨x, rest⟩ := Decimal.digits_append_inj rfl rfl spelled.2
  simp only [List.cons.injEq, true_and] at rest
  obtain ⟨y, rest⟩ := Decimal.digits_append_inj rfl rfl rest
  simp only [List.cons.injEq, true_and] at rest
  obtain ⟨z, _⟩ := Decimal.digits_append_inj rfl rfl rest
  obtain ⟨gx, gy, gz⟩ := g
  obtain ⟨hx, hy, hz⟩ := g'
  simp_all [UInt32.toNat_inj]

theorem GridField.name_injective {f f' : GridField} (same : f.name = f'.name) : f = f' := by
  revert same
  cases f <;> cases f' <;> decide

namespace GridPlace

theorem toList_path_cascade (i : Nat) (f : GridField) : (path ⟨some i, f⟩).toList =
    "cascades[".toList ++ (Decimal.digits i ++ ']' :: '.' :: f.name.toList) := by
  simp [path, Decimal.digits, toString]

theorem path_injective {p p' : GridPlace} (same : p.path = p'.path) : p = p' := by
  obtain ⟨cascade, f⟩ := p
  obtain ⟨cascade', f'⟩ := p'
  have spelled := congrArg String.toList same
  cases cascade with
  | none =>
    cases cascade' with
    | none => exact congrArg _ (GridField.name_injective same)
    | some i' =>
      rw [toList_path_cascade] at spelled
      cases f <;> simp [path, GridField.name] at spelled
  | some i =>
    cases cascade' with
    | none =>
      rw [toList_path_cascade] at spelled
      cases f' <;> simp [path, GridField.name] at spelled
    | some i' =>
      rw [toList_path_cascade, toList_path_cascade, List.append_cancel_left_eq] at spelled
      obtain ⟨rfl, rest⟩ := Decimal.digits_append_inj rfl rfl spelled
      simp only [List.cons.injEq, true_and, String.toList_inj] at rest
      exact congrArg _ (GridField.name_injective rest)

theorem path_solid (p : GridPlace) : ∀ c ∈ p.path.toList, (c != ' ') = true := by
  have named (f : GridField) : ∀ c ∈ f.name.toList, (c != ' ') = true := by
    cases f <;> simp [GridField.name]
  have numbered (i : Nat) : ∀ c ∈ Decimal.digits i, (c != ' ') = true := by
    intro c inside
    have digit := Decimal.allDigits_digits i c inside
    rw [bne_iff_ne]
    rintro rfl
    contradiction
  obtain ⟨cascade, f⟩ := p
  cases cascade with
  | none => exact named f
  | some i =>
    rw [toList_path_cascade]
    simp only [List.forall_mem_append, List.forall_mem_cons]
    exact ⟨by simp, numbered i, rfl, rfl, named f⟩

end GridPlace

namespace PlacedGrid

theorem toList_faultMessage (g : PlacedGrid) : g.faultMessage.toList =
    "invalid GI config: ".toList ++ (g.place.path.toList ++
      (" must be non-zero on every axis, got ".toList ++ g.grid.text.toList)) := by
  unfold faultMessage
  rw [String.toList_append, String.toList_append, String.toList_append, List.append_assoc,
    List.append_assoc]

/-- The message of a fault tells it from every other. -/
theorem faultMessage_injective {g g' : PlacedGrid} (same : g.faultMessage = g'.faultMessage) :
    g = g' := by
  have spelled := congrArg String.toList same
  rw [toList_faultMessage, toList_faultMessage, List.append_cancel_left_eq] at spelled
  have stop (rest : List Char) :
      (" must be non-zero on every axis, got ".toList ++ rest).head?.any (· != ' ') = false := by
    simp
  obtain ⟨path, rest⟩ := run_append_inj g.place.path_solid g'.place.path_solid
    (stop g.grid.text.toList) (stop g'.grid.text.toList) spelled
  rw [List.append_cancel_left_eq, String.toList_inj] at rest
  obtain ⟨place, grid⟩ := g
  obtain ⟨place', grid'⟩ := g'
  obtain rfl := GridPlace.path_injective (String.toList_inj.mp path)
  obtain rfl := Grid.text_injective rest
  rfl

end PlacedGrid

namespace Config

/-- A configuration is accepted exactly if none of its grids has an empty axis. Otherwise the fault is
the first grid that has one, and the message tells its place and its values and fits no other fault.
Whatever else the configuration says does not matter. -/
theorem validate_finds_first_fault (c : Config) :
    (c.validate = .ok () ↔ (∀ axis, c.resolution.get axis ≠ 0) ∧
      (∀ axis, c.octantCount.get axis ≠ 0) ∧
      ∀ o ∈ c.cascades, ∀ field grid, o.grid? field = some grid → ∀ axis, grid.get axis ≠ 0) ∧
    (∀ fault, c.validate = .error fault ↔ ∃ g, c.FirstFault g ∧ fault = .emptyGrid g) ∧
    (∀ g, c.FirstFault g →
      (ConfigFault.emptyGrid g).message? = some ("invalid GI config: " ++ g.place.path ++
        " must be non-zero on every axis, got " ++ g.grid.text) ∧
      ∀ g', (ConfigFault.emptyGrid g').message? = (ConfigFault.emptyGrid g).message? → g' = g) ∧
    ∀ d : Config, d.gridAt? = c.gridAt? → d.validate = c.validate := by
  refine ⟨?_, fun _ => validate_eq_error_iff, fun g _ => ⟨rfl, fun g' same => ?_⟩,
    fun _ => validate_congr⟩
  · simp only [validate_ok_iff_parts, Grid.isAllocatable_iff, CascadeOverride.isAllocatable_iff]
  · exact PlacedGrid.faultMessage_injective (Option.some.inj same)

theorem validate_finds_first_fault_of_three :
    let c : Config := { cascades := [{}, { octantCount := some ⟨1, 0, 1⟩ },
      { resolution := some ⟨0, 1, 1⟩, octantCount := some ⟨0, 0, 0⟩ }] }
    let g : PlacedGrid := ⟨⟨some 1, .octantCount⟩, ⟨1, 0, 1⟩⟩
    c.FirstFault g ∧ c.validate = .error (.emptyGrid g) ∧ (ConfigFault.emptyGrid g).message? =
      some "invalid GI config: cascades[1].octant_count must be non-zero on every axis, got [1, 0, 1]" := by
  intro c g
  have first : c.FirstFault g := firstFault_eq_some_iff.mp (by decide)
  obtain ⟨_, faults, messages, _⟩ := c.validate_finds_first_fault
  refine ⟨first, (faults _).mpr ⟨g, first, rfl⟩, (messages g first).1.trans ?_⟩
  decide +kernel

end Config

end VoxelGI
