import VoxelGI.Document.Config
import VoxelGI.Proofs.Listings

/-! A configuration survives being written and read. Whatever its title, counts, lengths and cascades,
as long as its lengths are numbers, the document of a configuration is read as that configuration, and
nothing but the check of its grids can refuse it. This is the case in which a document lists all there
is: whatever it lists of a configuration and of each cascade is taken, and the rest is left at its
default. -/
namespace VoxelGI

structure Extent.IsNumeric (e : Extent) : Prop where
  x : e.x.isNaN = false
  y : e.y.isNaN = false
  z : e.z.isNaN = false

structure CascadeOverride.IsNumeric (o : CascadeOverride) : Prop where
  halfExtent : ∀ e, o.halfExtent = some e → e.IsNumeric
  thinWallCounter : ∀ x, o.thinWallCounter = some x → x.isNaN = false

structure Config.IsNumeric (c : Config) : Prop where
  thinWallCounter : c.thinWallCounter.isNaN = false
  cascades : ∀ o ∈ c.cascades, o.IsNumeric

def CascadeOverride.keeping (o : CascadeOverride) (names : List String) : CascadeOverride :=
  let held (name : String) : CascadeOverride := if name ∈ names then o else {}
  { halfExtent := (held "half_extent").halfExtent
    resolution := (held "resolution").resolution
    octantCount := (held "octant_count").octantCount
    thinWallCounter := (held "thin_wall_counter").thinWallCounter }

theorem CascadeOverride.keeping_all (o : CascadeOverride) :
    o.keeping (Document.Listing.all Document.Form.overrideFields).names = o := by
  rfl

/-- A configuration of which some fields are kept, by the names that they have in documents; the other
ones have their defaults. -/
def Config.keeping (c : Config) (names : List String) : Config :=
  let held (name : String) : Config := if name ∈ names then c else {}
  { title := (held "title").title
    enabled := (held "enabled").enabled
    resolution := (held "resolution").resolution
    octantCount := (held "octant_count").octantCount
    bounceCount := (held "bounce_count").bounceCount
    highQuality := (held "high_quality").highQuality
    anisotropic := (held "anisotropic").anisotropic
    conserveMemory := (held "conserve_memory").conserveMemory
    thinWallCounter := (held "thin_wall_counter").thinWallCounter
    overlay := (held "debug_visualization").overlay
    cascades := (held "cascades").cascades }

theorem Config.keeping_all (c : Config) :
    c.keeping (Document.Listing.all Document.Form.configFields).names = c := by
  rfl

def Config.keepingEach (c : Config) (overrides : Nat → Document.Listing Document.Form.overrideFields) :
    Config :=
  { c with cascades := c.cascades.mapIdx fun i o => o.keeping (overrides i).names }

theorem Config.keepingEach_all (c : Config) : c.keepingEach (fun _ => .all _) = c := by
  have cascades : (c.cascades.mapIdx fun _ o =>
      o.keeping (Document.Listing.all Document.Form.overrideFields).names) = c.cascades :=
    List.mapIdx_eq_iff.mpr fun i => by simp [CascadeOverride.keeping_all]
  rw [keepingEach, cascades]

def Config.fieldText (c : Config) (overlay : Document.Writer)
    (overrides : Nat → Document.Listing Document.Form.overrideFields)
    (f : Document.Field Config) : Document.Writer :=
  if f.name = "debug_visualization" then overlay
  else if f.name = "cascades" then
    Document.writeList (c.cascades.mapIdx fun i o => (overrides i).write (·.write o))
  else f.write c

namespace Document

namespace Form

theorem wellNamed_extentFields : WellNamed extentFields := ⟨by decide, by decide⟩

theorem wellNamed_overrideFields : WellNamed overrideFields :=
  ⟨by decide, by decide⟩

theorem wellNamed_configFields : WellNamed configFields := ⟨by decide, by decide⟩

theorem takes_extent {e : Extent} (numeric : e.IsNumeric) : extent.Takes 2 (extent.write e) e :=
  takes_write wellNamed_extentFields
    (.cons (Entry.puts_of (takes_single numeric.x)) (.cons (Entry.puts_of (takes_single numeric.y))
      (.cons (Entry.puts_of (takes_single numeric.z)) .nil)))

theorem takes_override_listing {o : CascadeOverride} (numeric : o.IsNumeric)
    (listed : Listing overrideFields) :
    cascadeOverride.Takes (3 + 2) (listed.write (·.write o)) (o.keeping listed.names) := by
  suffices adds : ∀ f ∈ overrideFields, Entry.Adds 3 o.keeping ⟨f, f.write o⟩ from
    takes_listing wellNamed_overrideFields adds listed
  simp only [overrideFields, List.forall_mem_cons]
  refine ⟨Entry.adds_of (takes_option fun e held => takes_extent (numeric.halfExtent e held)) ?_,
    Entry.adds_of (takes_option fun g _ => takes_grid g) ?_,
    Entry.adds_of (takes_option fun g _ => takes_grid g) ?_,
    Entry.adds_of (takes_option fun x held =>
      (takes_single (numeric.thinWallCounter x held)).mono (Nat.zero_le 2)) ?_, nofun⟩ <;>
  simp [CascadeOverride.keeping]

theorem takes_overrides {c : Config} (numeric : c.IsNumeric)
    (overrides : Nat → Listing overrideFields) :
    (list cascadeOverride).Takes (5 + 2)
      (writeList (c.cascades.mapIdx fun i o => (overrides i).write (·.write o)))
      (c.keepingEach overrides).cascades := by
  refine takes_list (List.forall₂_iff_get.mpr ⟨by simp [Config.keepingEach], fun i here _ => ?_⟩)
  have inside : i < c.cascades.length := by simpa using here
  simpa [Config.keepingEach] using
    takes_override_listing (numeric.cascades c.cascades[i] (List.getElem_mem inside)) (overrides i)

theorem takes_config_listing {c : Config} (numeric : c.IsNumeric) {overlayText : Writer} {o : Overlay}
    (taken : overlay.Takes 0 overlayText o) (overrides : Nat → Listing overrideFields)
    (listed : Listing configFields) :
    config.Takes (7 + 2) (listed.write (c.fieldText overlayText overrides))
      (({ c with overlay := o }.keepingEach overrides).keeping listed.names) := by
  let result := { c with overlay := o }.keepingEach overrides
  have whole_flag (b : Bool) := (takes_flag b).mono (Nat.zero_le 7)
  have whole_grid (g : Grid) := (takes_grid g).mono (show 2 ≤ 7 by decide)
  have cascades : (list cascadeOverride).Takes 7 _ result.cascades := takes_overrides numeric overrides
  suffices adds : ∀ f ∈ configFields,
      Entry.Adds 7 result.keeping ⟨f, c.fieldText overlayText overrides f⟩ from
    takes_listing wellNamed_configFields adds listed
  simp only [configFields, List.forall_mem_cons]
  refine ⟨Entry.adds_of ((takes_text c.title).mono (Nat.zero_le 7)) ?_,
    Entry.adds_of (whole_flag c.enabled) ?_, Entry.adds_of (whole_grid c.resolution) ?_,
    Entry.adds_of (whole_grid c.octantCount) ?_,
    Entry.adds_of ((takes_count c.bounceCount).mono (Nat.zero_le 7)) ?_,
    Entry.adds_of (whole_flag c.highQuality) ?_, Entry.adds_of (whole_flag c.anisotropic) ?_,
    Entry.adds_of (whole_flag c.conserveMemory) ?_,
    Entry.adds_of ((takes_single numeric.thinWallCounter).mono (Nat.zero_le 7)) ?_,
    Entry.adds_of (taken.mono (Nat.zero_le 7)) ?_, Entry.adds_of cascades ?_, nofun⟩ <;>
  simp [Config.keeping, result, Config.keepingEach]

theorem write_override_all (o : CascadeOverride) :
    (Listing.all overrideFields).write (·.write o) = cascadeOverride.write o := by
  rw [Listing.write, Listing.chosen_all wellNamed_overrideFields]
  rfl

theorem write_config_all (c : Config) :
    (Listing.all configFields).write (c.fieldText (overlay.write c.overlay) fun _ => .all _)
      = config.write c := by
  have cascades : (c.cascades.mapIdx fun _ o => (Listing.all overrideFields).write (·.write o))
      = c.cascades.map cascadeOverride.write :=
    List.mapIdx_eq_iff.mpr fun i => by simp [write_override_all]
  rw [Listing.write, Listing.chosen_all wellNamed_configFields]
  unfold Config.fieldText
  rw [cascades]
  rfl

theorem takes_config {c : Config} (numeric : c.IsNumeric) :
    config.Takes (7 + 2) (config.write c) c := by
  have whole := takes_config_listing numeric (takes_overlay c.overlay) (fun _ => .all _) (.all _)
  rw [← write_config_all]
  rwa [Config.keepingEach_all, Config.keeping_all] at whole

end Form

/-- A document that is one written value, without a preamble, is read as that value. -/
theorem parse_written {form : Form α} {w : Writer} {a : α} {needs : Nat}
    (takes : form.Takes needs w a) (enough : needs ≤ levels)
    (no_preamble : (w (.several 0)).head? ≠ some '#') :
    parse form (String.ofList (w (.several 0))) = .ok a := by
  have reads := takes ⟨{}, levels, false⟩ ⟨rfl, rfl, enough⟩ 0
  have start : preamble {} (w (.several 0)) = .ok ({}, w (.several 0)) := by
    rw [preamble, skip_opens reads.opens]
    simp only [if_neg no_preamble]
  have value := reads.back [] .nothing
  rw [List.append_nil] at value
  rw [parse, String.toList_ofList, start]
  simp only [bind, Except.bind, value]
  rfl

end Document

/-- The document of a configuration of numbers is read as that configuration, bit for bit, if its
grids pass the check; otherwise reading it fails with the fault that the check finds. -/
theorem Config.parse_toDocument (c : Config) (numeric : c.IsNumeric) :
    Config.parse c.toDocument = c.validate.map fun _ => c := by
  have opening : (Document.Form.config.write c (.several 0)).head? = some '(' := rfl
  have no_preamble : (Document.Form.config.write c (.several 0)).head? ≠ some '#' := by
    rw [opening]
    decide
  have read : Document.parse .config c.toDocument = .ok c :=
    Document.parse_written (Document.Form.takes_config numeric) (by decide) no_preamble
  rw [Config.parse, read]

/-- A title with quotes, a backslash, controls, a combining mark and a character beyond the basic
plane; lengths of every kind of number; and cascades that set nothing, one thing and everything. -/
def Config.unusual : Config where
  title := "\"GI\" \\ 'a'\n\t\x00\u0301\u200f😀"
  bounceCount := 4294967295
  thinWallCounter := ⟨0x80000000⟩
  overlay := .lighting
  cascades := [{}, { octantCount := some ⟨1, 2, 3⟩ },
    { halfExtent := some ⟨.infinity, Single.infinity.negate, ⟨1⟩⟩
      resolution := some (.cube 4294967295)
      octantCount := some (.cube 7)
      thinWallCounter := some ⟨0x7f7fffff⟩ }]

theorem Config.parse_toDocument_unusual :
    Config.unusual.IsNumeric ∧ Config.parse Config.unusual.toDocument = .ok Config.unusual := by
  have numeric : Config.unusual.IsNumeric := {
    thinWallCounter := rfl
    cascades := by
      refine List.forall_mem_cons.mpr ⟨⟨nofun, nofun⟩, List.forall_mem_cons.mpr ⟨⟨nofun, nofun⟩, ?_⟩⟩
      refine List.forall_mem_singleton.mpr ⟨fun e held => ?_, fun x held => ?_⟩
      · cases held
        exact ⟨rfl, rfl, rfl⟩
      · cases held
        rfl }
  exact ⟨numeric, Config.parse_toDocument Config.unusual numeric⟩

end VoxelGI
