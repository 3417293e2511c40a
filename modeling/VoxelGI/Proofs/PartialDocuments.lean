import VoxelGI.Proofs.CascadeGrids
import VoxelGI.Proofs.RoundTrip

/-! Documents that list some fields only. Whichever fields a document lists of a configuration and of
each of its cascades, and in whatever order, it is read as the configuration that has the listed
values, and the defaults for everything else. -/
namespace VoxelGI

theorem CascadeOverride.keeping_isAllocatable {o : CascadeOverride} (sound : o.isAllocatable = true)
    (names : List String) : (o.keeping names).isAllocatable = true := by
  simp only [isAllocatable, Bool.and_eq_true, keeping] at sound ⊢
  constructor <;> split <;> simp [sound]

namespace Config

def documentWith (c : Config) (overlay : Document.Writer)
    (listed : Document.Listing Document.Form.configFields)
    (overrides : Nat → Document.Listing Document.Form.overrideFields) : String :=
  String.ofList (listed.write (c.fieldText overlay overrides) (.several 0))

/-- The document that lists some fields of a configuration, and some fields of each cascade, with the
values that they have in its whole document. -/
def partialDocument (c : Config) (listed : Document.Listing Document.Form.configFields)
    (overrides : Nat → Document.Listing Document.Form.overrideFields) : String :=
  c.documentWith (Document.Form.overlay.write c.overlay) listed overrides

theorem partialDocument_all (c : Config) :
    c.partialDocument (.all _) (fun _ => .all _) = c.toDocument := by
  rw [partialDocument, documentWith, Document.Form.write_config_all]
  rfl

section Reading

variable {c : Config} (valid : c.validate = .ok ())

include valid

theorem validate_keeping (names : List String) :
    (c.keeping names).validate = .ok () := by
  rw [validate_ok_iff_parts] at valid ⊢
  simp only [keeping]
  refine ⟨?_, ?_, ?_⟩ <;> split
  · exact valid.1
  · rfl
  · exact valid.2.1
  · rfl
  · exact valid.2.2
  · exact List.forall_mem_nil _

theorem validate_keepingEach (overrides : Nat → Document.Listing Document.Form.overrideFields) :
    (c.keepingEach overrides).validate = .ok () := by
  rw [validate_ok_iff_parts] at valid ⊢
  refine ⟨valid.1, valid.2.1, fun o inside => ?_⟩
  obtain ⟨i, _, rfl⟩ := List.mem_mapIdx.mp inside
  exact CascadeOverride.keeping_isAllocatable (valid.2.2 _ (List.getElem_mem _)) _

variable (numeric : c.IsNumeric) (listed : Document.Listing Document.Form.configFields)
  (overrides : Nat → Document.Listing Document.Form.overrideFields)

include numeric

theorem parse_documentWith {overlayText : Document.Writer} {o : Overlay}
    (taken : Document.Form.overlay.Takes 0 overlayText o) :
    Config.parse (c.documentWith overlayText listed overrides)
      = .ok (({ c with overlay := o }.keepingEach overrides).keeping listed.names) := by
  let written := listed.write (c.fieldText overlayText overrides) (.several 0)
  have opening : written.head? = some '(' := by
    simp only [written, Document.Listing.write, Document.writeListing]
    split <;> rfl
  have no_preamble : written.head? ≠ some '#' := by
    rw [opening]
    decide
  have read : Document.parse .config (c.documentWith overlayText listed overrides) = .ok _ :=
    Document.parse_written (Document.Form.takes_config_listing numeric taken overrides listed)
      (by decide) no_preamble
  have same_grids : { c with overlay := o }.validate = .ok () := valid
  have sound := validate_keeping (validate_keepingEach same_grids overrides) listed.names
  rw [Config.parse, read]
  simp only [sound]
  rfl

end Reading

/-- A document that lists some fields of an accepted configuration, and some fields of each cascade,
in any order, is read as the configuration that has those, and defaults elsewhere. -/
theorem parse_partialDocument {c : Config} (valid : c.validate = .ok ()) (numeric : c.IsNumeric)
    (listed : Document.Listing Document.Form.configFields)
    (overrides : Nat → Document.Listing Document.Form.overrideFields) :
    Config.parse (c.partialDocument listed overrides)
      = .ok ((c.keepingEach overrides).keeping listed.names) :=
  parse_documentWith valid numeric listed overrides (Document.Form.takes_overlay c.overlay)

theorem parse_partialDocument_swapped :
    let c : Config := {
      title := "GI"
      enabled := true
      bounceCount := 2
      cascades := [{ resolution := some (.cube 8), octantCount := some ⟨1, 2, 3⟩ },
        { resolution := some (.cube 4) }] }
    let document := "(\n  cascades: [\n    (\n      octant_count: Some((1, 2, 3)),\n    ),\n"
      ++ "    (),\n  ],\n  enabled: true,\n)"
    c.validate = .ok () ∧ c.IsNumeric ∧ Config.parse document
      = .ok { enabled := true, cascades := [{ octantCount := some ⟨1, 2, 3⟩ }, {}] } := by
  intro c document
  have valid : c.validate = .ok () := by decide
  have numeric : c.IsNumeric := {
    thinWallCounter := rfl
    cascades :=
      List.forall_mem_cons.mpr ⟨⟨nofun, nofun⟩, List.forall_mem_singleton.mpr ⟨nofun, nofun⟩⟩ }
  let overrides : Nat → Document.Listing Document.Form.overrideFields := fun i =>
    if i = 0 then ⟨["octant_count"], by decide⟩ else ⟨[], by decide⟩
  let listed : Document.Listing Document.Form.configFields := ⟨["cascades", "enabled"], by decide⟩
  have written : c.partialDocument listed overrides = document := by decide +kernel
  have kept : (c.keepingEach overrides).keeping listed.names
      = { enabled := true, cascades := [{ octantCount := some ⟨1, 2, 3⟩ }, {}] } := by decide
  have read := parse_partialDocument valid numeric listed overrides
  rw [written, kept] at read
  exact ⟨valid, numeric, read⟩

end Config

end VoxelGI
