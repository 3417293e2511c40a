import Mathlib.Data.List.Perm.Subperm
import VoxelGI.Proofs.Forms

/-! Records of which a document lists some fields only. Whichever fields it lists, and in whatever
order, the record is read as the one that holds the values of these, as long as each value adds its own
field and leaves the other ones alone. -/
namespace VoxelGI.Document

def writeListing (fields : List Writer) : Writer :=
  if fields.isEmpty then writeWord ['(', ')'] else writeRecord fields

/-- Some fields of a record by their names, each once, in the order in which a document lists them. -/
structure Listing (fields : List (Field σ)) where
  names : List String
  known : names.Subperm (fields.map (·.name))

namespace Listing

variable {σ : Type} {fields : List (Field σ)}

def all (fields : List (Field σ)) : Listing fields := ⟨fields.map (·.name), List.Subperm.refl _⟩

def chosen (listed : Listing fields) : List (Field σ) :=
  listed.names.filterMap fun n => fields.find? (·.name == n)

def write (listed : Listing fields) (value : Field σ → Writer) : Writer :=
  writeListing (listed.chosen.map fun f => writeField f.name.toList (value f))

theorem nodup (listed : Listing fields) (named : WellNamed fields) : listed.names.Nodup := by
  obtain ⟨names, same, part⟩ := listed.known
  exact same.nodup_iff.mp (named.distinct.sublist part)

theorem mem_of_mem_chosen {listed : Listing fields} {f : Field σ} (mem : f ∈ listed.chosen) :
    f ∈ fields := by
  obtain ⟨n, -, found⟩ := List.mem_filterMap.mp mem
  exact List.mem_of_find?_eq_some found

theorem map_name_found {names : List String} (known : ∀ n ∈ names, n ∈ fields.map (·.name)) :
    (names.filterMap fun n => fields.find? (·.name == n)).map (·.name) = names := by
  induction names with
  | nil => rfl
  | cons n names ih =>
    rw [List.forall_mem_cons] at known
    obtain ⟨f, mem, rfl⟩ := List.mem_map.mp known.1
    obtain ⟨g, found⟩ : ∃ g, fields.find? (·.name == f.name) = some g :=
      Option.isSome_iff_exists.mp (List.find?_isSome.mpr ⟨f, mem, beq_self_eq_true _⟩)
    have same : g.name = f.name := by simpa using List.find?_some found
    simp [found, ih known.2, same]

theorem map_name_chosen (listed : Listing fields) : listed.chosen.map (·.name) = listed.names :=
  map_name_found fun _ mem => listed.known.subset mem

theorem chosen_all (named : WellNamed fields) : (all fields).chosen = fields := by
  have found : ∀ f ∈ fields, fields.find? (·.name == f.name) = some f := fun _ mem =>
    find?_of_nodup named.distinct mem
  simp [chosen, all, List.filterMap_map, List.filterMap_congr found]

end Listing

namespace Entry

variable {σ : Type}

/-- In a record that holds the values of some fields, by their names, reading the value of an entry
adds its field to them. -/
def Adds (levels : Nat) (holding : List String → σ) (e : Entry σ) : Prop :=
  ∃ put, e.Puts levels put ∧ ∀ names, put (holding names) = holding (names ++ [e.name])

theorem adds_of {name : String} {form : Form α} {get : σ → α} {put : α → σ → σ} {levels : Nat}
    {w : Writer} {a : α} {holding : List String → σ} (takes : form.Takes levels w a)
    (adds : ∀ names, put a (holding names) = holding (names ++ [name])) :
    Adds levels holding ⟨.of name form get put, w⟩ :=
  ⟨put a, puts_of takes, adds⟩

theorem puts_of_adds {levels : Nat} {holding : List String → σ} {entries : List (Entry σ)}
    (adds : ∀ e ∈ entries, e.Adds levels holding) :
    ∃ puts, List.Forall₂ (Puts levels) entries puts ∧ ∀ names,
      puts.foldl (fun r put => put r) (holding names) = holding (names ++ entries.map name) := by
  induction entries with
  | nil => exact ⟨[], .nil, fun names => by simp⟩
  | cons e entries ih =>
    rw [List.forall_mem_cons] at adds
    obtain ⟨put, puts_here, adds_here⟩ := adds.1
    obtain ⟨puts, puts_later, adds_later⟩ := ih adds.2
    refine ⟨put :: puts, .cons puts_here puts_later, fun names => ?_⟩
    rw [List.foldl_cons, adds_here, adds_later, List.map_cons, List.append_assoc]
    rfl

end Entry

namespace Form

variable {σ : Type} {fields : List (Field σ)}

theorem takes_empty (owner : String) (start : σ) (fields : List (Field σ)) (levels : Nat) :
    (record owner .kept start fields).Takes (levels + 2) (writeWord ['(', ')']) start := by
  refine fun p holds depth => ⟨rfl, fun rest ends => ?_⟩
  have here : skip .outside (')' :: rest) = .ok (')' :: rest) := skip_solid rfl (by decide) rest
  have gathered : gather ')' (readField fields p) true ⟨[], start⟩ (')' :: rest)
      = .ok (⟨[], start⟩, ')' :: rest) := by
    rw [gather, here]
    simp
  exact record_ok holds gathered (.inl rfl)

/-- A record is taken with any fields that it lists as the record that holds the values of these. -/
theorem takes_listing {owner : String} {holding : List String → σ} {value : Field σ → Writer}
    {levels : Nat} (named : WellNamed fields)
    (adds : ∀ f ∈ fields, Entry.Adds levels holding ⟨f, value f⟩) (listed : Listing fields) :
    (record owner .kept (holding []) fields).Takes (levels + 2) (listed.write value)
      (holding listed.names) := by
  let entries : List (Entry σ) := listed.chosen.map fun f => ⟨f, value f⟩
  have names : entries.map Entry.name = listed.names := by
    rw [List.map_map]
    exact listed.map_name_chosen
  have of_field {P : Entry σ → Prop} (each : ∀ f ∈ fields, P ⟨f, value f⟩) : ∀ e ∈ entries, P e := by
    intro e mem
    obtain ⟨f, chosen, rfl⟩ := List.mem_map.mp mem
    exact each f (Listing.mem_of_mem_chosen chosen)
  obtain ⟨puts, all_put, put_all⟩ := Entry.puts_of_adds (of_field adds)
  have written : listed.write value = writeListing (entries.map Entry.write) := by
    simp only [Listing.write, entries, List.map_map]
    rfl
  have whole := put_all []
  rw [List.nil_append, names] at whole
  rw [written, ← whole, writeListing]
  split
  next none =>
    have nothing : entries = [] := by simpa using none
    have no_puts : puts = [] := by
      rw [nothing] at all_put
      exact List.forall₂_nil_left_iff.mp all_put
    rw [no_puts]
    exact takes_empty owner _ fields levels
  next =>
    have known : ∀ e ∈ entries, e.Known fields :=
      of_field fun f mem => ⟨find?_of_nodup named.distinct mem, named.plain f mem⟩
    exact takes_record all_put known (names ▸ listed.nodup named) (.inl rfl)

end Form

end VoxelGI.Document
