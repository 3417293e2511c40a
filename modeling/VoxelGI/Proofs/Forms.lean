import Mathlib.Data.List.Forall2
import VoxelGI.Proofs.Members

/-! Forms take back what is written in them. A form takes a written value if its reader, wherever the
value may stand, takes the text up to its end and gives the value; the forms that are made from
others hand this law on, each at the levels that it opens itself. A record takes any of its fields, in
any order. -/
namespace VoxelGI.Document

structure Place.Holds (p : Place) (levels : Nat) : Prop where
  plain : p.extensions = {}
  not_bare : p.isBare = false
  room : levels ≤ p.room

theorem Place.Holds.member {p : Place} {levels : Nat} (h : p.Holds (levels + 2)) :
    p.member.Holds levels where
  plain := h.plain
  not_bare := rfl
  room := Nat.le_sub_of_add_le h.room

theorem Place.Holds.some_room {p : Place} {levels : Nat} (h : p.Holds (levels + 1)) : 0 < p.room :=
  Nat.lt_of_lt_of_le (Nat.succ_pos levels) h.room

theorem Place.Holds.member_room {p : Place} {levels : Nat} (h : p.Holds (levels + 2)) :
    0 < p.room - 1 :=
  Nat.sub_pos_of_lt (Nat.lt_of_lt_of_le (Nat.lt_add_of_pos_left (Nat.succ_pos levels)) h.room)

/-- A form takes a written value for one of its own. -/
def Form.Takes (f : Form α) (levels : Nat) (w : Writer) (a : α) : Prop :=
  ∀ p : Place, p.Holds levels → ∀ depth, Reads (f.read p) (w (.several depth)) a

theorem Form.Takes.mono {f : Form α} {levels more : Nat} {w : Writer} {a : α} (h : f.Takes levels w a)
    (le : levels ≤ more) : f.Takes more w a := fun p holds depth =>
  h p ⟨holds.plain, holds.not_bare, le.trans holds.room⟩ depth

theorem enter_ok {room : Nat} (some_room : 0 < room) (cs : List Char) :
    enter room cs = .ok ((), cs) := by
  rw [enter, if_neg some_room.ne']
  rfl

theorem expect_cons (c : Char) (rest : List Char) : expect c (c :: rest) = .ok ((), rest) := by
  simp [expect]

theorem space_opens {cs : List Char} (h : Opens cs) : space cs = .ok ((), cs) :=
  space_ok (skip_opens h)

namespace Form

theorem takes_flag (b : Bool) : flag.Takes 0 (writeFlag b) b := fun _ _ _ => reads_flag b _

theorem takes_count (n : UInt32) : count.Takes 0 (writeCount n) n := fun _ _ _ => reads_count n _

theorem takes_single {x : Single} (number : x.isNaN = false) :
    single.Takes 0 (writeSingle x) x := fun _ _ _ => reads_single number _

theorem takes_text (s : String) : text.Takes 0 (writeText s.toList) s := fun _ _ _ => by
  have read := (reads_text s.toList .one).map String.ofList
  rwa [String.ofList_toList] at read

theorem read_overlay_text {p : Place} (not_bare : p.isBare = false) {cs rest s : List Char}
    (read : Document.text cs = .ok (s, rest)) :
    overlay.read p cs = ((Overlay.ofText s).mapError .unknownOverlay).map (·, rest) := by
  obtain ⟨ext, room, bare⟩ := p
  cases not_bare
  have lifted : (liftM (Loose.text s).overlay : Reader Overlay) rest
      = ((Overlay.ofText s).mapError .unknownOverlay).map (·, rest) := by
    simp only [Loose.overlay]
    cases Overlay.ofText s <;> rfl
  exact (bind_ok (loose_literal read ext room)).trans lifted

theorem takes_overlay_text {s : List Char} {o : Overlay} (chosen : Overlay.ofText s = .ok o) :
    overlay.Takes 0 (writeText s) o := by
  intro p holds depth
  have reads := reads_text s (.several depth)
  refine ⟨reads.opens, fun rest ends => ?_⟩
  rw [read_overlay_text holds.not_bare (reads.back rest ends), chosen]
  rfl

theorem takes_overlay (o : Overlay) : overlay.Takes 0 (writeText o.name.toList) o :=
  takes_overlay_text (by cases o <;> rfl)

theorem takes_overlay_number (n : UInt32) : overlay.Takes 0 (writeCount n) (.ofIndex n) := by
  rintro ⟨ext, room, bare⟩ holds depth
  cases holds.not_bare
  refine ⟨(reads_count n (.several depth)).opens, fun rest ends => ?_⟩
  have read := loose_digits (Decimal.allDigits_digits n.toNat) (Decimal.digits_ne_nil _) ends ext room
    (by rw [Decimal.ofDigits_digits]; exact n.toNat_lt)
  rw [Decimal.ofDigits_digits] at read
  have number : (Loose.number n.toNat).overlay = .ok (.ofIndex n) := by
    simp [Loose.overlay, n.toNat_lt]
  exact (bind_ok read).trans (by rw [number]; rfl)

theorem lookAhead_opens {cs : List Char} (opens : Opens cs) :
    lookAhead (fun cs => .ok (cs.head? == some ')')) cs = .ok (false, cs) := by
  rw [lookAhead, beq_false_of_ne (opens.head?_ne rfl)]

theorem rowMember_count {p : Place} (holds : p.Holds 2) (before : Nat) (n : UInt32) {more : Bool}
    {rest left : List Char} (ends : Ends rest) (after : comma rest = .ok (more, left)) :
    rowMember p before true (Decimal.digits n.toNat ++ rest) = .ok ((n, more), left) := by
  have reads := reads_count n .one
  have opens : Opens (Decimal.digits n.toNat ++ rest) := reads.opens.append rest
  refine (bind_ok (space_opens opens)).trans ((bind_ok (lookAhead_opens opens)).trans ?_)
  exact (bind_ok (enter_ok holds.member_room _)).trans
    ((bind_ok (reads.back rest ends)).trans (bind_ok after))

theorem takes_grid (g : Grid) :
    grid.Takes 2 (writeRow [writeCount g.x, writeCount g.y, writeCount g.z]) g := by
  rintro ⟨ext, room, bare⟩ holds depth
  cases holds.not_bare
  refine ⟨rfl, fun rest ends => ?_⟩
  have written : writeRow [writeCount g.x, writeCount g.y, writeCount g.z] (.several depth) ++ rest
      = '(' :: (Decimal.digits g.x.toNat ++ ',' :: ' ' :: (Decimal.digits g.y.toNat ++ ',' :: ' '
        :: (Decimal.digits g.z.toNat ++ ')' :: rest))) := by
    simp [writeRow, writeCount, writeWord, List.intercalate]
  have next (n : UInt32) (rest : List Char) : comma (',' :: ' ' :: (Decimal.digits n.toNat ++ rest))
      = .ok (true, Decimal.digits n.toNat ++ rest) :=
    comma_comma ((skip_space rfl _).trans (skip_opens ((reads_count n .one).opens.append rest)))
  rw [written]
  refine (bind_ok (expect_cons '(' _)).trans ((bind_ok (enter_ok holds.some_room _)).trans ?_)
  refine (bind_ok (rowMember_count holds 0 g.x (.comma _) (next g.y _))).trans ?_
  refine (bind_ok (rowMember_count holds 1 g.y (.comma _) (next g.z _))).trans ?_
  refine (bind_ok (rowMember_count holds 2 g.z (.closed _) (comma_closed rest))).trans ?_
  exact (bind_ok (comma_closed rest)).trans (bind_ok (expect_cons ')' rest))

theorem takes_none (f : Form α) (levels : Nat) : (option f).Takes levels (writeOption none) none := by
  intro p _ depth
  exact ⟨rfl, fun rest ends => bind_ok (acceptWord_append noneWord ends)⟩

theorem takes_some {f : Form α} {levels : Nat} {w : Writer} {a : α} (takes : f.Takes levels w a) :
    (option f).Takes (levels + 1) (writeOption (some w)) (some a) := by
  rintro ⟨ext, room, bare⟩ holds depth
  cases holds.plain
  cases holds.not_bare
  refine ⟨rfl, fun rest ends => ?_⟩
  have reads := takes ⟨{}, room - 1, false⟩ ⟨rfl, rfl, Nat.le_sub_of_add_le holds.room⟩ depth
  let text := w (.several depth) ++ ')' :: rest
  have written : writeOption (some w) (.several depth) ++ rest = someWord ++ '(' :: text := by
    simp [writeOption, someWord, text]
  have not_none : acceptWord noneWord (someWord ++ '(' :: text)
      = .ok (false, someWord ++ '(' :: text) := rfl
  have some_ : acceptWord someWord (someWord ++ '(' :: text) = .ok (true, '(' :: text) := rfl
  have before : space ('(' :: text) = .ok ((), '(' :: text) := space_opens rfl
  have opened : accept ['('] ('(' :: text) = .ok (true, text) := rfl
  have inside : space text = .ok ((), text) := space_opens (reads.opens.append _)
  rw [written]
  refine (bind_ok not_none).trans ?_
  refine (bind_ok ((bind_ok some_).trans ((bind_ok before).trans opened))).trans ?_
  refine (bind_ok inside).trans ?_
  refine (bind_ok ((bind_ok (enter_ok holds.some_room _)).trans (reads.back _ (.closed rest)))).trans ?_
  exact (bind_ok (comma_closed rest)).trans (bind_ok (expect_cons ')' rest))

theorem takes_option {f : Form α} {levels : Nat} {a : Option α}
    (takes : ∀ b, a = some b → f.Takes levels (f.write b) b) :
    (option f).Takes (levels + 1) ((option f).write a) a := by
  cases a with
  | none => exact takes_none f _
  | some b => exact takes_some (takes b rfl)

theorem gathers_items {f : Form α} {levels : Nat} {p : Place} (holds : p.Holds (levels + 2))
    {ws : List Writer} {as : List α} (takes : List.Forall₂ (f.Takes levels) ws as) (depth : Nat) :
    ∀ before, Gathers
      (fun as => do return as ++ [← (do enter (p.room - 1); f.read p.member : Reader α)])
      (ws.map (· (.several depth))) before (before ++ as) := by
  induction takes with
  | nil =>
    intro before
    rw [List.append_nil]
    exact .done before
  | @cons w a ws as taken _ ih =>
    intro before
    have reads := taken p.member holds.member depth
    have member : Reads (do enter (p.room - 1); f.read p.member : Reader α) (w (.several depth)) a :=
      ⟨reads.opens, fun rest ends => (bind_ok (enter_ok holds.member_room _)).trans (reads.back rest ends)⟩
    have further := ih (before ++ [a])
    rw [List.append_assoc] at further
    exact .next (member.map fun a => before ++ [a]) further

theorem takes_list {f : Form α} {levels : Nat} {ws : List Writer} {as : List α}
    (takes : List.Forall₂ (f.Takes levels) ws as) :
    (list f).Takes (levels + 2) (writeList ws) as := by
  intro p holds depth
  refine ⟨by unfold writeList; split <;> rfl, fun rest ends => ?_⟩
  have gathers := gathers_items holds takes (depth + 1) []
  obtain ⟨cs, written, first⟩ : ∃ cs, writeList ws (.several depth) ++ rest = '[' :: cs ∧
      skip .outside cs = .ok (fromFirst depth ']' rest (ws.map (· (.several (depth + 1))))) := by
    cases ws with
    | nil => exact ⟨']' :: rest, rfl, skip_solid rfl (by decide) rest⟩
    | cons w ws =>
      refine ⟨_, ?_, (skip_space (c := '\n') rfl _).trans
        (skip_lines gathers rfl (by decide) depth rest)⟩
      simp [writeList, writeMembers, lines, List.flatMap_map]
  have gathered := gather_lines gathers rfl rfl (by decide) depth cs rest first
  rw [written]
  refine (bind_ok (expect_cons '[' cs)).trans ((bind_ok (enter_ok holds.some_room cs)).trans ?_)
  exact (bind_ok gathered).trans (bind_ok (expect_cons ']' rest))

end Form

section Names

theorem isOpener_of_isFirst {c : Char} (first : Name.isFirst c = true) : isOpener c = true := by
  have spaces : ∀ n ∈ [9, 10, 11, 12, 13, 0x20, 0x85, 0x200e, 0x200f, 0x2028, 0x2029],
      Name.isFirst (Char.ofNat n) = false := by decide +kernel
  -- Layout has few characters, and the table of names holds none of them.
  have visible : isSpace c = false := by
    rw [Bool.eq_false_iff]
    intro space
    have code := spaces c.toNat (by
      simp [isSpace] at space
      simp
      omega)
    rw [Char.ofNat_toNat, first] at code
    cases code
  have differs {d : Char} (other : Name.isFirst d = false) : c ≠ d := by
    rintro rfl
    rw [first] at other
    cases other
  simp [isOpener, visible, differs (d := '/') rfl, differs (d := ')') rfl, differs (d := ']') rfl]

def isPlainName (n : List Char) : Bool := n.head?.any Name.isFirst && n.all Name.isRest

variable {n : List Char} (plain : isPlainName n = true) (rest : List Char)

include plain

theorem not_prefix_of_name {opener : List Char} (no_colon : ':' ∉ opener)
    (other : opener.all Name.isRest = false) : opener.isPrefixOf (n ++ ':' :: rest) = false := by
  rw [Bool.eq_false_iff, ne_eq, List.isPrefixOf_iff_prefix]
  intro starts
  have name_starts : n ++ [':'] <+: n ++ ':' :: rest := ⟨rest, by simp⟩
  -- Of two beginnings of one text, one begins the other: either the whole opener lies in the name
  -- and its colon, or the colon lies in the opener.
  rcases List.prefix_or_prefix_of_prefix starts name_starts with shorter | longer
  · have rest_chars : ∀ c ∈ opener, Name.isRest c = true := by
      intro c mem
      rcases List.mem_append.mp (shorter.subset mem) with mem_name | colon
      · exact List.all_eq_true.mp (Bool.and_eq_true_iff.mp plain).2 c mem_name
      · exact absurd (List.mem_singleton.mp colon ▸ mem) no_colon
    rw [List.all_eq_true.mpr rest_chars] at other
    cases other
  · exact no_colon (longer.subset (by simp))

theorem opens_name : Opens n := by
  cases n with
  | nil => cases plain
  | cons c n => exact isOpener_of_isFirst (Bool.and_eq_true_iff.mp plain).1

theorem name_plain : name (n ++ ':' :: rest) = .ok (n, ':' :: rest) := by
  have no_literal : literalOpeners.any (·.isPrefixOf (n ++ ':' :: rest)) = false := by
    have others : ∀ opener ∈ literalOpeners, ':' ∉ opener ∧ opener.all Name.isRest = false := by
      decide
    rw [List.any_eq_false]
    intro opener mem
    rw [not_prefix_of_name plain rest (others opener mem).1 (others opener mem).2]
    exact Bool.false_ne_true
  have not_raw : ['r', '#'].isPrefixOf (n ++ ':' :: rest) = false :=
    not_prefix_of_name plain rest (by decide) rfl
  cases n with
  | nil => cases plain
  | cons c n =>
    have first : Name.isFirst c = true := (Bool.and_eq_true_iff.mp plain).1
    have chars : ∀ c ∈ n, Name.isRest c = true := fun d mem =>
      List.all_eq_true.mp (Bool.and_eq_true_iff.mp plain).2 d (List.mem_cons_of_mem _ mem)
    have stops : (':' :: rest).head?.any Name.isRest = false := rfl
    have found : name? (c :: n ++ ':' :: rest) = some (c :: n, ':' :: rest) := by
      unfold name?
      rw [no_literal]
      simp only [Bool.false_eq_true, if_false]
      split
      next tail raw =>
        rw [raw] at not_raw
        cases not_raw
      next c' tail _ shape =>
        have tail_shape : n ++ ':' :: rest = tail := (List.cons.inj shape).2
        obtain rfl : c = c' := (List.cons.inj shape).1
        rw [if_pos first, ← tail_shape, takeWhile_run chars stops, dropWhile_run chars stops]
      next shape => cases shape
    rw [name, found]
    rfl

end Names

theorem find?_of_nodup {fields : List (Field σ)} (distinct : (fields.map (·.name)).Nodup)
    {f : Field σ} (mem : f ∈ fields) : fields.find? (·.name == f.name) = some f := by
  induction fields with
  | nil => cases mem
  | cons g fields ih =>
    rw [List.map_cons, List.nodup_cons] at distinct
    rcases List.mem_cons.mp mem with rfl | later
    · simp
    · have differs : g.name ≠ f.name := fun same =>
        distinct.1 (same ▸ List.mem_map_of_mem later)
      rw [List.find?_cons_of_neg (by simpa using differs)]
      exact ih distinct.2 later

structure WellNamed (fields : List (Field σ)) : Prop where
  distinct : (fields.map (·.name)).Nodup
  plain : ∀ f ∈ fields, isPlainName f.name.toList = true

structure Entry (σ : Type) where
  field : Field σ
  value : Writer

namespace Entry

variable {σ : Type}

def name (e : Entry σ) : String := e.field.name

def write (e : Entry σ) : Writer := writeField e.name.toList e.value

def Puts (levels : Nat) (e : Entry σ) (put : σ → σ) : Prop :=
  ∀ p : Place, p.Holds levels → ∀ depth, Reads (e.field.read p) (e.value (.several depth)) put

theorem puts_of {name : String} {form : Form α} {get : σ → α} {put : α → σ → σ} {levels : Nat}
    {w : Writer} {a : α} (takes : form.Takes levels w a) :
    Puts levels ⟨.of name form get put, w⟩ (put a) := fun p holds depth =>
  (takes p holds depth).map put

structure Known (fields : List (Field σ)) (e : Entry σ) : Prop where
  found : fields.find? (·.name == e.name) = some e.field
  plain : isPlainName e.name.toList = true

theorem colon_ok {text : List Char} (opens : Opens text) :
    colon (':' :: ' ' :: text) = .ok ((), text) := by
  have here : Opens (':' :: ' ' :: text) := rfl
  refine (bind_ok (space_opens here)).trans ((bind_ok (expect_cons ':' _)).trans ?_)
  exact space_ok ((skip_space rfl text).trans (skip_opens opens))

theorem reads_field {fields : List (Field σ)} {e : Entry σ} {levels : Nat} {put : σ → σ}
    (known : e.Known fields) (puts : e.Puts levels put) {p : Place} (holds : p.Holds (levels + 2))
    {s : Partial σ} (fresh : e.name ∉ s.seen) (depth : Nat) :
    Reads (readField fields p s) (e.write (.several depth))
      ⟨e.name :: s.seen, put s.record⟩ := by
  have value := puts p.member holds.member depth
  refine ⟨(opens_name known.plain).append _, fun rest ends => ?_⟩
  have written : e.write (.several depth) ++ rest
      = e.name.toList ++ ':' :: ' ' :: (e.value (.several depth) ++ rest) := by
    simp [write, writeField]
  have unseen : s.seen.contains e.name = false := by simpa using fresh
  rw [written]
  refine (bind_ok (enter_ok holds.member_room _)).trans ((bind_ok (name_plain known.plain _)).trans ?_)
  simp only [String.ofList_toList, known.found, unseen]
  refine (bind_ok (colon_ok (value.opens.append rest))).trans ((bind_ok (enter_ok holds.member_room _)).trans ?_)
  exact bind_ok (value.back rest ends)

theorem gathers {fields : List (Field σ)} {entries : List (Entry σ)} {puts : List (σ → σ)}
    {levels : Nat} {p : Place} (holds : p.Holds (levels + 2))
    (all_put : List.Forall₂ (Puts levels) entries puts) (depth : Nat) :
    ∀ s : Partial σ, (∀ e ∈ entries, e.Known fields) → (entries.map name).Nodup →
      (∀ e ∈ entries, e.name ∉ s.seen) →
      Gathers (readField fields p) (entries.map fun e => e.write (.several depth)) s
        ⟨(entries.map name).reverse ++ s.seen, puts.foldl (fun r put => put r) s.record⟩ := by
  induction all_put with
  | nil => exact fun s _ _ _ => .done s
  | @cons e put entries puts puts_here _ ih =>
    intro s known distinct fresh
    have reads := reads_field (known e List.mem_cons_self) puts_here holds
      (fresh e List.mem_cons_self) depth
    rw [List.map_cons, List.nodup_cons] at distinct
    have further := ih ⟨e.name :: s.seen, put s.record⟩
      (fun e' mem => known e' (List.mem_cons_of_mem _ mem)) distinct.2 (by
        intro e' mem
        rw [List.mem_cons, not_or]
        refine ⟨?_, fresh e' (List.mem_cons_of_mem _ mem)⟩
        intro same
        exact distinct.1 (same ▸ List.mem_map_of_mem mem))
    simp only [List.map_cons, List.reverse_cons, List.append_assoc, List.singleton_append,
      List.foldl_cons]
    exact .next reads further

end Entry

theorem readFields_ok (owner : String) {absence : Absence} {start : σ} {fields : List (Field σ)}
    {p : Place} {s : Partial σ} {cs rest : List Char}
    (gathered : gather ')' (readField fields p) true ⟨[], start⟩ cs = .ok (s, rest))
    (complete : absence = .kept ∨ ∀ f ∈ fields, f.name ∈ s.seen) :
    owned owner (readFields fields absence start p) cs = .ok (s.record, rest) := by
  have read : readFields fields absence start p cs = .ok (s.record, rest) := by
    refine (bind_ok gathered).trans ?_
    cases lacking : fields.find? fun f => !s.seen.contains f.name with
    | none => rfl
    | some f =>
      rcases complete with rfl | complete
      · rfl
      · have absent : f.name ∉ s.seen := by simpa using List.find?_some lacking
        exact absurd (complete f (List.mem_of_find?_eq_some lacking)) absent
  rw [owned, read]

namespace Form

theorem record_ok {σ : Type} {owner : String} {absence : Absence} {start : σ}
    {fields : List (Field σ)} {levels : Nat} {p : Place} (holds : p.Holds (levels + 2))
    {s : Partial σ} {inside rest : List Char}
    (gathered : gather ')' (readField fields p) true ⟨[], start⟩ inside = .ok (s, ')' :: rest))
    (complete : absence = .kept ∨ ∀ f ∈ fields, f.name ∈ s.seen) :
    (record owner absence start fields).read p ('(' :: inside) = .ok (s.record, rest) := by
  obtain ⟨ext, room, bare⟩ := p
  cases holds.plain
  cases holds.not_bare
  have fields_read := readFields_ok owner gathered complete
  have unnamed : recordName {} owner ('(' :: inside) = .ok ((), '(' :: inside) := rfl
  have here : Opens ('(' :: inside) := rfl
  refine (bind_ok unnamed).trans ((bind_ok (space_opens here)).trans ?_)
  refine (bind_ok (expect_cons '(' inside)).trans ((bind_ok (enter_ok holds.some_room _)).trans ?_)
  refine (bind_ok fields_read).trans ((bind_ok (comma_closed rest)).trans ?_)
  exact bind_ok (expect_cons ')' rest)

/-- A record is taken with any of its fields, in any order, if their values are taken; fields that it
may not leave out have to be there. -/
theorem takes_record {σ : Type} {owner : String} {absence : Absence} {start : σ}
    {fields : List (Field σ)} {entries : List (Entry σ)} {puts : List (σ → σ)} {levels : Nat}
    (all_put : List.Forall₂ (Entry.Puts levels) entries puts)
    (known : ∀ e ∈ entries, e.Known fields) (distinct : (entries.map Entry.name).Nodup)
    (complete : absence = .kept ∨ ∀ f ∈ fields, f.name ∈ entries.map Entry.name) :
    (record owner absence start fields).Takes (levels + 2) (writeRecord (entries.map Entry.write))
      (puts.foldl (fun r put => put r) start) := by
  intro p holds depth
  refine ⟨rfl, fun rest ends => ?_⟩
  have gathers := Entry.gathers holds all_put (depth + 1) ⟨[], start⟩ known distinct
    (fun _ _ => List.not_mem_nil)
  let texts := entries.map fun e => e.write (.several (depth + 1))
  let inside := '\n' :: (lines depth texts ++ (indent depth ++ ')' :: rest))
  have written : writeRecord (entries.map Entry.write) (.several depth) ++ rest = '(' :: inside := by
    simp [writeRecord, writeMembers, lines, List.flatMap_map, inside, texts]
  have gathered := gather_lines gathers rfl rfl (by decide) depth inside rest
    ((skip_space rfl _).trans (skip_lines gathers rfl (by decide) depth rest))
  rw [written]
  exact record_ok holds gathered (complete.imp_right fun here f mem => by simpa using here f mem)

theorem takes_write {σ : Type} {owner : String} {absence : Absence} {start : σ}
    {fields : List (Field σ)} (named : WellNamed fields) {s : σ} {puts : List (σ → σ)} {levels : Nat}
    (all_put : List.Forall₂ (fun f => Entry.Puts levels ⟨f, f.write s⟩) fields puts) :
    (record owner absence start fields).Takes (levels + 2)
      ((record owner absence start fields).write s) (puts.foldl (fun r put => put r) start) := by
  let entries : List (Entry σ) := fields.map fun f => ⟨f, f.write s⟩
  have names : entries.map Entry.name = fields.map (·.name) := List.map_map
  have known : ∀ e ∈ entries, e.Known fields := by
    intro e mem
    obtain ⟨f, listed, rfl⟩ := List.mem_map.mp mem
    exact ⟨find?_of_nodup named.distinct listed, named.plain f listed⟩
  have written : (record owner absence start fields).write s
      = writeRecord (entries.map Entry.write) := by
    simp only [record, entries, List.map_map]
    rfl
  rw [written]
  exact takes_record (List.forall₂_map_left_iff.mpr all_put) known (names ▸ named.distinct)
    (.inr fun f mem => names ▸ List.mem_map_of_mem mem)

end Form

end VoxelGI.Document
