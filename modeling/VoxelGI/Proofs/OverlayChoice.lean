import VoxelGI.Control.Session
import VoxelGI.Proofs.PartialDocuments

/-! All ways to choose an overlay agree. A text chooses by the name or the number that is left of it
without the blanks around it, and by nothing else; a number chooses the same overlay in a text of any
spelling, in a document and at the control panel. -/
namespace VoxelGI

def AllBlank (cs : List Char) : Prop := ∀ c ∈ cs, isBlank c = true

instance (cs : List Char) : Decidable (AllBlank cs) :=
  decidable_of_iff (cs.all isBlank = true) List.all_eq_true

structure Trims (text trimmed : List Char) : Prop where
  around : ∃ before after, AllBlank before ∧ AllBlank after ∧ text = before ++ trimmed ++ after
  first : trimmed.head?.any isBlank = false
  last : trimmed.getLast?.any isBlank = false

section Trimming

variable {cs text trimmed : List Char}

theorem allBlank_takeWhile (cs : List Char) : AllBlank (cs.takeWhile isBlank) :=
  List.all_eq_true.mp List.all_takeWhile

theorem head?_dropWhile (cs : List Char) : (cs.dropWhile isBlank).head?.any isBlank = false := by
  have first := List.head?_dropWhile_not isBlank cs
  cases here : (cs.dropWhile isBlank).head? with
  | none => rfl
  | some c =>
    rw [here] at first
    exact first

theorem trims_trimBlanks (text : List Char) : Trims text (trimBlanks text) := by
  let front := text.dropWhile isBlank
  let after := (front.reverse.takeWhile isBlank).reverse
  have parts : front = trimBlanks text ++ after := by
    rw [trimBlanks, ← List.reverse_append, List.takeWhile_append_dropWhile, List.reverse_reverse]
  refine ⟨⟨text.takeWhile isBlank, after, allBlank_takeWhile text, ?_, ?_⟩, ?_, ?_⟩
  · exact fun c mem => allBlank_takeWhile front.reverse c (List.mem_reverse.mp mem)
  · rw [List.append_assoc, ← parts, List.takeWhile_append_dropWhile]
  · have first := head?_dropWhile text
    cases trimmed : trimBlanks text with
    | nil => rfl
    | cons c cs =>
      rw [trimmed] at parts
      rwa [show text.dropWhile isBlank = front from rfl, parts] at first
  · rw [trimBlanks, List.getLast?_reverse]
    exact head?_dropWhile front.reverse

theorem Trims.eq (trims : Trims text trimmed) : trimBlanks text = trimmed := by
  obtain ⟨⟨before, after, blank_before, blank_after, rfl⟩, first, last⟩ := trims
  cases trimmed with
  | nil =>
    have all_blank : AllBlank (before ++ after) :=
      List.forall_mem_append.mpr ⟨blank_before, blank_after⟩
    have nothing : (before ++ after ++ []).dropWhile isBlank = [] := dropWhile_run all_blank rfl
    rw [List.append_nil] at nothing
    rw [trimBlanks, List.append_nil, nothing]
    rfl
  | cons c cs =>
    have front : (before ++ (c :: cs) ++ after).dropWhile isBlank = c :: cs ++ after := by
      rw [List.append_assoc]
      exact dropWhile_run blank_before first
    have back : (c :: cs ++ after).reverse.dropWhile isBlank = (c :: cs).reverse := by
      rw [List.reverse_append]
      refine dropWhile_run (by simpa [AllBlank] using blank_after) ?_
      rwa [List.head?_reverse]
    rw [trimBlanks, front, back, List.reverse_reverse]

theorem trimBlanks_eq_iff : trimBlanks text = trimmed ↔ Trims text trimmed :=
  ⟨fun same => same ▸ trims_trimBlanks text, Trims.eq⟩

theorem trims_of_solid {before after : List Char} (solid : ∀ c ∈ cs, isBlank c = false)
    (blank_before : AllBlank before) (blank_after : AllBlank after) :
    Trims (before ++ cs ++ after) cs where
  around := ⟨before, after, blank_before, blank_after, rfl⟩
  first := by
    cases first : cs.head? with
    | none => rfl
    | some c => exact solid c (List.mem_of_head? first)
  last := by
    cases last : cs.getLast? with
    | none => rfl
    | some c => exact solid c (List.mem_of_getLast? last)

end Trimming

namespace Overlay

/-- The spellings of a number: decimal digits, with any zeros before them and perhaps a plus sign. -/
inductive Numbers : List Char → Nat → Prop where
  | plain {ds : List Char} (digits : AllDigits ds) (some_digit : ds ≠ []) :
      Numbers ds (Decimal.ofDigits ds)
  | signed {ds : List Char} (digits : AllDigits ds) (some_digit : ds ≠ []) :
      Numbers ('+' :: ds) (Decimal.ofDigits ds)

inductive Chooses : List Char → Except Unknown Overlay → Prop where
  | name (o : Overlay) : Chooses o.name.toList (.ok o)
  | number {cs : List Char} {n : UInt32} (spelled : Numbers cs n.toNat) : Chooses cs (.ok (ofIndex n))
  | nothing {cs : List Char} (unnamed : ∀ o : Overlay, cs ≠ o.name.toList)
      (uncounted : ∀ n : UInt32, ¬ Numbers cs n.toNat) : Chooses cs (.error ⟨String.ofList cs⟩)

section Spelling

variable {cs : List Char} {n : Nat}

theorem Numbers.opens (spelled : Numbers cs n) :
    ∃ c tail, cs = c :: tail ∧ (c = '+' ∨ c.isDigit = true) := by
  cases spelled with
  | plain digits some_digit =>
    obtain ⟨d, ds, rfl⟩ := List.exists_cons_of_ne_nil some_digit
    exact ⟨d, ds, rfl, .inr (digits d List.mem_cons_self)⟩
  | signed => exact ⟨'+', _, rfl, .inl rfl⟩

theorem not_isBlank_of_isDigit {c : Char} (digit : c.isDigit = true) : isBlank c = false := by
  have bounds : 48 ≤ c.toNat ∧ c.toNat ≤ 57 := Char.isDigit_iff_toNat.mp digit
  simp [isBlank]
  omega

theorem Numbers.solid (spelled : Numbers cs n) : ∀ c ∈ cs, isBlank c = false := by
  cases spelled with
  | plain digits => exact fun c mem => not_isBlank_of_isDigit (digits c mem)
  | signed digits =>
    exact List.forall_mem_cons.mpr ⟨rfl, fun c mem => not_isBlank_of_isDigit (digits c mem)⟩

theorem Numbers.unnamed (spelled : Numbers cs n) : ofName? cs = none := by
  obtain ⟨c, tail, rfl, opener⟩ := spelled.opens
  have letters : ∀ o ∈ all, ∃ d ds, o.name.toList = d :: ds ∧ d ≠ '+' ∧ d.isDigit = false := by
    intro o _
    cases o <;> exact ⟨_, _, rfl, by decide, rfl⟩
  rw [ofName?, List.find?_eq_none]
  intro o mem same
  obtain ⟨d, ds, shape, no_sign, no_digit⟩ := letters o mem
  obtain rfl : d = c := (List.cons.inj (shape.symm.trans (eq_of_beq same))).1
  rcases opener with sign | digit
  · exact no_sign sign
  · rw [digit] at no_digit
    cases no_digit

def countDigits? (ds : List Char) : Option UInt32 :=
  if ds.isEmpty || !ds.all Char.isDigit then none
  else if Decimal.ofDigits ds < UInt32.size then some (UInt32.ofNat (Decimal.ofDigits ds)) else none

theorem count?_signed (ds : List Char) : count? ('+' :: ds) = countDigits? ds := rfl

theorem count?_plain (no_sign : ∀ ds, cs ≠ '+' :: ds) : count? cs = countDigits? cs := by
  simp [count?, countDigits?]

theorem countDigits?_eq_some_iff {ds : List Char} {n : UInt32} :
    countDigits? ds = some n ↔ AllDigits ds ∧ ds ≠ [] ∧ Decimal.ofDigits ds = n.toNat := by
  have fits_iff : (if Decimal.ofDigits ds < UInt32.size then some (UInt32.ofNat (Decimal.ofDigits ds))
      else none) = some n ↔ Decimal.ofDigits ds = n.toNat := by
    constructor
    · intro counted
      split at counted
      next fits =>
        rw [← Option.some.inj counted]
        exact (UInt32.toNat_ofNat_of_lt fits).symm
      next => cases counted
    · intro value
      rw [value, if_pos n.toNat_lt, UInt32.ofNat_toNat]
  have all_iff : ds.all Char.isDigit = true ↔ AllDigits ds := List.all_eq_true
  rw [countDigits?, ← all_iff, ← fits_iff]
  cases ds with
  | nil => simp
  | cons d ds => cases (d :: ds).all Char.isDigit <;> simp

/-- A count is read from just its spellings. -/
theorem count?_eq_some_iff {n : UInt32} : count? cs = some n ↔ Numbers cs n.toNat := by
  -- a plus sign in front tells which of the two spellings it can be
  by_cases sign : ∃ ds, cs = '+' :: ds
  · obtain ⟨ds, rfl⟩ := sign
    rw [count?_signed, countDigits?_eq_some_iff]
    constructor
    · rintro ⟨digits, some_digit, value⟩
      exact value ▸ .signed digits some_digit
    · intro spelled
      generalize n.toNat = m at spelled
      cases spelled with
      | plain digits => cases digits '+' List.mem_cons_self
      | signed digits some_digit => exact ⟨digits, some_digit, rfl⟩
  · rw [count?_plain (not_exists.mp sign), countDigits?_eq_some_iff]
    constructor
    · rintro ⟨digits, some_digit, value⟩
      exact value ▸ .plain digits some_digit
    · intro spelled
      generalize n.toNat = m at spelled
      cases spelled with
      | plain digits some_digit => exact ⟨digits, some_digit, rfl⟩
      | signed => exact absurd ⟨_, rfl⟩ sign

theorem ofName?_eq_some_iff {o : Overlay} : ofName? cs = some o ↔ cs = o.name.toList := by
  constructor
  · intro found
    have same := List.find?_some found
    exact (eq_of_beq same).symm
  · rintro rfl
    exact ofName?_name o

end Spelling

theorem ofText_eq_iff {text : List Char} {r : Except Unknown Overlay} :
    ofText text = r ↔ Chooses (trimBlanks text) r := by
  unfold ofText
  generalize trimBlanks text = trimmed
  constructor
  · rintro rfl
    dsimp only
    cases named : ofName? trimmed with
    | some o =>
      obtain rfl := ofName?_eq_some_iff.mp named
      exact .name o
    | none =>
      cases counted : count? trimmed with
      | some n => exact .number (count?_eq_some_iff.mp counted)
      | none =>
        refine .nothing (fun o same => ?_) fun n spelled => ?_
        · rw [ofName?_eq_some_iff.mpr same] at named
          cases named
        · rw [count?_eq_some_iff.mpr spelled] at counted
          cases counted
  · intro chosen
    cases chosen with
    | name o => simp
    | number spelled => simp [spelled.unnamed, count?_eq_some_iff.mpr spelled]
    | nothing unnamed uncounted =>
      have no_name : ofName? trimmed = none :=
        Option.eq_none_iff_forall_ne_some.mpr fun o named => unnamed o (ofName?_eq_some_iff.mp named)
      have no_count : count? trimmed = none :=
        Option.eq_none_iff_forall_ne_some.mpr fun n counted =>
          uncounted n (count?_eq_some_iff.mp counted)
      simp [no_name, no_count]

/-- However a number is spelled, with whatever blanks around it, its text chooses by it. -/
theorem ofText_number {n : UInt32} {before spelled after : List Char}
    (number : Numbers spelled n.toNat) (blank_before : AllBlank before) (blank_after : AllBlank after) :
    ofText (before ++ spelled ++ after) = .ok (ofIndex n) := by
  rw [ofText_eq_iff, (trims_of_solid number.solid blank_before blank_after).eq]
  exact .number number

end Overlay

theorem Draft.overlay_assign (d : Draft) (o : Overlay) :
    (d.assign (.overlay o)).state.settings.overlay = o := by
  simp only [assign]
  split
  · assumption
  · rfl

theorem Session.overlay_assignNumber {s : Session} (obeys : s.isOpen = true) (n : UInt32) :
    (s.step (.command (.assign (.overlayNumber n)))).1.desk.settings.overlay = .ofIndex n := by
  rw [step_obeys obeys]
  change (s.adopt (s.desk.assign (.overlay (.ofIndex n)))).desk.draft.settings.overlay = _
  rw [adopt_state]
  exact Draft.overlay_assign ..

/-- Documents that have this text for their overlay are read as configurations with that overlay,
whatever else they list. -/
def Document.Sets (overlayText : Writer) (o : Overlay) : Prop :=
  ∀ c : Config, c.validate = .ok () → c.IsNumeric → ∀ listed overrides,
    Config.parse (c.documentWith overlayText listed overrides)
      = .ok (({ c with overlay := o }.keepingEach overrides).keeping listed.names)

theorem Document.sets_of_takes {w : Writer} {o : Overlay} (taken : Form.overlay.Takes 0 w o) :
    Sets w o :=
  fun _ valid numeric listed overrides =>
    Config.parse_documentWith valid numeric listed overrides taken

/-- A number and a text choose the same overlay in every way in which they can be given. -/
structure Overlay.ChosenAlike (n : UInt32) (text : List Char) : Prop where
  parsed : ofText text = .ok (ofIndex n)
  quoted : Document.Sets (Document.writeText text) (ofIndex n)
  unquoted : Document.Sets (Document.writeCount n) (ofIndex n)
  assigned : ∀ s : Session, s.isOpen = true →
    (s.step (.command (.assign (.overlayNumber n)))).1.desk.settings.overlay = ofIndex n

/-- A text chooses, without the blanks around it, by name or by number, or else is refused by what is
left of it. A number chooses the same overlay in every way, and a document takes just the texts that
choose one. -/
theorem Overlay.choices_agree :
    (∀ text trimmed, trimBlanks text = trimmed ↔ Trims text trimmed) ∧
    (∀ text r, ofText text = r ↔ Chooses (trimBlanks text) r) ∧
    (∀ (n : UInt32) (before spelled after : List Char), Numbers spelled n.toNat →
      AllBlank before → AllBlank after → ChosenAlike n (before ++ spelled ++ after)) ∧
    ∀ (p : Document.Place) (literal text rest : List Char),
      Document.text literal = .ok (text, rest) →
        Document.Form.overlay.read p.member literal
          = ((ofText text).mapError .unknownOverlay).map (·, rest) := by
  refine ⟨fun _ _ => trimBlanks_eq_iff, fun _ _ => ofText_eq_iff, ?_, ?_⟩
  · intro n before spelled after number blank_before blank_after
    have parsed := ofText_number number blank_before blank_after
    exact {
      parsed := parsed
      quoted := Document.sets_of_takes (Document.Form.takes_overlay_text parsed)
      unquoted := Document.sets_of_takes (Document.Form.takes_overlay_number n)
      assigned := fun _ obeys => Session.overlay_assignNumber obeys n }
  · exact fun p _ _ _ read => Document.Form.read_overlay_text rfl read

theorem Overlay.choices_agree_padded :
    let text := "\xa0+0003\n".toList
    let quoted := "(\n  debug_visualization: \"\\u\x7ba0\x7d+0003\\n\",\n)"
    Numbers ['+', '0', '0', '0', '3'] 3 ∧ ofText text = .ok .lighting ∧
      Config.parse quoted = .ok { overlay := .lighting } ∧
      Config.parse "(\n  debug_visualization: 3,\n)" = .ok { overlay := .lighting } ∧
      ofText "4294967296".toList = .error ⟨"4294967296"⟩ := by
  intro text quoted
  have number : Numbers ['+', '0', '0', '0', '3'] 3 := .signed (by decide) (by decide)
  have alike := choices_agree.2.2.1 3 ['\xa0'] ['+', '0', '0', '0', '3'] ['\n'] number
    (by decide) (by decide)
  have valid : ({} : Config).validate = .ok () := by decide
  have numeric : ({} : Config).IsNumeric := ⟨rfl, nofun⟩
  let listed : Document.Listing Document.Form.configFields := ⟨["debug_visualization"], by decide⟩
  have quoted_read := alike.quoted {} valid numeric listed fun _ => .all _
  have unquoted_read := alike.unquoted {} valid numeric listed fun _ => .all _
  have quoted_written : ({} : Config).documentWith (Document.writeText text) listed (fun _ => .all _)
      = quoted := by decide +kernel
  have unquoted_written : ({} : Config).documentWith (Document.writeCount 3) listed (fun _ => .all _)
      = "(\n  debug_visualization: 3,\n)" := by decide +kernel
  have result : (({ overlay := .ofIndex 3 } : Config).keepingEach fun _ => .all _).keeping
      listed.names = { overlay := .lighting } := by decide
  refine ⟨number, alike.parsed, ?_, ?_, rfl⟩
  · rw [← quoted_written, ← result]
    exact quoted_read
  · rw [← unquoted_written, ← result]
    exact unquoted_read

end VoxelGI
