import VoxelGI.Numeric.Layout
import VoxelGI.Proofs.Rounding

/-! Written numbers. A numeral is digits, perhaps a point with further digits, and perhaps an
exponent; every format lays a finite number out as a numeral, and a numeral is read as the decimal it
spells. So what any format writes for a finite single is read as that single. -/
namespace VoxelGI

section Runs

variable {α : Type} {p : α → Bool} {run rest : List α}

theorem takeWhile_run (all : ∀ a ∈ run, p a = true) (stop : rest.head?.any p = false) :
    (run ++ rest).takeWhile p = run := by
  rw [List.takeWhile_append_of_pos all]
  cases rest with
  | nil => simp
  | cons a rest => simp_all

theorem dropWhile_run (all : ∀ a ∈ run, p a = true) (stop : rest.head?.any p = false) :
    (run ++ rest).dropWhile p = rest := by
  rw [List.dropWhile_append_of_pos all]
  cases rest with
  | nil => simp
  | cons a rest => simp_all

theorem run_append_inj {run' rest' : List α} (all : ∀ a ∈ run, p a = true)
    (all' : ∀ a ∈ run', p a = true) (stop : rest.head?.any p = false)
    (stop' : rest'.head?.any p = false) (same : run ++ rest = run' ++ rest') :
    run = run' ∧ rest = rest' := by
  constructor
  · rw [← takeWhile_run all stop, same, takeWhile_run all' stop']
  · rw [← dropWhile_run all stop, same, dropWhile_run all' stop']

end Runs

def AllDigits (ds : List Char) : Prop := ∀ c ∈ ds, c.isDigit = true

instance (ds : List Char) : Decidable (AllDigits ds) :=
  decidable_of_iff (ds.all Char.isDigit = true) List.all_eq_true

namespace AllDigits

variable {ds ds' : List Char}

theorem append (h : AllDigits ds) (h' : AllDigits ds') : AllDigits (ds ++ ds') :=
  List.forall_mem_append.mpr ⟨h, h'⟩

theorem left (h : AllDigits (ds ++ ds')) : AllDigits ds := (List.forall_mem_append.mp h).1

theorem right (h : AllDigits (ds ++ ds')) : AllDigits ds' := (List.forall_mem_append.mp h).2

theorem zeros (n : Nat) : AllDigits (List.replicate n '0') := fun _ mem =>
  List.eq_of_mem_replicate mem ▸ rfl

end AllDigits

namespace Decimal

@[simp] theorem ofDigits_digits (n : Nat) : ofDigits (digits n) = n := Nat.ofDigitChars_ten_toDigits

theorem allDigits_digits (n : Nat) : AllDigits (digits n) := fun _ mem =>
  Nat.isDigit_of_mem_toDigits (by decide) (by decide) mem

@[simp] theorem digits_ne_nil (n : Nat) : digits n ≠ [] := Nat.toDigits_ne_nil

theorem digits_append_inj {n n' : Nat} {rest rest' : List Char}
    (stop : rest.head?.any Char.isDigit = false) (stop' : rest'.head?.any Char.isDigit = false)
    (same : digits n ++ rest = digits n' ++ rest') : n = n' ∧ rest = rest' := by
  obtain ⟨number, rest⟩ := run_append_inj (allDigits_digits n) (allDigits_digits n') stop stop' same
  exact ⟨by rw [← ofDigits_digits n, number, ofDigits_digits], rest⟩

theorem ofDigits_append (ds ds' : List Char) :
    ofDigits (ds ++ ds') = 10 ^ ds'.length * ofDigits ds + ofDigits ds' :=
  (Nat.ofDigitChars_append 0).trans Nat.ofDigitChars_eq_ofDigitChars_zero

@[simp] theorem ofDigits_zeros (n : Nat) : ofDigits (List.replicate n '0') = 0 :=
  Nat.ofDigitChars_replicate_zero.trans (Nat.mul_zero _)

theorem ofDigits_zero_cons (ds : List Char) : ofDigits ('0' :: ds) = ofDigits ds := rfl

theorem takeSign_digit {c : Char} (digit : c.isDigit = true) (cs : List Char) :
    takeSign (c :: cs) = (false, c :: cs) := by
  unfold takeSign
  split
  · simp_all [Char.isDigit]
  · simp_all [Char.isDigit]
  · rfl

def takeFraction : List Char → List Char × List Char
  | '.' :: rest => (rest.takeWhile Char.isDigit, rest.dropWhile Char.isDigit)
  | rest => ([], rest)

theorem parse?_eq (text : List Char) :
    parse? text =
      let (negative, cs) := takeSign text
      let whole := cs.takeWhile Char.isDigit
      let (fraction, afterFraction) := takeFraction (cs.dropWhile Char.isDigit)
      if whole.isEmpty && fraction.isEmpty then none
      else
        (parseExponent? afterFraction).map fun e =>
          (negative, ⟨ofDigits (whole ++ fraction), e - fraction.length⟩) := rfl

theorem parseExponent?_integer (e : Int) :
    parseExponent? ('e' :: NumberFormat.integer e) = some e := by
  have all : (digits e.natAbs).all Char.isDigit = true := List.all_eq_true.mpr (allDigits_digits _)
  by_cases negative : e < 0
  · simp [parseExponent?, NumberFormat.integer, negative, takeSign, all, abs_of_neg negative]
  · obtain ⟨c, cs, shape⟩ := List.exists_cons_of_ne_nil (digits_ne_nil e.natAbs)
    have digit : c.isDigit = true := allDigits_digits _ c (shape ▸ List.mem_cons_self)
    have sign := takeSign_digit digit cs
    rw [← shape] at sign
    simp [parseExponent?, NumberFormat.integer, negative, sign, all, Int.not_lt.mp negative]

end Decimal

structure Numeral where
  whole : List Char
  fraction : Option (List Char)
  exponent : Option Int
  whole_ne_nil : whole ≠ []
  allDigits : AllDigits (whole ++ fraction.getD [])

namespace Numeral

def exponentText (n : Numeral) : List Char :=
  n.exponent.elim [] fun e => 'e' :: NumberFormat.integer e

def text (n : Numeral) : List Char :=
  n.whole ++ (n.fraction.elim [] (fun ds => '.' :: ds) ++ n.exponentText)

def value (n : Numeral) : Decimal :=
  ⟨Decimal.ofDigits (n.whole ++ n.fraction.getD []),
    n.exponent.getD 0 - ((n.fraction.getD []).length : Int)⟩

variable (n : Numeral)

theorem text_eq_cons : ∃ c cs, n.text = c :: cs ∧ c.isDigit = true := by
  obtain ⟨c, cs, shape⟩ := List.exists_cons_of_ne_nil n.whole_ne_nil
  exact ⟨c, _, by rw [text, shape, List.cons_append], n.allDigits c (by simp [shape])⟩

@[simp] theorem parseExponent?_exponentText :
    Decimal.parseExponent? n.exponentText = some (n.exponent.getD 0) := by
  rw [exponentText]
  cases n.exponent with
  | none => rfl
  | some e => exact Decimal.parseExponent?_integer e

theorem exponentText_stops : n.exponentText.head?.any Char.isDigit = false := by
  rw [exponentText]
  cases n.exponent <;> rfl

theorem takeFraction_tail :
    Decimal.takeFraction (n.fraction.elim [] (fun ds => '.' :: ds) ++ n.exponentText)
      = (n.fraction.getD [], n.exponentText) := by
  have digits_after := n.allDigits.right
  cases fraction : n.fraction with
  | none =>
    rw [exponentText]
    cases n.exponent <;> rfl
  | some ds =>
    rw [fraction] at digits_after
    exact Prod.ext (takeWhile_run digits_after n.exponentText_stops)
      (dropWhile_run digits_after n.exponentText_stops)

/-- A numeral is read as the number it spells, with a minus in front as its negative. -/
theorem parse?_text (negative : Bool) :
    Decimal.parse? ((if negative then ['-'] else []) ++ n.text) = some (negative, n.value) := by
  obtain ⟨c, cs, shape, digit⟩ := n.text_eq_cons
  have sign : Decimal.takeSign ((if negative then ['-'] else []) ++ n.text) =
      (negative, n.text) := by
    cases negative with
    | true => rfl
    | false => rw [shape]; exact Decimal.takeSign_digit digit cs
  have tail_stops :
      (n.fraction.elim [] (fun ds => '.' :: ds) ++ n.exponentText).head?.any Char.isDigit
        = false := by
    cases n.fraction with
    | none => exact n.exponentText_stops
    | some ds => rfl
  have read_whole := takeWhile_run n.allDigits.left tail_stops
  have left_whole := dropWhile_run n.allDigits.left tail_stops
  have some_digit : n.whole.isEmpty = false := List.isEmpty_eq_false_iff.mpr n.whole_ne_nil
  rw [Decimal.parse?_eq, sign]
  simp only [show n.text = n.whole ++ _ from rfl, read_whole, left_whole, n.takeFraction_tail]
  simp [some_digit, value]

def isPart (c : Char) : Bool := c.isDigit || c == '.' || c == 'e' || c == '-'

theorem isPart_of_digits {ds : List Char} (h : AllDigits ds) : ∀ c ∈ ds, isPart c = true :=
  fun c mem => by simp [isPart, h c mem]

theorem isPart_exponentText : ∀ c ∈ n.exponentText, isPart c = true := by
  rw [exponentText]
  cases n.exponent with
  | none => exact List.forall_mem_nil _
  | some e =>
    have digits := isPart_of_digits (Decimal.allDigits_digits e.natAbs)
    refine List.forall_mem_cons.mpr ⟨rfl, ?_⟩
    rw [NumberFormat.integer]
    split
    · exact List.forall_mem_cons.mpr ⟨rfl, digits⟩
    · exact digits

theorem isPart_text : ∀ c ∈ n.text, isPart c = true := by
  refine List.forall_mem_append.mpr ⟨isPart_of_digits n.allDigits.left,
    List.forall_mem_append.mpr ⟨?_, n.isPart_exponentText⟩⟩
  have digits_after := n.allDigits.right
  cases fraction : n.fraction with
  | none => exact List.forall_mem_nil _
  | some ds =>
    rw [fraction] at digits_after
    exact List.forall_mem_cons.mpr ⟨rfl, isPart_of_digits digits_after⟩

end Numeral

/-- A text spells a number if it is a numeral of that number. -/
def Spells (text : List Char) (d : Decimal) : Prop := ∃ n : Numeral, n.text = text ∧ n.value = d

theorem Numeral.spells (n : Numeral) {text : List Char} {d : Decimal} (spelled : n.text = text)
    (coefficient : Decimal.ofDigits (n.whole ++ n.fraction.getD []) = d.coefficient)
    (exponent : n.exponent.getD 0 - ((n.fraction.getD []).length : Int) = d.exponent) :
    Spells text d :=
  ⟨n, spelled, congrArg₂ Decimal.mk coefficient exponent⟩

namespace NumberFormat

section Layouts

variable {ds : List Char} (digits : AllDigits ds) (some_digit : ds ≠ [])

include digits some_digit

theorem spells_positionalText (f : NumberFormat) (point : Int) :
    ∃ zeros, Spells (f.positionalText ds point)
      (Decimal.finer ⟨Decimal.ofDigits ds, point - ds.length⟩ zeros) := by
  unfold positionalText
  split
  -- Below one, the zeros behind the point belong to the fraction.
  next small =>
    let fraction := List.replicate (-point).toNat '0' ++ ds
    have all : AllDigits (['0'] ++ fraction) :=
      (AllDigits.zeros 1).append ((AllDigits.zeros _).append digits)
    refine ⟨0, Numeral.spells ⟨['0'], some fraction, none, by simp, all⟩ ?_ ?_ ?_⟩
    · simp [Numeral.text, Numeral.exponentText, fraction]
    · simp [Decimal.finer, fraction, Decimal.ofDigits_zero_cons, Decimal.ofDigits_append]
    · simp only [Option.getD_none, Option.getD_some, fraction, List.length_append,
        List.length_replicate, Decimal.finer]
      omega
  next large =>
    have length : 0 < ds.length := List.length_pos_iff.mpr some_digit
    split
    -- A whole number is filled up with zeros, and one more stands behind its point.
    next whole =>
      let zeros := List.replicate (point.toNat - ds.length) '0'
      have all := digits.append (AllDigits.zeros (point.toNat - ds.length))
      have some_whole : ds ++ zeros ≠ [] := by simp [some_digit]
      cases keeps : f.keepsPoint with
      | false =>
        refine ⟨point.toNat - ds.length,
          Numeral.spells ⟨ds ++ zeros, none, none, some_whole, by simpa using all⟩ ?_ ?_ ?_⟩
        · simp [Numeral.text, Numeral.exponentText, wholeTail, keeps, zeros]
        · simp [Decimal.finer, zeros, Decimal.ofDigits_append, Nat.mul_comm]
        · simp [Decimal.finer]
          omega
      | true =>
        refine ⟨point.toNat - ds.length + 1, Numeral.spells
          ⟨ds ++ zeros, some ['0'], none, some_whole, all.append (AllDigits.zeros 1)⟩ ?_ ?_ ?_⟩
        · simp [Numeral.text, Numeral.exponentText, wholeTail, keeps, zeros]
        · have nothing : Decimal.ofDigits ['0'] = 0 := rfl
          simp only [Option.getD_some, zeros, Decimal.ofDigits_append, nothing,
            Decimal.ofDigits_zeros, Decimal.finer, List.length_replicate, Nat.pow_succ]
          simp only [List.length_cons, List.length_nil, Nat.add_zero]
          ring
        · simp [Decimal.finer]
          omega
    next between =>
      have all : AllDigits (ds.take point.toNat ++ ds.drop point.toNat) := by
        rwa [List.take_append_drop]
      refine ⟨0, Numeral.spells ⟨ds.take point.toNat, some (ds.drop point.toNat), none, ?_, all⟩
        ?_ ?_ ?_⟩
      · simp [some_digit]
        omega
      · simp [Numeral.text, Numeral.exponentText]
      · simp [Decimal.finer]
      · simp [Decimal.finer]
        omega

theorem spells_exponentText (point : Int) :
    Spells (exponentText ds point) ⟨Decimal.ofDigits ds, point - ds.length⟩ := by
  match ds, some_digit with
  | [d], _ =>
    exact Numeral.spells ⟨[d], none, some (point - 1), by simp, by simpa using digits⟩ rfl rfl
      (by simp)
  | d :: d' :: rest, _ =>
    refine Numeral.spells ⟨[d], some (d' :: rest), some (point - 1), by simp, by simpa using digits⟩
      ?_ rfl ?_
    · simp [Numeral.text, Numeral.exponentText, exponentText]
    · simp
      omega

end Layouts

def significant (ds : List Char) : List Char := (ds.reverse.dropWhile (· == '0')).reverse

theorem decimalText_eq (f : NumberFormat) (d : Decimal) :
    f.decimalText d =
      if f.isPositional (d.point - 1) then
        f.positionalText (significant (Decimal.digits d.coefficient)) d.point
      else exponentText (significant (Decimal.digits d.coefficient)) d.point := rfl

theorem exists_zeros (ds : List Char) :
    ∃ zeros, ds = significant ds ++ List.replicate zeros '0' := by
  let tail := ds.reverse.takeWhile (· == '0')
  have all_zero : tail = List.replicate tail.length '0' :=
    List.eq_replicate_of_mem fun c mem =>
      eq_of_beq (List.all_eq_true.mp List.all_takeWhile c mem)
  refine ⟨tail.length, ?_⟩
  calc ds = (tail ++ ds.reverse.dropWhile (· == '0')).reverse := by
        rw [List.takeWhile_append_dropWhile, List.reverse_reverse]
    _ = significant ds ++ tail.reverse := List.reverse_append
    _ = significant ds ++ List.replicate tail.length '0' := by
        rw [all_zero, List.reverse_replicate, List.length_replicate]

theorem spells_decimalText (f : NumberFormat) {d : Decimal} (pos : 0 < d.coefficient) :
    ∃ spelled, Spells (f.decimalText d) spelled ∧ spelled.magnitude = d.magnitude := by
  obtain ⟨zeros, shape⟩ := exists_zeros (Decimal.digits d.coefficient)
  let ds := significant (Decimal.digits d.coefficient)
  have digits : AllDigits ds := by
    have all := Decimal.allDigits_digits d.coefficient
    rw [shape] at all
    exact all.left
  have coefficient : d.coefficient = Decimal.ofDigits ds * 10 ^ zeros := by
    have number := Decimal.ofDigits_digits d.coefficient
    rw [shape, Decimal.ofDigits_append, Decimal.ofDigits_zeros, List.length_replicate] at number
    rw [← number, Nat.mul_comm, Nat.add_zero]
  have some_digit : ds ≠ [] := by
    intro empty
    rw [coefficient, empty] at pos
    exact absurd pos (by simp [Decimal.ofDigits])
  -- The decimal is the number of its significant digits, written with the zeros at its end.
  let core : Decimal := ⟨Decimal.ofDigits ds, d.point - ds.length⟩
  have same : core.finer zeros = d := by
    have length := congrArg List.length shape
    rw [List.length_append, List.length_replicate] at length
    refine congrArg₂ Decimal.mk coefficient.symm ?_
    simp only [core, ds, Decimal.point]
    omega
  have core_magnitude : core.magnitude = d.magnitude := by
    rw [← same, Decimal.magnitude_finer]
  rw [decimalText_eq]
  split
  · obtain ⟨further, spells⟩ := spells_positionalText digits some_digit f d.point
    exact ⟨_, spells, (Decimal.magnitude_finer _ _).trans core_magnitude⟩
  · exact ⟨_, spells_exponentText digits some_digit d.point, core_magnitude⟩

theorem spells_magnitudeText (f : NumberFormat) {m : Nat} (finite : m < Single.infiniteMagnitude) :
    ∃ spelled, Spells (f.magnitudeText m) spelled ∧ spelled.magnitude = m := by
  rw [magnitudeText]
  split
  next zero =>
    subst zero
    cases keeps : f.keepsPoint with
    | false =>
      exact ⟨⟨0, 0⟩, Numeral.spells ⟨['0'], none, none, by simp, AllDigits.zeros 1⟩
        (by simp [Numeral.text, Numeral.exponentText, wholeTail, keeps]) rfl rfl, rfl⟩
    | true =>
      exact ⟨⟨0, -1⟩, Numeral.spells ⟨['0'], some ['0'], none, by simp, AllDigits.zeros 2⟩
        (by simp [Numeral.text, Numeral.exponentText, wholeTail, keeps]) rfl rfl, rfl⟩
  next some_bit =>
    rw [if_neg finite.ne]
    obtain ⟨spelled, spells, same⟩ :=
      f.spells_decimalText (Decimal.shortest_pos (Nat.pos_of_ne_zero some_bit) finite)
    exact ⟨spelled, spells, same.trans (Decimal.magnitude_shortest finite)⟩

/-- Every format writes a finite single as a numeral that is read as the same single, with a minus
in front of it for the sign. -/
theorem text_eq_numeral (f : NumberFormat) {x : Single}
    (finite : x.magnitude < Single.infiniteMagnitude) :
    ∃ n : Numeral, f.text x = (if x.negative then ['-'] else []) ++ n.text ∧
      n.value.toSingle x.negative = x := by
  obtain ⟨spelled, ⟨n, text, value⟩, same⟩ := f.spells_magnitudeText finite
  refine ⟨n, ?_, ?_⟩
  · have number : x.isNaN = false := decide_eq_false (Nat.not_lt.mpr finite.le)
    rw [NumberFormat.text, number, text]
    cases x.negative <;> rfl
  · rw [Decimal.toSingle, value, same, Single.ofMagnitude_magnitude]

theorem text_infinite (f : NumberFormat) {x : Single}
    (infinite : x.magnitude = Single.infiniteMagnitude) :
    f.text x = (if x.negative then ['-'] else []) ++ ['i', 'n', 'f'] := by
  have number : x.isNaN = false := by simp [Single.isNaN, infinite]
  rw [NumberFormat.text, number, infinite]
  cases x.negative <;> rfl

end NumberFormat

end VoxelGI
