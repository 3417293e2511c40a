import VoxelGI.Numeric.Decimal

/-!
How a single is written: its shortest digits, laid out by one of two formats.
-/
namespace VoxelGI

structure NumberFormat where
  /-- The powers of ten of a leading digit that are written without an exponent; all if absent. -/
  positional : Option (Int × Int)
  keepsPoint : Bool

namespace NumberFormat

/-- The format of documents and of values shown in full: from 10 to the power -4 up to, but not
including, 10 to the power 16 a number has no exponent, and a whole number keeps its point. -/
def full : NumberFormat := ⟨some (-4, 16), true⟩

/-- The format of numbers in running text: never an exponent, and no point on a whole number. -/
def plain : NumberFormat := ⟨none, false⟩

def isPositional (f : NumberFormat) (power : Int) : Bool :=
  match f.positional with
  | none => true
  | some (low, high) => decide (low ≤ power ∧ power < high)

def wholeTail (f : NumberFormat) : List Char := if f.keepsPoint then ['.', '0'] else []

def integer (n : Int) : List Char :=
  if n < 0 then '-' :: Decimal.digits n.natAbs else Decimal.digits n.natAbs

def positionalText (f : NumberFormat) (ds : List Char) (point : Int) : List Char :=
  if point ≤ 0 then ['0', '.'] ++ List.replicate (-point).toNat '0' ++ ds
  else if ds.length ≤ point.toNat then
    ds ++ List.replicate (point.toNat - ds.length) '0' ++ f.wholeTail
  else ds.take point.toNat ++ '.' :: ds.drop point.toNat

/-- Lays out `0.d₁d₂… × 10 ^ point` with one digit before the point and an exponent. -/
def exponentText (ds : List Char) (point : Int) : List Char :=
  match ds with
  | [] => []
  | [d] => d :: 'e' :: integer (point - 1)
  | d :: rest => d :: '.' :: rest ++ 'e' :: integer (point - 1)

/-- Lays out a positive decimal; zeros at its end are not digits of it. -/
def decimalText (f : NumberFormat) (d : Decimal) : List Char :=
  let ds := ((Decimal.digits d.coefficient).reverse.dropWhile (· == '0')).reverse
  if f.isPositional (d.point - 1) then f.positionalText ds d.point
  else exponentText ds d.point

def magnitudeText (f : NumberFormat) (magnitude : Nat) : List Char :=
  if magnitude = 0 then '0' :: f.wholeTail
  else if magnitude = Single.infiniteMagnitude then ['i', 'n', 'f']
  else f.decimalText (Decimal.shortest magnitude)

/-- The text of a single; what is no number has no sign. -/
def text (f : NumberFormat) (x : Single) : List Char :=
  if x.isNaN then ['N', 'a', 'N']
  else if x.negative then '-' :: f.magnitudeText x.magnitude
  else f.magnitudeText x.magnitude

end NumberFormat

end VoxelGI
