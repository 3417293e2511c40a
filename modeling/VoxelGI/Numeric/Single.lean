/-!
Single-precision numbers, held as their 32 bits and computed with in exact integer arithmetic.

Every finite number is a whole multiple of the smallest positive one, its *quantum* (two to the
power -149). The 31 bits below the sign, the *magnitude*, grow with the number they stand for, so
rounding is a question about natural numbers: which magnitude lies nearest to a quotient of quanta.
-/
namespace VoxelGI

/-- A single-precision number, held as its 32 bits. -/
structure Single where
  bits : UInt32
deriving DecidableEq, Inhabited

namespace Single

/-- The magnitude of infinity; larger magnitudes are not numbers. -/
def infiniteMagnitude : Nat := 0x7f800000

/-- Rounds `num / den` to the nearest integer, a half to the even neighbour. -/
def roundToEven (num den : Nat) : Nat :=
  let whole := num / den
  let rest := num % den
  if den < 2 * rest ∨ (2 * rest = den ∧ whole % 2 = 1) then whole + 1 else whole

def quanta (magnitude : Nat) : Nat :=
  let unit := Nat.pow 2 23
  if magnitude < unit then magnitude
  else (unit + magnitude % unit) * Nat.pow 2 (magnitude / unit - 1)

/-- The magnitude nearest to `num / den` quanta. Above the last 24 significant bits the unit grows
with the number; a half goes to the even neighbour, and what is too large becomes infinite. -/
def nearest (num den : Nat) : Nat :=
  let shift := (num / den).log2 - 23
  min (shift * Nat.pow 2 23 + roundToEven num (den * Nat.pow 2 shift)) infiniteMagnitude

def ofMagnitude (negative : Bool) (magnitude : Nat) : Single :=
  ⟨UInt32.ofNat ((if negative then Nat.pow 2 31 else 0) + magnitude)⟩

def negative (x : Single) : Bool := decide (Nat.pow 2 31 ≤ x.bits.toNat)

def magnitude (x : Single) : Nat := x.bits.toNat % Nat.pow 2 31

def isNaN (x : Single) : Bool := decide (infiniteMagnitude < x.magnitude)

def isInfinite (x : Single) : Bool := x.magnitude == infiniteMagnitude

def isZero (x : Single) : Bool := x.magnitude == 0

def nan : Single := ⟨0x7fc00000⟩

def infinity : Single := ⟨0x7f800000⟩

def zero : Single := ⟨0⟩

def one : Single := ⟨0x3f800000⟩

def two : Single := ⟨0x40000000⟩

def five : Single := ⟨0x40a00000⟩

def negate (x : Single) : Single := ofMagnitude (!x.negative) x.magnitude

/-- The exact product, rounded once. -/
def mul (x y : Single) : Single :=
  if x.isNaN || y.isNaN then nan
  else
    let sign := x.negative != y.negative
    if x.isInfinite || y.isInfinite then
      if x.isZero || y.isZero then nan else ofMagnitude sign infiniteMagnitude
    else ofMagnitude sign (nearest (quanta x.magnitude * quanta y.magnitude) (Nat.pow 2 149))

instance : Mul Single := ⟨mul⟩

/-- Numeric position of what is a number: the two zeros share one. -/
def rank (x : Single) : Int :=
  if x.negative then -(x.magnitude : Int) else x.magnitude

/-- Numeric equality: the zeros are equal, and what is no number equals nothing. -/
def numEq (x y : Single) : Bool :=
  !x.isNaN && !y.isNaN && x.rank == y.rank

/-- The smaller of two numbers, the first of two equal ones; what is no number is passed over. -/
def smaller (x y : Single) : Single :=
  if x.isNaN then y
  else if y.isNaN then x
  else if y.rank < x.rank then y else x

end Single

end VoxelGI
