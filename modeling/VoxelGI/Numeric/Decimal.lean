import VoxelGI.Numeric.Single

/-!
Decimal numbers and their two meetings with single precision: the single nearest to a decimal, and
the shortest decimal that leads back to a single.
-/
namespace VoxelGI

/-- The number `coefficient × 10 ^ exponent`. -/
structure Decimal where
  coefficient : Nat
  exponent : Int
deriving DecidableEq, Inhabited

namespace Decimal

def digits (n : Nat) : List Char := Nat.toDigits 10 n

/-- Where the first digit stands: the number is `0.d₁d₂… × 10 ^ point`. -/
def point (d : Decimal) : Int := (digits d.coefficient).length + d.exponent

/-- The magnitude nearest to a decimal. Numbers from 10 to the power 40 up are infinite and those
below 10 to the power -60 vanish, so the powers that are computed stay small. -/
def magnitude (d : Decimal) : Nat :=
  if d.coefficient = 0 ∨ d.point < -60 then 0
  else if 40 < d.point then Single.infiniteMagnitude
  else if 0 ≤ d.exponent then
    Single.nearest (d.coefficient * Nat.pow 10 d.exponent.toNat * Nat.pow 2 149) 1
  else Single.nearest (d.coefficient * Nat.pow 2 149) (Nat.pow 10 (-d.exponent).toNat)

def toSingle (negative : Bool) (d : Decimal) : Single :=
  Single.ofMagnitude negative d.magnitude

/-- The finite decimal equal to a magnitude: a quantum is five to the power 149 in units of ten to
the power -149. -/
def exact (magnitude : Nat) : Decimal :=
  ⟨Single.quanta magnitude * Nat.pow 5 149, -149⟩

/-- The two decimals of `count` digits around `d`, the nearer one first; of two equally near ones
the larger comes first. -/
def neighbours (d : Decimal) (count : Nat) : List Decimal :=
  let cut := (digits d.coefficient).length - count
  let unit := Nat.pow 10 cut
  let below : Decimal := ⟨d.coefficient / unit, d.exponent + cut⟩
  let above : Decimal := ⟨d.coefficient / unit + 1, d.exponent + cut⟩
  if 2 * (d.coefficient % unit) < unit then [below, above] else [above, below]

/-- The shortest decimal that leads back to a magnitude, and of the shortest ones the nearest.
Nine digits always suffice; the exact decimal stands behind them as a last resort. -/
def shortest (magnitude : Nat) : Decimal :=
  let whole := exact magnitude
  let tries := (List.range' 1 9).flatMap whole.neighbours
  (tries.find? fun d => d.magnitude == magnitude).getD whole

def ofDigits (ds : List Char) : Nat :=
  ds.foldl (fun n c => 10 * n + (c.toNat - '0'.toNat)) 0

def takeSign : List Char → Bool × List Char
  | '-' :: cs => (true, cs)
  | '+' :: cs => (false, cs)
  | cs => (false, cs)

def parseExponent? : List Char → Option Int
  | [] => some 0
  | c :: cs =>
    if c = 'e' ∨ c = 'E' then
      let (negative, ds) := takeSign cs
      if ds.isEmpty || !ds.all Char.isDigit then none
      else if negative then some (-(ofDigits ds : Int)) else some (ofDigits ds)
    else none

/-- Reads a whole text as a signed decimal: an optional sign, digits with at most one point among
or around them, and an optional exponent. -/
def parse? (text : List Char) : Option (Bool × Decimal) :=
  let (negative, cs) := takeSign text
  let whole := cs.takeWhile Char.isDigit
  let afterWhole := cs.dropWhile Char.isDigit
  let (fraction, afterFraction) :=
    match afterWhole with
    | '.' :: rest => (rest.takeWhile Char.isDigit, rest.dropWhile Char.isDigit)
    | rest => ([], rest)
  if whole.isEmpty && fraction.isEmpty then none
  else
    (parseExponent? afterFraction).map fun e =>
      (negative, ⟨ofDigits (whole ++ fraction), e - fraction.length⟩)

end Decimal

end VoxelGI
