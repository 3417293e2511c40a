import VoxelGI.Document.Literal
import VoxelGI.Numeric.Decimal

/-!
Flags and numbers. A number may carry the name of its type; a reader that wants another type
refuses it.
-/
namespace VoxelGI.Document

def flag : Reader Bool := do
  if ← acceptWord ['t', 'r', 'u', 'e'] then return true
  else if ← acceptWord ['f', 'a', 'l', 's', 'e'] then return false
  else throw .expectedFlag

/-- A fault in a number, and the text that was left where it was found. -/
structure Stuck where
  fault : Fault
  rest : List Char

abbrev NumberReader (α : Type) := List Char → Except Stuck (α × List Char)

structure IntType where
  name : List Char
  least : Int
  greatest : Int

namespace IntType

def signed (name : List Char) (bits : Nat) : IntType :=
  ⟨name, -Nat.pow 2 (bits - 1), Nat.pow 2 (bits - 1) - 1⟩

def unsigned (name : List Char) (bits : Nat) : IntType := ⟨name, 0, Nat.pow 2 bits - 1⟩

def count : IntType := unsigned ['u', '3', '2'] 32

def all : List IntType :=
  [signed ['i', '8'] 8, signed ['i', '1', '6'] 16, signed ['i', '3', '2'] 32,
    signed ['i', '6', '4'] 64, unsigned ['u', '8'] 8, unsigned ['u', '1', '6'] 16, count,
    unsigned ['u', '6', '4'] 64]

def contains (t : IntType) (n : Int) : Bool := decide (t.least ≤ n ∧ n ≤ t.greatest)

def widest (negative : Bool) : IntType :=
  if negative then signed ['i', '6', '4'] 64 else unsigned ['u', '6', '4'] 64

end IntType

def isIntChar (c : Char) : Bool := (hexDigit? c).isSome || c == '_'

/-- Adds up the digits of an integer, away from zero. Underscores are passed over. The value is
checked after each multiplication and each addition; `after` is what follows the digits. -/
def accumulate (t : IntType) (base : Nat) (negative : Bool) (after : List Char) (sum : Int) :
    List Char → Except Stuck Int
  | [] => .ok sum
  | c :: ds =>
    if c = '_' then accumulate t base negative after sum ds
    else
      let shifted := sum * base
      if !t.contains shifted then .error ⟨.integerOutOfBounds, after⟩
      else
        match (hexDigit? c).filter (· < base) with
        | none => .error ⟨.malformed, c :: ds ++ after⟩
        | some d =>
          let next := if negative then shifted - d else shifted + d
          if !t.contains next then .error ⟨.integerOutOfBounds, after⟩
          else accumulate t base negative after next ds

def takeBase : List Char → Nat × List Char
  | '0' :: 'b' :: cs => (2, cs)
  | '0' :: 'o' :: cs => (8, cs)
  | '0' :: 'x' :: cs => (16, cs)
  | cs => (10, cs)

def intDigits (t : IntType) (negative : Bool) : NumberReader Int := fun cs =>
  let (base, cs) := takeBase cs
  let ds := cs.takeWhile isIntChar
  let after := cs.dropWhile isIntChar
  if ds.isEmpty then .error ⟨.expectedInteger, cs⟩
  else if ds.head? = some '_' then .error ⟨.malformed, cs⟩
  else (accumulate t base negative after 0 ds).map fun n => (n, after)

inductive IntLiteral where
  | plain (n : Int)
  | typed (t : IntType) (n : Int)
  | byte (b : UInt8)

def dropName (cs : List Char) : List Char :=
  match name? cs with
  | some (_, rest) => rest
  | none => cs

/-- An integer: a byte in quotes, or a sign, digits and perhaps the name of a type. Without one,
`plain` says which type a number of either sign has. -/
def integer (plain : Bool → IntType) : NumberReader IntLiteral := fun cs =>
  if cs.isEmpty then .error ⟨.malformed, cs⟩
  else if ['b', '\''].isPrefixOf cs then
    match byte cs with
    | .ok (b, rest) => .ok (.byte b, rest)
    | .error f => .error ⟨f, cs⟩
  else
    let (negative, cs) := Decimal.takeSign cs
    let after := cs.dropWhile isIntChar
    match IntType.all.find? fun t => startsWord t.name after with
    | some t =>
      match intDigits t negative cs with
      | .ok (n, rest) => .ok (.typed t n, dropName rest)
      | .error ⟨.malformed, rest⟩ => .error ⟨.malformed, rest⟩
      | .error ⟨f, rest⟩ => .error ⟨f, dropName rest⟩
    | none =>
      match intDigits (plain negative) negative cs with
      | .ok (n, rest) => .ok (.plain n, rest)
      | .error e => .error e

def NumberReader.toReader (r : NumberReader α) : Reader α := fun cs =>
  match r cs with
  | .ok result => .ok result
  | .error e => .error e.fault

def count : Reader UInt32 := do
  match ← (integer fun _ => .count).toReader with
  | .plain n => return UInt32.ofNat n.toNat
  | .typed t n =>
    if t.name = IntType.count.name then return UInt32.ofNat n.toNat else throw .malformed
  | .byte _ => throw .malformed

def isFloatChar (c : Char) : Bool :=
  c.isDigit || c == 'e' || c == 'E' || c == '.' || c == '+' || c == '-' || c == '_'

/-- Drops the underscores of a decimal number. One may stand after a digit or an exponent mark,
and after signs or underscores that follow these. -/
def dropUnderscores (allowed : Bool) : List Char → Option (List Char)
  | [] => some []
  | c :: cs =>
    if c = '_' then if allowed then dropUnderscores allowed cs else none
    else
      let allowed :=
        if c.isDigit || c == 'e' || c == 'E' then true else if c = '.' then false else allowed
      (dropUnderscores allowed cs).map (c :: ·)

structure FloatLiteral where
  value : Single
  isDouble : Bool

def namedFloats : List (List Char × Single) :=
  [(['i', 'n', 'f'], .infinity), (['+', 'i', 'n', 'f'], .infinity),
    (['-', 'i', 'n', 'f'], Single.infinity.negate), (['N', 'a', 'N'], .nan),
    (['+', 'N', 'a', 'N'], .nan), (['-', 'N', 'a', 'N'], Single.nan.negate)]

def singleName : List Char := ['f', '3', '2']

def doubleName : List Char := ['f', '6', '4']

def namedFloat? (cs : List Char) : Option (FloatLiteral × List Char) :=
  namedFloats.findSome? fun (word, value) =>
    if startsWord word cs then some (⟨value, false⟩, cs.drop word.length)
    else if startsWord (word ++ singleName) cs then
      some (⟨value, false⟩, cs.drop (word.length + 3))
    else if startsWord (word ++ doubleName) cs then
      some (⟨value, true⟩, cs.drop (word.length + 3))
    else none

def floatValue? (ds : List Char) : Option Single :=
  (Decimal.parse? ds).map fun (negative, d) => d.toSingle negative

/-- A decimal number: a name, or digits with a point, an exponent and perhaps the name of a type. -/
def float : NumberReader FloatLiteral := fun cs =>
  match namedFloat? cs with
  | some result => .ok result
  | none =>
    let ds := cs.takeWhile isFloatChar
    let after := cs.dropWhile isFloatChar
    if ds.isEmpty then .error ⟨.expectedNumber, cs⟩
    else
      match dropUnderscores false ds with
      | none => .error ⟨.malformed, cs⟩
      | some ds =>
        match floatValue? ds with
        | none => .error ⟨.expectedNumber, cs⟩
        | some value =>
          if startsWord singleName after then .ok (⟨value, false⟩, after.drop 3)
          else if startsWord doubleName after then .ok (⟨value, true⟩, after.drop 3)
          else .ok (⟨value, false⟩, after)

def single : Reader Single := do
  let f ← float.toReader
  if f.isDouble then throw .malformed else return f.value

/-- Whether a number goes on longer as a decimal number than as an integer, after a sign. -/
def looksFractional (cs : List Char) : Bool :=
  let body := match cs with
    | '+' :: rest => rest
    | '-' :: rest => rest
    | rest => rest
  decide ((body.takeWhile isIntChar).length < (body.takeWhile isFloatChar).length)

/-- A number of any type: an integer, or nothing if it is no integer. A text that is no integer is
one of the others if it goes on at least as long as one. -/
def anyNumber : Reader (Option Int) := fun cs =>
  if looksFractional cs then
    match float cs with
    | .ok (_, rest) => .ok (none, rest)
    | .error e => .error e.fault
  else
    match integer .widest cs with
    | .ok (.plain n, rest) => .ok (some n, rest)
    | .ok (.typed _ n, rest) => .ok (some n, rest)
    | .ok (.byte b, rest) => .ok (some b.toNat, rest)
    | .error e =>
      match float cs with
      | .ok (_, rest) => if rest.length ≤ e.rest.length then .ok (none, rest) else .error e.fault
      | .error _ => .error e.fault

end VoxelGI.Document
