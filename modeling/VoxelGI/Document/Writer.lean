import VoxelGI.Numeric.Layout
import VoxelGI.Text.Quoted

/-!
Writing values: on one line without spaces, or over several lines, each member on its own.
-/
namespace VoxelGI.Document

inductive Lines where
  | one
  | several (depth : Nat)

abbrev Writer := Lines → List Char

def indent (depth : Nat) : List Char := List.replicate (2 * depth) ' '

/-- Members with commas between them, or each on a line of its own with a comma after it. -/
def writeMembers (ws : List Writer) : Writer
  | .one => [','].intercalate (ws.map (· .one))
  | .several depth =>
    '\n' :: ws.flatMap (fun w => indent (depth + 1) ++ w (.several (depth + 1)) ++ [',', '\n'])
      ++ indent depth

def writeWord (cs : List Char) : Writer := fun _ => cs

def writeFlag (b : Bool) : Writer :=
  writeWord (if b then ['t', 'r', 'u', 'e'] else ['f', 'a', 'l', 's', 'e'])

def writeCount (n : UInt32) : Writer := writeWord (Decimal.digits n.toNat)

/-- A single. Only here is the sign of what is no number written. -/
def writeSingle (x : Single) : Writer :=
  writeWord (if x.isNaN && x.negative then '-' :: NumberFormat.full.text x
    else NumberFormat.full.text x)

def writeText (cs : List Char) : Writer := writeWord (Quoted.encode Quoted.document cs)

def writeRow (ws : List Writer) : Writer := fun l =>
  let between : List Char := match l with
    | .one => [',']
    | .several _ => [',', ' ']
  '(' :: between.intercalate (ws.map (· l)) ++ [')']

def writeField (name : List Char) (w : Writer) : Writer := fun l =>
  match l with
  | .one => name ++ ':' :: w l
  | .several _ => name ++ ':' :: ' ' :: w l

def writeRecord (fields : List Writer) : Writer := fun l => '(' :: writeMembers fields l ++ [')']

def writeList (items : List Writer) : Writer := fun l =>
  if items.isEmpty then ['[', ']'] else '[' :: writeMembers items l ++ [']']

def writeOption : Option Writer → Writer
  | none => writeWord ['N', 'o', 'n', 'e']
  | some w => fun l => ['S', 'o', 'm', 'e', '('] ++ w l ++ [')']

end VoxelGI.Document
