import VoxelGI.Document.Loose
import VoxelGI.Document.Writer
import VoxelGI.Grid

/-!
Forms: how the values of a type stand in documents, for reading and for writing at once. A record
is given by the list of its fields, from which both its reader and its writer are made.
-/
namespace VoxelGI.Document

structure Place where
  extensions : Extensions
  /-- How many levels may still be opened. -/
  room : Nat
  /-- Whether the value stands in parentheses that may be its own. -/
  isBare : Bool
deriving DecidableEq

def Place.member (p : Place) : Place := { p with room := p.room - 2, isBare := false }

/-- How the values of a type stand in documents. -/
structure Form (α : Type) where
  read : Place → Reader α
  write : α → Writer

namespace Form

def flag : Form Bool := ⟨fun _ => Document.flag, writeFlag⟩

def count : Form UInt32 := ⟨fun _ => Document.count, writeCount⟩

def single : Form Single := ⟨fun _ => Document.single, writeSingle⟩

def text : Form String :=
  ⟨fun _ => do return String.ofList (← Document.text), fun s => writeText s.toList⟩

/-- A member of a row of three, after so many others; with it comes whether another one may
follow. -/
def rowMember (p : Place) (before : Nat) (mayFollow : Bool) : Reader (UInt32 × Bool) := do
  space
  if ← lookAhead (fun cs => .ok (cs.head? == some ')')) then throw (.shortRow before)
  if !mayFollow then throw .malformed
  enter (p.room - 1)
  let n ← Document.count
  return (n, ← comma)

/-- Reads a row of three counts. After the third, two commas may stand. -/
def readGrid (p : Place) : Reader Grid := do
  if !p.isBare then expect '('
  enter p.room
  let (x, more) ← rowMember p 0 true
  let (y, more) ← rowMember p 1 more
  let (z, _) ← rowMember p 2 more
  let _ ← comma
  if !p.isBare then expect ')'
  return ⟨x, y, z⟩

def grid : Form Grid :=
  ⟨readGrid, fun g => writeRow [writeCount g.x, writeCount g.y, writeCount g.z]⟩

def option (f : Form α) : Form (Option α) where
  read p := optional p.extensions fun bare => do
    enter p.room
    f.read { p with room := p.room - 1, isBare := bare }
  write a := writeOption (a.map f.write)

def list (f : Form α) : Form (List α) where
  read p := do
    expect '['
    enter p.room
    let as ← members ']' (do enter (p.room - 1); f.read p.member)
    expect ']'
    return as
  write as := writeList (as.map f.write)

end Form

structure Field (σ : Type) where
  name : String
  read : Place → Reader (σ → σ)
  write : σ → Writer

def Field.of (name : String) (form : Form α) (get : σ → α) (put : α → σ → σ) : Field σ where
  name := name
  read p := do return put (← form.read p)
  write s := form.write (get s)

structure Partial (σ : Type) where
  seen : List String
  record : σ

/-- Reads a field. A field may come once; one that the record does not know is passed over. -/
def readField (fields : List (Field σ)) (p : Place) (s : Partial σ) : Reader (Partial σ) := do
  enter (p.room - 1)
  let key := String.ofList (← name)
  match fields.find? (·.name == key) with
  | none =>
    colon
    enter (p.room - 1)
    let _ ← loose p.extensions false p.member.room false false
    return s
  | some f =>
    if s.seen.contains key then throw (.repeatedField key none)
    colon
    enter (p.room - 1)
    let put ← f.read p.member
    return ⟨key :: s.seen, put s.record⟩

inductive Absence where
  | kept
  | refused
deriving DecidableEq

def recordName (ext : Extensions) (owner : String) : Reader Unit := do
  if ← lookAhead (fun cs => .ok (cs.head?.any Name.isRest)) then
    let found := String.ofList (← name)
    if found = owner then return () else throw (.wrongName owner found)
  else if ext.explicitNames then throw .malformed

def readFields (fields : List (Field σ)) (absence : Absence) (start : σ) (p : Place) :
    Reader σ := do
  let s ← gather ')' (readField fields p) true ⟨[], start⟩
  match fields.find? fun f => !s.seen.contains f.name with
  | none => return s.record
  | some f =>
    match absence with
    | .kept => return s.record
    | .refused => throw (.missingField f.name none)

/-- A record: fields in any order, in parentheses after an optional name. -/
def Form.record (owner : String) (absence : Absence) (start : σ) (fields : List (Field σ)) :
    Form σ where
  read p := do
    if !p.isBare then
      recordName p.extensions owner
      space
      expect '('
    enter p.room
    let body := readFields fields absence start p
    let s ← if p.isBare then body else owned owner body
    let _ ← comma
    if !p.isBare then expect ')'
    return s
  write s := writeRecord (fields.map fun f => writeField f.name.toList (f.write s))

end VoxelGI.Document
