import VoxelGI.Numeric.Decimal
import VoxelGI.Text.Blank

/-!
The debug overlay: what is drawn over the scene to inspect its lighting. An overlay is chosen by
name or by the number it has in the engine; a text may hold either.
-/
namespace VoxelGI

inductive Overlay where
  | albedo
  | normal
  | emissive
  | lighting
  | off
deriving DecidableEq, Inhabited

namespace Overlay

def all : List Overlay := [albedo, normal, emissive, lighting, off]

def index : Overlay → UInt32
  | albedo => 0
  | normal => 1
  | emissive => 2
  | lighting => 3
  | off => 4

/-- The overlay with a number; a number that none has means no overlay. -/
def ofIndex (index : UInt32) : Overlay := (all[index.toNat]?).getD off

@[simp] theorem ofIndex_index (o : Overlay) : ofIndex o.index = o := by
  cases o <;> rfl

def name : Overlay → String
  | albedo => "albedo"
  | normal => "normal"
  | emissive => "emissive"
  | lighting => "lighting"
  | off => "none"

def title : Overlay → String
  | albedo => "Albedo"
  | normal => "Normal"
  | emissive => "Emissive"
  | lighting => "Lighting"
  | off => "None"

def ofName? (name : List Char) : Option Overlay :=
  all.find? fun o => o.name.toList == name

@[simp] theorem ofName?_name (o : Overlay) : ofName? o.name.toList = some o := by
  cases o <;> decide

structure Unknown where
  name : String
deriving DecidableEq

def Unknown.message (u : Unknown) : String :=
  s!"unknown debug visualization mode '{u.name}'"

def count? (cs : List Char) : Option UInt32 :=
  let ds := match cs with
    | '+' :: rest => rest
    | rest => rest
  if ds.isEmpty || !ds.all Char.isDigit then none
  else
    let n := Decimal.ofDigits ds
    if n < UInt32.size then some (UInt32.ofNat n) else none

/-- The overlay that a text chooses by name or number, once the blanks around it are dropped. -/
def ofText (text : List Char) : Except Unknown Overlay :=
  let trimmed := trimBlanks text
  match ofName? trimmed with
  | some o => .ok o
  | none =>
    match count? trimmed with
    | some n => .ok (ofIndex n)
    | none => .error ⟨String.ofList trimmed⟩

end Overlay

end VoxelGI
