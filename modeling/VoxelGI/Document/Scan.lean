import VoxelGI.Document.Fault

/-!
Reading from the front of a text: layout, punctuation and names. A reader takes the text that is
left and gives a value with what is left then, or a fault.
-/
namespace VoxelGI.Document

abbrev Reader (α : Type) := StateT (List Char) (Except Fault) α

def isSpace (c : Char) : Bool :=
  let n := c.toNat
  decide (9 ≤ n ∧ n ≤ 13) || n == 0x20 || n == 0x85 || n == 0x200e || n == 0x200f
    || n == 0x2028 || n == 0x2029

/-- Where in the layout between two tokens a text begins. -/
inductive Layout where
  | outside
  | line
  /-- In a block comment, and so many further ones around it. -/
  | block (around : Nat)

/-- Drops spaces and comments; block comments nest. A slash that begins no comment is a fault. -/
def skip : Layout → List Char → Except Fault (List Char)
  | .outside, [] => .ok []
  | .outside, '/' :: '/' :: cs => skip .line cs
  | .outside, '/' :: '*' :: cs => skip (.block 0) cs
  | .outside, c :: cs =>
    if isSpace c then skip .outside cs
    else if c = '/' then .error .malformed
    else .ok (c :: cs)
  | .line, [] => .ok []
  | .line, c :: cs => if c = '\n' then skip .outside cs else skip .line cs
  | .block _, [] => .error .unclosedComment
  | .block n, '/' :: '*' :: cs => skip (.block (n + 1)) cs
  | .block 0, '*' :: '/' :: cs => skip .outside cs
  | .block (n + 1), '*' :: '/' :: cs => skip (.block n) cs
  | .block n, _ :: cs => skip (.block n) cs

def space : Reader Unit := fun cs => (skip .outside cs).map fun rest => ((), rest)

def accept (text : List Char) : Reader Bool := fun cs =>
  if text.isPrefixOf cs then .ok (true, cs.drop text.length) else .ok (false, cs)

def expect (c : Char) : Reader Unit := fun cs =>
  match cs with
  | d :: rest => if d = c then .ok ((), rest) else .error .malformed
  | [] => .error .malformed

def comma : Reader Bool := do
  space
  if ← accept [','] then
    space
    return true
  else
    return false

def startsWord (word cs : List Char) : Bool :=
  word.isPrefixOf cs && !(cs.drop word.length).head?.any Name.isRest

def acceptWord (word : List Char) : Reader Bool := fun cs =>
  if startsWord word cs then .ok (true, cs.drop word.length) else .ok (false, cs)

/-- What begins a literal although its first character could begin a name. -/
def literalOpeners : List (List Char) :=
  [['b', '\"'], ['b', '\''], ['b', 'r', '#'], ['b', 'r', '\"'], ['r', '\"'], ['r', '#', '\"'],
    ['r', '#', '#']]

/-- The name in front, and what follows it; a raw name comes after `r#`. -/
def name? (cs : List Char) : Option (List Char × List Char) :=
  if literalOpeners.any (·.isPrefixOf cs) then none
  else
    match cs with
    | 'r' :: '#' :: rest =>
      let raw := rest.takeWhile Name.isRaw
      if raw.isEmpty then none else some (raw, rest.dropWhile Name.isRaw)
    | c :: rest =>
      if Name.isFirst c then some (c :: rest.takeWhile Name.isRest, rest.dropWhile Name.isRest)
      else none
    | [] => none

/-- Takes a name. A plain name that goes on like a raw one is a fault. -/
def name : Reader (List Char) := fun cs =>
  match name? cs with
  | some (n, rest) => if rest.head?.any Name.isRaw then .error .malformed else .ok (n, rest)
  | none => .error .malformed

/-- Reads members up to a closing character, which is left in place; every member changes a state.
Members are separated by commas, and one comma may follow the last; `afterComma` says whether a
member may stand here. The check on lengths always holds, since a member takes a character. -/
def gather (close : Char) (member : σ → Reader σ) (afterComma : Bool) (state : σ)
    (cs : List Char) : Except Fault (σ × List Char) :=
  match skip .outside cs with
  | .error f => .error f
  | .ok here =>
    if here.head? = some close then .ok (state, here)
    else if !afterComma then .error .malformed
    else
      match member state here with
      | .error f => .error f
      | .ok (state, rest) =>
        match comma rest with
        | .error f => .error f
        | .ok (more, rest) =>
          if rest.length < cs.length then gather close member more state rest
          else .error .malformed
termination_by cs.length

def members (close : Char) (member : Reader α) : Reader (List α) :=
  gather close (fun as => do return as ++ [← member]) true []

def owned (owner : String) (r : Reader α) : Reader α := fun cs =>
  match r cs with
  | .ok result => .ok result
  | .error f => .error (f.ownedBy owner)

end VoxelGI.Document
