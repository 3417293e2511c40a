import VoxelGI.Document.Form

/-!
The preamble of a document: lines in front of its value that ask for extensions.
-/
namespace VoxelGI.Document

namespace Extensions

def ask? (ext : Extensions) (name : String) : Option Extensions :=
  match name with
  | "implicit_some" => some { ext with implicitSome := true }
  | "unwrap_newtypes" => some ext
  | "unwrap_variant_newtypes" => some { ext with bareVariants := true }
  | "explicit_struct_names" => some { ext with explicitNames := true }
  | _ => none

end Extensions

/-- Takes those of some texts that stand in front, in order and with layout after each; says
whether all did. -/
def acceptAll : List (List Char) → Reader Bool
  | [] => return true
  | t :: ts => do
    let here ← accept t
    if here then space
    let rest ← acceptAll ts
    return here && rest

/-- The names of extensions, separated by commas. The check on lengths always holds, since a name
has a character. -/
def askedFor (ext : Extensions) (cs : List Char) : Except Fault (Extensions × List Char) :=
  match name cs with
  | .error f => .error f
  | .ok (n, rest) =>
    match ext.ask? (String.ofList n) with
    | none => .error (.unknownExtension (String.ofList n))
    | some ext =>
      match comma rest with
      | .error f => .error f
      | .ok (more, rest) =>
        if rest.head?.any Name.isRest then
          if !more then .error .malformed
          else if rest.length < cs.length then askedFor ext rest
          else .error .malformed
        else .ok (ext, rest)
termination_by cs.length

def request (ext : Extensions) : Reader Extensions := do
  if !(← acceptAll [['#'], ['!'], ['['], ['e', 'n', 'a', 'b', 'l', 'e'], ['(']]) then
    throw .malformed
  space
  let ext ← askedFor ext
  space
  if !(← acceptAll [[')'], [']']]) then throw .malformed
  space
  return ext

/-- The preamble of a document, with the layout around it. The check on lengths always holds, since
a line begins with a number sign. -/
def preamble (ext : Extensions) (cs : List Char) : Except Fault (Extensions × List Char) :=
  match skip .outside cs with
  | .error f => .error f
  | .ok here =>
    if here.head? = some '#' then
      match request ext here with
      | .error f => .error f
      | .ok (ext, rest) =>
        if rest.length < cs.length then preamble ext rest else .error .malformed
    else .ok (ext, here)
termination_by cs.length

def levels : Nat := 128

/-- Reads a whole document: a preamble, and one value with nothing but layout after it. -/
def parse (form : Form α) (document : String) : Except Fault α := do
  let (ext, cs) ← preamble {} document.toList
  let (a, rest) ← form.read ⟨ext, levels, false⟩ cs
  let rest ← skip .outside rest
  if rest.isEmpty then return a else throw .trailing

def writeLine (form : Form α) (a : α) : String := String.ofList (form.write a .one)

def write (form : Form α) (a : α) : String := String.ofList (form.write a (.several 0))

end VoxelGI.Document
