import VoxelGI.Text.Visible

/-!
Quoted text: how a text is written between double quotes.
-/
namespace VoxelGI.Quoted

structure Style where
  escapesApostrophe : Bool

def document : Style := ⟨true⟩

def shown : Style := ⟨false⟩

/-- The lower-case hexadecimal digits of a code point between braces, after a backslash and `u`. -/
def codePoint (c : Char) : List Char :=
  ['\\', 'u', '\x7b'] ++ Nat.toDigits 16 c.toNat ++ ['\x7d']

/-- One character as it is written in quotes: the usual controls, the backslash and the quotes by a
short escape, hidden characters by their code point, and the rest as they are. -/
def encodeChar (style : Style) (c : Char) : List Char :=
  if c = '\x00' then ['\\', '0']
  else if c = '\t' then ['\\', 't']
  else if c = '\r' then ['\\', 'r']
  else if c = '\n' then ['\\', 'n']
  else if c = '\\' ∨ c = '\"' then ['\\', c]
  else if c = '\'' then (if style.escapesApostrophe then ['\\', c] else [c])
  else if Visible.isVisible c then [c]
  else codePoint c

def encode (style : Style) (cs : List Char) : List Char :=
  '\"' :: cs.flatMap (encodeChar style) ++ ['\"']

end VoxelGI.Quoted
