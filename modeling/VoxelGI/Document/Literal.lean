import VoxelGI.Document.Scan

/-!
Literals between quotes: texts, characters and bytes, with their escapes.
-/
namespace VoxelGI.Document

inductive Escaped where
  | char (c : Char)
  | byte (b : UInt8)
  /-- A line that goes on in the next one. -/
  | nothing

def hexDigit? (c : Char) : Option Nat :=
  if c.isDigit then some (c.toNat - '0'.toNat)
  else if 'a' ≤ c ∧ c ≤ 'f' then some (c.toNat - 'a'.toNat + 10)
  else if 'A' ≤ c ∧ c ≤ 'F' then some (c.toNat - 'A'.toNat + 10)
  else none

def hexByte : Reader UInt8 := fun cs =>
  match cs with
  | a :: b :: rest =>
    match hexDigit? a, hexDigit? b with
    | some x, some y => .ok (UInt8.ofNat (16 * x + y), rest)
    | _, _ => .error .malformed
  | _ => .error .malformed

def ofUtf8? (bytes : List UInt8) : Option (List Char) :=
  (String.fromUTF8? ⟨bytes.toArray⟩).map String.toList

/-- Goes on with `\x` escapes until the bytes are one character, at most four of them. -/
def byteSequence : Nat → List UInt8 → Reader Escaped
  | 0, _ => throw .malformed
  | more + 1, bytes => do
    match ofUtf8? bytes with
    | some [c] => return .char c
    | _ =>
      if more = 0 then throw .malformed
      else if ← accept ['\\', 'x'] then byteSequence more (bytes ++ [← hexByte])
      else throw .malformed

def codeDigits : Nat → Nat → List Char → Except Fault (Nat × List Char)
  | _, code, '\x7d' :: rest => .ok (code, rest)
  | left + 1, code, c :: rest =>
    match hexDigit? c with
    | some d => codeDigits left (16 * code + d) rest
    | none => .error .malformed
  | _, _, _ => .error .malformed

def ofCode? (n : Nat) : Option Char :=
  if h : n.isValidChar then some (Char.ofNatAux n h) else none

/-- A code point between braces: one to six hexadecimal digits. -/
def codePoint : Reader Char := fun cs =>
  match cs with
  | '\x7b' :: rest =>
    if rest.head? = some '\x7d' then .error .malformed
    else
      match codeDigits 6 0 rest with
      | .ok (n, rest) =>
        match ofCode? n with
        | some c => .ok (c, rest)
        | none => .error .malformed
      | .error f => .error f
  | _ => .error .malformed

def isIndent (c : Char) : Bool := c == ' ' || c == '\t' || c == '\n' || c == '\r'

inductive Quotation where
  | text
  | character
  | bytes
deriving DecidableEq

/-- The escape after a backslash. In a text a character may be spelled byte by byte. -/
def escape (q : Quotation) : Reader Escaped := fun cs =>
  match cs with
  | '\'' :: rest => .ok (.char '\'', rest)
  | '\"' :: rest => .ok (.char '\"', rest)
  | '\\' :: rest => .ok (.char '\\', rest)
  | 'n' :: rest => .ok (.char '\n', rest)
  | 'r' :: rest => .ok (.char '\r', rest)
  | 't' :: rest => .ok (.char '\t', rest)
  | '0' :: rest => .ok (.char '\x00', rest)
  | 'x' :: rest =>
    (do
      let b ← hexByte
      match q with
      | .bytes => return .byte b
      | .character => byteSequence 1 [b]
      | .text => byteSequence 4 [b] : Reader Escaped) rest
  | 'u' :: rest => (do return .char (← codePoint) : Reader Escaped) rest
  | '\n' :: rest =>
    if q = .character then .error .malformed else .ok (.nothing, rest.dropWhile isIndent)
  | _ => .error .malformed

/-- The rest of a text after its opening quote. The check on lengths always holds. -/
def textBody (cs : List Char) : Except Fault (List Char × List Char) :=
  match cs with
  | [] => .error .malformed
  | c :: rest =>
    if c = '\"' then .ok ([], rest)
    else if c = '\\' then
      match escape .text rest with
      | .error f => .error f
      | .ok (e, left) =>
        if left.length ≤ rest.length then
          match textBody left with
          | .error f => .error f
          | .ok (tail, end_) =>
            match e with
            | .char d => .ok (d :: tail, end_)
            | _ => .ok (tail, end_)
        else .error .malformed
    else
      match textBody rest with
      | .error f => .error f
      | .ok (tail, end_) => .ok (c :: tail, end_)
termination_by cs.length

def bytesBody (cs : List Char) : Except Fault (List UInt8 × List Char) :=
  match cs with
  | [] => .error .malformed
  | c :: rest =>
    if c = '\"' then .ok ([], rest)
    else if c = '\\' then
      match escape .bytes rest with
      | .error f => .error f
      | .ok (e, left) =>
        if left.length ≤ rest.length then
          match bytesBody left with
          | .error f => .error f
          | .ok (tail, end_) =>
            match e with
            | .char d => .ok (String.utf8EncodeChar d ++ tail, end_)
            | .byte b => .ok (b :: tail, end_)
            | .nothing => .ok (tail, end_)
        else .error .malformed
    else
      match bytesBody rest with
      | .error f => .error f
      | .ok (tail, end_) => .ok (String.utf8EncodeChar c ++ tail, end_)
termination_by cs.length

def untilQuote (signs : Nat) : List Char → Except Fault (List Char × List Char)
  | [] => .error .malformed
  | c :: cs =>
    if c = '\"' && (List.replicate signs '#').isPrefixOf cs then .ok ([], cs.drop signs)
    else
      match untilQuote signs cs with
      | .error f => .error f
      | .ok (tail, end_) => .ok (c :: tail, end_)

/-- A raw text after its `r`: number signs, and a text in quotes that the same signs close. -/
def rawBody (fault : Fault) : Reader (List Char) := fun cs =>
  let signs := (cs.takeWhile (· == '#')).length
  match cs.dropWhile (· == '#') with
  | '\"' :: rest => untilQuote signs rest
  | _ => .error fault

def text : Reader (List Char) := fun cs =>
  match cs with
  | '\"' :: rest => textBody rest
  | 'r' :: rest => rawBody .expectedText rest
  | _ => .error .expectedText

def bytes : Reader (List UInt8) := fun cs =>
  match cs with
  | 'b' :: '\"' :: rest => bytesBody rest
  | 'b' :: 'r' :: rest =>
    match rawBody .malformed rest with
    | .ok (raw, end_) => .ok (raw.flatMap String.utf8EncodeChar, end_)
    | .error f => .error f
  | _ => .error .malformed

def character : Reader Char := do
  expect '\''
  let c ← (fun cs => match cs with
    | '\\' :: rest => (do
        match ← escape .character with
        | .char c => return c
        | _ => throw .malformed : Reader Char) rest
    | c :: rest => .ok (c, rest)
    | [] => .error .malformed : Reader Char)
  expect '\''
  return c

/-- One byte in single quotes after a `b`: an ASCII character, or an escape that is no code
point. -/
def byte : Reader UInt8 := do
  expect 'b'
  expect '\''
  let b ← (fun cs => match cs with
    | '\\' :: 'u' :: _ => .error .malformed
    | '\\' :: '\n' :: _ => .error .malformed
    | '\\' :: rest => (do
        match ← escape .bytes with
        | .char c => return UInt8.ofNat c.toNat
        | .byte b => return b
        | .nothing => throw .malformed : Reader UInt8) rest
    | c :: rest =>
      if c.toNat < 128 then .ok (UInt8.ofNat c.toNat, rest) else .error .malformed
    | [] => .error .malformed : Reader UInt8)
  expect '\''
  return b

end VoxelGI.Document
