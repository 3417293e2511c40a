import VoxelGI.Document.Scalar

/-!
Values of any shape. They stand for fields that a record does not know, whose values are only
passed over, and for overlays, which may be given in several ways.

Two guards count the levels of a nested value: opening a record, a row, a list or a map takes one
level, and so does each of its members. `room` is how many levels are left.
-/
namespace VoxelGI.Document

/-- What a document asks for in front of its value. -/
structure Extensions where
  implicitSome : Bool := false
  /-- A record or row that stands alone in parentheses needs none of its own. -/
  bareVariants : Bool := false
  explicitNames : Bool := false
deriving DecidableEq, Inhabited

/-- What matters of a value of any shape. -/
inductive Loose where
  | number (n : Int)
  | text (cs : List Char)
  | other
deriving DecidableEq

inductive BodyKind where
  | unit
  | empty
  | record
  | single
  | several
  | row
deriving DecidableEq

def dropLiteral (r : Reader α) (cs : List Char) : List Char :=
  match r cs with
  | .ok (_, rest) => rest
  | .error _ => cs

/-- Looks ahead whether a comma follows at the outermost of `depth` levels of brackets before it
closes, and whether anything follows the comma. Every round takes a character, so the check on
lengths always holds. -/
def countMembers (depth : Nat) (cs : List Char) : Except Fault BodyKind :=
  match skip .outside cs with
  | .error f => .error f
  | .ok here =>
    match dropLiteral bytes (dropLiteral text (dropLiteral character here)) with
    | [] => .error .malformed
    | c :: rest =>
      if c = ',' ∧ depth = 1 then
        match skip .outside rest with
        | .error f => .error f
        | .ok (')' :: _) => .ok .single
        | .ok _ => .ok .several
      else
        let depth :=
          if c = '(' ∨ c = '[' ∨ c = '\x7b' then depth + 1
          else if c = ')' ∨ c = ']' ∨ c = '\x7d' then depth - 1
          else depth
        if depth = 0 then .ok .single
        else if rest.length < cs.length then countMembers depth rest
        else .error .malformed
termination_by cs.length

def insideKind (precise : Bool) (cs : List Char) : Except Fault BodyKind :=
  let undecided (cs : List Char) : Except Fault BodyKind :=
    if precise then countMembers 1 cs else .ok .row
  match skip .outside cs with
  | .error f => .error f
  | .ok here =>
    match name? here with
    | none => undecided here
    | some (_, rest) =>
      match skip .outside rest with
      | .error f => .error f
      | .ok (':' :: _) => .ok .record
      | .ok (',' :: rest) =>
        match skip .outside rest with
        | .error f => .error f
        | .ok (')' :: _) => .ok .single
        | .ok _ => .ok .several
      | .ok (')' :: _) => .ok .single
      | .ok rest => undecided rest

def bodyKind (precise : Bool) (cs : List Char) : Except Fault BodyKind :=
  match cs with
  | '(' :: rest =>
    match skip .outside rest with
    | .error f => .error f
    | .ok (')' :: _) => .ok .empty
    | .ok rest => insideKind precise rest
  | _ => .ok .unit

def lookAhead (look : List Char → Except Fault α) : Reader α := fun cs =>
  match look cs with
  | .ok a => .ok (a, cs)
  | .error f => .error f

def acceptAnyWord (words : List (List Char)) : Reader Bool := fun cs =>
  match words.find? fun w => startsWord w cs with
  | some w => .ok (true, cs.drop w.length)
  | none => .ok (false, cs)

def plainWords : List (List Char) := [['t', 'r', 'u', 'e'], ['f', 'a', 'l', 's', 'e']]

def someWord : List Char := ['S', 'o', 'm', 'e']

def noneWord : List Char := ['N', 'o', 'n', 'e']

def numberWords : List (List Char) :=
  ([['i', 'n', 'f'], ['N', 'a', 'N']] : List (List Char)).flatMap fun w =>
    [w, w ++ singleName, w ++ doubleName]

def colon : Reader Unit := do
  space
  expect ':'
  space

def enter (room : Nat) : Reader Unit := if room = 0 then throw .tooDeep else return ()

def looseRow (room : Nat) (bare : Bool) (member : Reader Unit) : Reader Unit := do
  if !bare then expect '('
  enter room
  let _ ← members ')' member
  let _ ← comma
  if !bare then expect ')'

def looseRecord (room : Nat) (bare : Bool) (key member : Reader Unit) : Reader Unit := do
  if !bare then expect '('
  enter room
  let _ ← members ')' (do key; colon; member)
  let _ ← comma
  if !bare then expect ')'

def looseList (room : Nat) (member : Reader Unit) : Reader Unit := do
  expect '['
  enter room
  let _ ← members ']' member
  expect ']'

def looseMap (room : Nat) (member : Reader Unit) : Reader Unit := do
  expect '\x7b'
  enter room
  let _ ← members '\x7d' (do member; colon; member)
  expect '\x7d'

/-- An optional value: absent, in parentheses after a word, or bare if the document allows it. -/
def optional (ext : Extensions) (value : Bool → Reader α) : Reader (Option α) := do
  if ← acceptWord noneWord then return none
  else
    let opened ← (do
      if ← acceptWord someWord then
        space
        accept ['(']
      else return false : Reader Bool)
    if opened then
      space
      let v ← value ext.bareVariants
      let _ ← comma
      expect ')'
      return some v
    else if ext.implicitSome then return some (← value false)
    else throw .expectedOption

def looseByFirst (inParentheses : Reader Loose) (room : Nat) (member : Reader Unit) :
    Reader Loose := fun cs =>
  match cs with
  | [] => .error .malformed
  | c :: _ =>
    if c = '(' then inParentheses cs
    else if c = '[' then (do looseList room member; return .other : Reader Loose) cs
    else if c = '\x7b' then (do looseMap room member; return .other : Reader Loose) cs
    else if c.isDigit || c == '+' || c == '-' || c == '.' || ['b', '\''].isPrefixOf cs then
      (do
        match ← anyNumber with
        | some n => return .number n
        | none => return .other : Reader Loose) cs
    else if c = '\"' ∨ c = 'r' then (do return .text (← text) : Reader Loose) cs
    else if c = 'b' then
      (do
        match ofUtf8? (← bytes) with
        | some t => return .text t
        | none => return .other : Reader Loose) cs
    else if c = '\'' then (do let _ ← character; return .other : Reader Loose) cs
    else .error .malformed

/-- A value of any shape. `keep` says whether a single word and the names of fields are kept as
texts, and not read as values themselves; `bare` whether the value stands in parentheses that may
be its own; `afterName` whether a name stood before it. -/
def loose (ext : Extensions) (keep : Bool) (room : Nat) (bare afterName : Bool) (cs : List Char) :
    Except Fault (Loose × List Char) :=
  let member : Reader Unit := fun cs =>
    if h : 2 ≤ room then (loose ext keep (room - 2) false false cs).map fun (_, rest) => ((), rest)
    else .error .tooDeep
  let key : Reader Unit := if keep then (do enter (room - 1); let _ ← name) else member
  let option : Reader Unit := do
    let _ ← optional ext fun bare cs =>
      if h : 1 ≤ room then loose ext keep (room - 1) bare false cs else .error .tooDeep
  let row (bare : Bool) : Reader Loose := do looseRow room bare member; return .other
  let record (bare : Bool) : Reader Loose := do looseRecord room bare key member; return .other
  match if bare then insideKind true cs else .ok .single with
  | .error f => .error f
  | .ok .record => record true cs
  | .ok .several => row true cs
  | .ok _ =>
    if startsWord someWord cs then (do option; return .other : Reader Loose) cs
    else
      match acceptAnyWord (plainWords ++ noneWord :: numberWords) cs with
      | .error f => .error f
      | .ok (true, rest) => .ok (.other, rest)
      | .ok (false, _) =>
        if ['(', ')'].isPrefixOf cs then .ok (.other, cs.drop 2)
        else
          match name cs with
          | .ok (n, rest) =>
            match skip .outside rest with
            | .error f => .error f
            | .ok rest =>
              match bodyKind false rest with
              | .error f => .error f
              | .ok .unit => .ok (if keep then .text n else .other, rest)
              | .ok kind =>
                if keep then
                  if rest.length < cs.length then
                    (loose ext keep room false true rest).map fun (_, rest) => (.other, rest)
                  else .error .malformed
                else if kind = .record then record false rest
                else row false rest
          | .error _ =>
            let inParentheses : Reader Loose := fun here =>
              match bodyKind afterName here with
              | .error f => .error f
              | .ok .record => record false here
              | .ok .single =>
                if afterName then
                  match skip .outside (here.drop 1) with
                  | .error f => .error f
                  | .ok inner =>
                    if inner.length < cs.length then
                      match loose ext keep room false false inner with
                      | .error f => .error f
                      | .ok (v, rest) =>
                        match skip .outside rest with
                        | .error f => .error f
                        | .ok rest => (accept [')'] rest).map fun (_, rest) => (v, rest)
                    else .error .malformed
                else row false here
              | .ok _ => row false here
            looseByFirst inParentheses room member cs
termination_by (room, cs.length)

end VoxelGI.Document
