import ChatProfiles.Toml.Scalar
import ChatProfiles.Toml.Table
/-!
# Reading TOML

A document is read line by line into the tables it defines.  Any fault in it
refuses the whole document.  At most 79 arrays and inline tables stand inside one
another, and at most 79 keys are joined by dots.
-/
namespace ChatProfiles.Toml

/-! ## Keys -/

def isBareKeyChar (c : Char) : Bool := c.isAlphanum || c == '_' || c == '-'

def simpleKey? (t : Text) : Option (Text × Text) :=
  match t with
  | '"' :: r => lineRest? '"' true r
  | '\x27' :: r => lineRest? '\x27' false r
  | _ =>
    match t.takeWhile isBareKeyChar with
    | [] => none
    | key => some (key, t.dropWhile isBareKeyChar)

/-- Keys with dots between them, and the blanks after them. -/
def keys? : Nat → Text → Option (List Text × Text)
  | 0, _ => none
  | steps + 1, t => do
    let (key, r) ← simpleKey? (skipSpace t)
    match skipSpace r with
    | '.' :: r =>
      let (keys, r) ← keys? steps r
      return (key :: keys, r)
    | r => return ([key], r)

/-- How deep values may be nested and keys be dotted, plus one. -/
def depthLimit : Nat := 80

def key? (t : Text) : Option (List Text × Text) := do
  let (keys, r) ← keys? (t.length + 1) t
  if keys.length < depthLimit then some (keys, r) else none

/-! ## Values

`steps` bounds what is still to be read of a value, `depth` how far it may still be
nested. -/

/-- A comment up to the end of its line, if one starts here; controls are refused in it. -/
def skipComment? : Text → Option Text
  | '#' :: r =>
    let rest := r.dropWhile isPlain
    if rest.isEmpty || (lineEnd? rest).isSome then some rest else none
  | t => some t

/-- Blanks, comments and line ends, which may stand between the items of an array. -/
def skipLines? : Nat → Text → Option Text
  | 0, t => some t
  | steps + 1, t => do
    let r ← skipComment? (skipSpace t)
    match lineEnd? r with
    | some r => skipLines? steps r
    | none => return r

def skipAll? (t : Text) : Option Text := skipLines? (t.length + 1) t

mutual

def value? (steps depth : Nat) (t : Text) : Option (Value × Text) :=
  match steps with
  | 0 => none
  | steps + 1 =>
    match t with
    | '[' :: r =>
      if depth ≤ 1 then none
      else (items? steps (depth - 1) r).map fun (vs, r) => (.array vs, r)
    | '\x7b' :: r =>
      if depth ≤ 1 then none
      else match skipSpace r with
        | '\x7d' :: r => some (.table [], r)
        | r => (pairs? steps (depth - 1) [] r).map fun (ms, r) => (.table (memberValues ms), r)
    | t => scalar? t

/-- Items up to the closing bracket; a comma may follow the last one. -/
def items? (steps depth : Nat) (t : Text) : Option (List Value × Text) :=
  match steps with
  | 0 => none
  | steps + 1 => do
    match ← skipAll? t with
    | ']' :: r => return ([], r)
    | r =>
      let (v, r) ← value? steps depth r
      match ← skipAll? r with
      | ']' :: r => return ([v], r)
      | ',' :: r =>
        let (vs, r) ← items? steps depth r
        return (v :: vs, r)
      | _ => none

/-- Pairs of an inline table up to the closing brace, added to those before. -/
def pairs? (steps depth : Nat) (before : Members) (t : Text) : Option (Members × Text) :=
  match steps with
  | 0 => none
  | steps + 1 => do
    let (keys, r) ← key? t
    match r with
    | '=' :: r =>
      let (v, r) ← value? steps depth (skipSpace r)
      let all ← before.addPair keys v
      match skipSpace r with
      | '\x7d' :: r => return (all, r)
      | ',' :: r => pairs? steps depth all r
      | _ => none
    | _ => none

end

/-! ## Lines -/

/-- The tables defined so far, and the header that the next pairs go under. -/
structure Draft where
  members : Members := []
  header : List Text := []

/-- Nothing but a comment up to the end of the line, which is taken off. -/
def closeLine? (t : Text) : Option Text := do
  let r ← skipComment? (skipSpace t)
  if r.isEmpty then return [] else lineEnd? r

/-- One line that is not empty. -/
def line? (d : Draft) (t : Text) : Option (Draft × Text) :=
  match t with
  | '[' :: '[' :: r => do
    let (keys, r) ← key? r
    match r with
    | ']' :: ']' :: r => return (⟨← d.members.addElement keys, keys⟩, r)
    | _ => none
  | '[' :: r => do
    let (keys, r) ← key? r
    match r with
    | ']' :: r => return (⟨← d.members.addHeader keys, keys⟩, r)
    | _ => none
  | _ => do
    let (keys, r) ← key? t
    match r with
    | '=' :: r =>
      let (v, r) ← value? (2 * r.length + 1) depthLimit (skipSpace r)
      return ({ d with members := ← d.members.addUnder d.header keys v }, r)
    | _ => none

def linesFrom? : Nat → Draft → Text → Option Members
  | 0, _, _ => none
  | steps + 1, d, t =>
    match skipSpace t with
    | [] => some d.members
    | '#' :: r => do linesFrom? steps d (← closeLine? ('#' :: r))
    | r =>
      match lineEnd? r with
      | some r => linesFrom? steps d r
      | none => do
        let (d, r) ← line? d r
        linesFrom? steps d (← closeLine? r)

/-- The document as JSON; a byte order mark before it is passed over. -/
def read? (t : Text) : Option Json := do
  let body := (Text.strip? ['\ufeff'] t).getD t
  let members ← linesFrom? (body.length + 1) {} body
  Value.toJson? (.table (memberValues members))

end ChatProfiles.Toml
