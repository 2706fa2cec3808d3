import ChatProfiles.Decimal.Reading
import ChatProfiles.Json.Reader
import ChatProfiles.Toml.Value
/-!
# TOML scalars

Strings in their four forms, integers in four bases, floats, truth values, and
moments.  Each reader takes one scalar off the front of a text.
-/
namespace ChatProfiles.Toml

def isSpace (c : Char) : Bool := c == ' ' || c == '\t'

def skipSpace (t : Text) : Text := t.dropWhile isSpace

/-- A line end, `\r\n` or `\n`, taken off the front. -/
def lineEnd? : Text → Option Text
  | '\n' :: r => some r
  | '\r' :: '\n' :: r => some r
  | _ => none

/-- Characters that may stand in comments and strings: all but controls, of which the tab is
allowed. -/
def isPlain (c : Char) : Bool := c == '\t' || (0x20 ≤ c.toNat && c != '\x7f')

/-! ## Strings -/

def hexValue? (digits : Text) : Option Nat :=
  digits.foldlM (fun n c => (Json.hexDigit? c).map (16 * n + ·)) 0

/-- The character with the code point that `count` hexadecimal digits name. -/
def codePoint? (count : Nat) (t : Text) : Option (Char × Text) := do
  let digits := t.take count
  if digits.length < count then none
  else
    let n ← hexValue? digits
    if n.isValidChar then some (Char.ofNat n, t.drop count) else none

/-- What follows the backslash of an escape. -/
def escape? : Text → Option (Char × Text)
  | 'b' :: r => some ('\x08', r)
  | 't' :: r => some ('\t', r)
  | 'n' :: r => some ('\n', r)
  | 'f' :: r => some ('\x0c', r)
  | 'r' :: r => some ('\r', r)
  | '"' :: r => some ('"', r)
  | '\\' :: r => some ('\\', r)
  | 'u' :: r => codePoint? 4 r
  | 'U' :: r => codePoint? 8 r
  | _ => none

def cons? (c : Char) (r : Option (Text × Text)) : Option (Text × Text) :=
  r.map fun (cs, rest) => (c :: cs, rest)

/-- The rest of a string of one line after its opening `quote`. -/
def lineString? (quote : Char) (escapes : Bool) : Nat → Text → Option (Text × Text)
  | 0, _ => none
  | _ + 1, [] => none
  | steps + 1, c :: r =>
    if c == quote then some ([], r)
    else if c == '\\' && escapes then
      match escape? r with
      | some (e, r) => cons? e (lineString? quote escapes steps r)
      | none => none
    else if isPlain c then cons? c (lineString? quote escapes steps r)
    else none

/-- Spaces and at least one line end, which a backslash at the end of a line takes away together
with the indentation of the next line. -/
def folded? (t : Text) : Option Text :=
  (lineEnd? (skipSpace t)).map (dropBlank t.length)
where
  /-- What is left after blanks and line ends. -/
  dropBlank : Nat → Text → Text
    | 0, t => t
    | steps + 1, t =>
      match t with
      | c :: r =>
        if isSpace c then dropBlank steps r
        else match lineEnd? (c :: r) with
          | some r => dropBlank steps r
          | none => c :: r
      | [] => []

/-- The rest of a string of several lines after its opening quotes.  Of up to five quotes in a
row the last three close it and the others belong to it. -/
def blockString? (quote : Char) (escapes : Bool) : Nat → Text → Option (Text × Text)
  | 0, _ => none
  | _ + 1, [] => none
  | steps + 1, c :: r =>
    if c == quote then
      let run := (c :: r).takeWhile (· == quote)
      if 5 < run.length then none
      else if 3 ≤ run.length then
        some (run.drop 3, (c :: r).drop run.length)
      else cons? c (blockString? quote escapes steps r)
    else if c == '\\' && escapes then
      match escape? r with
      | some (e, r) => cons? e (blockString? quote escapes steps r)
      | none =>
        match folded? r with
        | some r => blockString? quote escapes steps r
        | none => none
    else match lineEnd? (c :: r) with
      | some r => cons? '\n' (blockString? quote escapes steps r)
      | none =>
        if isPlain c then cons? c (blockString? quote escapes steps r) else none

def blockRest? (quote : Char) (escapes : Bool) (t : Text) : Option (Text × Text) :=
  let body := (lineEnd? t).getD t
  blockString? quote escapes (body.length + 1) body

def lineRest? (quote : Char) (escapes : Bool) (t : Text) : Option (Text × Text) :=
  lineString? quote escapes (t.length + 1) t

def string? : Text → Option (Text × Text)
  | '"' :: '"' :: '"' :: r => blockRest? '"' true r
  | '"' :: r => lineRest? '"' true r
  | '\x27' :: '\x27' :: '\x27' :: r => blockRest? '\x27' false r
  | '\x27' :: r => lineRest? '\x27' false r
  | _ => none

/-! ## Numbers

Underscores may stand between two digits. -/

/-- Digits of the given kind at the front, of which one was read before; an underscore is passed
over when a digit follows it. -/
def digitsAfter (isDigit : Char → Bool) : Text → Text × Text
  | [] => ([], [])
  | c :: r =>
    if isDigit c then
      let (ds, rest) := digitsAfter isDigit r
      (c :: ds, rest)
    else if c == '_' && r.head?.any isDigit then digitsAfter isDigit r
    else ([], c :: r)

/-- Digits of the given kind at the front, underscores between them left out. -/
def digits (isDigit : Char → Bool) (t : Text) : Text × Text :=
  if t.head?.any isDigit then digitsAfter isDigit t else ([], t)

/-- A whole number without leading zeros; its digits alone may be more than a word holds. -/
def wholeDigits? (t : Text) : Option (Text × Text) :=
  match digits Char.isDigit t with
  | ([], _) => none
  | ('0' :: _ :: _, _) => none
  | (ds, rest) => some (ds, rest)

def isHex (c : Char) : Bool := (Json.hexDigit? c).isSome

def isOctal (c : Char) : Bool := '0' ≤ c && c ≤ '7'

def isBinary (c : Char) : Bool := c == '0' || c == '1'

def inBase? (base : Nat) (isDigit : Char → Bool) (t : Text) : Option (Json × Text) :=
  match digits isDigit t with
  | ([], _) => none
  | (ds, rest) =>
    let n : Int := ds.foldl (fun n c => base * n + (Json.hexDigit? c).getD 0) 0
    if Decimal.fits64 n then some (.int n, rest) else none

/-- The exponent's text, sign included, if its mark follows. -/
def exponentText? : Text → Option (Text × Text)
  | c :: r =>
    if c == 'e' || c == 'E' then
      let (sign, r) : Text × Text := match r with
        | '-' :: r => (['-'], r)
        | '+' :: r => ([], r)
        | r => ([], r)
      match digits Char.isDigit r with
      | ([], _) => none
      | (ds, rest) => some ('e' :: sign ++ ds, rest)
    else some ([], c :: r)
  | [] => some ([], [])

def signText (negative : Bool) : Text := if negative then ['-'] else []

/-- A float of which a fraction or an exponent follows the whole part. -/
def float? (negative : Bool) (whole : Text) (t : Text) : Option (Json × Text) := do
  let (fraction, t) ← match t with
    | '.' :: r =>
      match digits Char.isDigit r with
      | ([], _) => none
      | (ds, rest) => some ('.' :: ds, rest)
    | _ => some ([], t)
  let (exponent, t) ← exponentText? t
  let x ← Decimal.readFloat? (signText negative ++ whole ++ fraction ++ exponent)
  if x == 1.0 / 0.0 then none else return (.float x, t)

def decimal? (negative : Bool) (t : Text) : Option (Json × Text) := do
  let (whole, rest) ← wholeDigits? t
  match rest with
  | '.' :: _ | 'e' :: _ | 'E' :: _ => float? negative whole rest
  | _ =>
    let n : Int := if negative then -(Decimal.value whole : Int) else Decimal.value whole
    if Decimal.fits64 n then return (.int n, rest) else none

def word? (negative : Bool) : Text → Option (Json × Text)
  | 'i' :: 'n' :: 'f' :: r => some (.float (if negative then -1.0 / 0.0 else 1.0 / 0.0), r)
  | 'n' :: 'a' :: 'n' :: r => some (.float (0.0 / 0.0), r)
  | _ => none

/-- A number after its sign. -/
def afterSign? (negative : Bool) (t : Text) : Option (Json × Text) :=
  (word? negative t).or (decimal? negative t)

def number? : Text → Option (Json × Text)
  | '-' :: r => afterSign? true r
  | '+' :: r => afterSign? false r
  | '0' :: 'x' :: r => inBase? 16 isHex r
  | '0' :: 'o' :: r => inBase? 8 isOctal r
  | '0' :: 'b' :: r => inBase? 2 isBinary r
  | t => afterSign? false t

def scalar? : Text → Option (Value × Text)
  | 't' :: 'r' :: 'u' :: 'e' :: r => some (.plain (.bool true), r)
  | 'f' :: 'a' :: 'l' :: 's' :: 'e' :: r => some (.plain (.bool false), r)
  | '"' :: r => (string? ('"' :: r)).map fun (s, r) => (.plain (.text s), r)
  | '\x27' :: r => (string? ('\x27' :: r)).map fun (s, r) => (.plain (.text s), r)
  | t =>
    match moment? .bare t with
    | some (m, r) => some (.moment m, r)
    | none => (number? t).map fun (j, r) => (.plain j, r)

end ChatProfiles.Toml
