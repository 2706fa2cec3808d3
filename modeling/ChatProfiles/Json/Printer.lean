import ChatProfiles.Json.Basic
import ChatProfiles.Decimal.Shortest
/-!
# Writing JSON

Two layouts: `compact`, on one line without blanks, and `pretty`, with one member
or item to a line, indented by two spaces a level.
-/
namespace ChatProfiles.Json

/-- Floats keep a fraction, so that they read back as floats; from `10 ^ 16` on and below
`10 ^ -5` they have an exponent, whose sign is always written. -/
def floatText (x : Float) : Text :=
  match Decimal.Binary.ofFloat x with
  | .notANumber => "null".toList
  | .infinite _ => "null".toList
  | .finite negative m q narrow =>
    let fraction := ".0".toList
    Decimal.signed negative <|
      if m == 0 then '0' :: fraction
      else
        let s := Decimal.shortest .even m q narrow
        if -5 < s.point && s.point ≤ 16 then s.positional fraction
        else
          let power := s.point - 1
          s.digits.take 1 ++ (if s.digits.length == 1 then [] else '.' :: s.digits.drop 1)
            ++ (if power < 0 then "e-".toList else "e+".toList) ++ Decimal.ofNat power.natAbs

def escapedChar (c : Char) : Text :=
  match c with
  | '"' => ['\\', '"']
  | '\\' => ['\\', '\\']
  | '\n' => ['\\', 'n']
  | '\r' => ['\\', 'r']
  | '\t' => ['\\', 't']
  | '\x08' => ['\\', 'b']
  | '\x0c' => ['\\', 'f']
  | c =>
    if c.toNat < 0x20 then "\\u00".toList ++ [Nat.digitChar (c.toNat / 16), Nat.digitChar (c.toNat % 16)]
    else [c]

def escaped (t : Text) : Text := '"' :: t.flatMap escapedChar ++ ['"']

def openBrace : Char := '\x7b'

def closeBrace : Char := '\x7d'

def scalarText : Json → Text
  | .null => "null".toList
  | .bool true => "true".toList
  | .bool false => "false".toList
  | .int n => Decimal.ofInt n
  | .float x => floatText x
  | .text t => escaped t
  | .array _ => "[]".toList
  | .object _ => [openBrace, closeBrace]

mutual

def compact : Json → Text
  | .array items => '[' :: compactItems items ++ [']']
  | .object members => openBrace :: compactMembers members ++ [closeBrace]
  | j => scalarText j

def compactItems : List Json → Text
  | [] => []
  | [j] => compact j
  | j :: rest => compact j ++ ',' :: compactItems rest

def compactMembers : List (Text × Json) → Text
  | [] => []
  | [(name, j)] => escaped name ++ ':' :: compact j
  | (name, j) :: rest => escaped name ++ ':' :: compact j ++ ',' :: compactMembers rest

end

def newLine (level : Nat) : Text := '\n' :: List.replicate (2 * level) ' '

mutual

/-- The lines inside a value at depth `level` are indented one level more. -/
def prettyAt (level : Nat) : Json → Text
  | .array (j :: rest) => '[' :: prettyItems (level + 1) (j :: rest) ++ newLine level ++ [']']
  | .object (m :: rest) =>
    openBrace :: prettyMembers (level + 1) (m :: rest) ++ newLine level ++ [closeBrace]
  | j => scalarText j

def prettyItems (level : Nat) : List Json → Text
  | [] => []
  | [j] => newLine level ++ prettyAt level j
  | j :: rest => newLine level ++ prettyAt level j ++ ',' :: prettyItems level rest

def prettyMembers (level : Nat) : List (Text × Json) → Text
  | [] => []
  | [(name, j)] => newLine level ++ escaped name ++ ": ".toList ++ prettyAt level j
  | (name, j) :: rest =>
    newLine level ++ escaped name ++ ": ".toList ++ prettyAt level j
      ++ ',' :: prettyMembers level rest

end

def pretty (j : Json) : Text := prettyAt 0 j

end ChatProfiles.Json
