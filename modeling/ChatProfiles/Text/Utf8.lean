import ChatProfiles.Text.Basic
import ChatProfiles.Decimal.Basic
/-!
# UTF-8

Bytes read from outside become text line by line, so that the lines before a
malformed one are still read.  A fault tells where in its line the first malformed
sequence starts and how many of its bytes could have started a character; a line
that ends in the middle of a character is incomplete instead.
-/
namespace ChatProfiles.Text.Utf8

inductive Fault where
  | invalid (length index : Nat)
  | incomplete (index : Nat)
deriving DecidableEq, Repr

def Fault.message : Fault → Text
  | .invalid length index =>
    "invalid utf-8 sequence of ".toList ++ Decimal.ofNat length ++ " bytes from index ".toList
      ++ Decimal.ofNat index
  | .incomplete index => "incomplete utf-8 byte sequence from index ".toList ++ Decimal.ofNat index

def isTail (b : UInt8) : Bool := 0x80 ≤ b && b ≤ 0xBF

/-- The six bits that a byte after the first one holds. -/
def tailBits (b : UInt8) : Nat := b.toNat % 64

/-- Whether `b` may follow `a`, the first byte of a character of three bytes: surrogates and
what fits two bytes are excluded. -/
def followsInThree (a b : UInt8) : Bool :=
  if a == 0xE0 then 0xA0 ≤ b && b ≤ 0xBF
  else if a == 0xED then 0x80 ≤ b && b ≤ 0x9F
  else isTail b

/-- Whether `b` may follow `a`, the first byte of a character of four bytes. -/
def followsInFour (a b : UInt8) : Bool :=
  if a == 0xF0 then 0x90 ≤ b && b ≤ 0xBF
  else if a == 0xF4 then 0x80 ≤ b && b ≤ 0x8F
  else isTail b

def decodeFrom (index : Nat) : List UInt8 → Except Fault Text
  | [] => .ok []
  | a :: rest =>
    if a < 0x80 then (decodeFrom (index + 1) rest).map (Char.ofNat a.toNat :: ·)
    else if 0xC2 ≤ a && a ≤ 0xDF then
      match rest with
      | [] => .error (.incomplete index)
      | b :: rest =>
        if isTail b then
          (decodeFrom (index + 2) rest).map (Char.ofNat (a.toNat % 32 * 64 + tailBits b) :: ·)
        else .error (.invalid 1 index)
    else if 0xE0 ≤ a && a ≤ 0xEF then
      match rest with
      | [] => .error (.incomplete index)
      | b :: rest =>
        if followsInThree a b then
          match rest with
          | [] => .error (.incomplete index)
          | c :: rest =>
            if isTail c then
              (decodeFrom (index + 3) rest).map
                (Char.ofNat ((a.toNat % 16 * 64 + tailBits b) * 64 + tailBits c) :: ·)
            else .error (.invalid 2 index)
        else .error (.invalid 1 index)
    else if 0xF0 ≤ a && a ≤ 0xF4 then
      match rest with
      | [] => .error (.incomplete index)
      | b :: rest =>
        if followsInFour a b then
          match rest with
          | [] => .error (.incomplete index)
          | c :: rest =>
            if isTail c then
              match rest with
              | [] => .error (.incomplete index)
              | d :: rest =>
                if isTail d then
                  (decodeFrom (index + 4) rest).map
                    (Char.ofNat
                      (((a.toNat % 8 * 64 + tailBits b) * 64 + tailBits c) * 64 + tailBits d) :: ·)
                else .error (.invalid 3 index)
            else .error (.invalid 2 index)
        else .error (.invalid 1 index)
    else .error (.invalid 1 index)

def decode (bytes : List UInt8) : Except Fault Text := decodeFrom 0 bytes

/-! ## Lines of bytes -/

/-- Lines with their line feeds; only the last one may lack it. -/
def byteLines : List UInt8 → List (List UInt8)
  | [] => []
  | b :: rest =>
    if b == 0x0A then [b] :: byteLines rest
    else match byteLines rest with
      | [] => [[b]]
      | line :: lines => (b :: line) :: lines

/-- The line without its line feed and a carriage return before it. -/
def withoutEnd (line : Text) : Text :=
  if line.getLast? = some '\n' then withoutReturn line.dropLast else line

/-- The lines up to the first malformed one, and its fault if there is one. -/
def lines (bytes : List UInt8) : List Text × Option Fault := go (byteLines bytes)
where
  /-- As `lines`, of lines already taken apart. -/
  go : List (List UInt8) → List Text × Option Fault
    | [] => ([], none)
    | line :: rest =>
      match decode line with
      | .error fault => ([], some fault)
      | .ok t => let (ts, fault?) := go rest; (withoutEnd t :: ts, fault?)

end ChatProfiles.Text.Utf8
