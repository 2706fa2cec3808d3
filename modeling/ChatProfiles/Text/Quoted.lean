import ChatProfiles.Text.Unprintable
import ChatProfiles.Text.Basic
/-!
# Quoted text

The form in which an error message shows a text that was refused: between double
quotes, on one line, and with nothing in it that a terminal would swallow or
combine.  A single quote needs no escape, because it cannot end the quotation.
-/
namespace ChatProfiles.Text

/-- The digits of a code point in lowercase hexadecimal, without leading zeros. -/
def hexadecimal (n : Nat) : Text := Nat.toDigits 16 n

def quotedChar (c : Char) : Text :=
  match c with
  | '"' => ['\\', '"']
  | '\\' => ['\\', '\\']
  | '\n' => ['\\', 'n']
  | '\r' => ['\\', 'r']
  | '\t' => ['\\', 't']
  | '\x00' => ['\\', '0']
  | c =>
    if isUnprintable c then ['\\', 'u', '\x7b'] ++ hexadecimal c.toNat ++ ['\x7d'] else [c]

def quoted (t : Text) : Text := '"' :: t.flatMap quotedChar ++ ['"']

end ChatProfiles.Text
