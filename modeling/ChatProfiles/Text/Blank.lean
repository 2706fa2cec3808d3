import ChatProfiles.Text.Basic
/-!
# Blanks

A blank is a character with the Unicode property `White_Space`: 25 characters,
among them the no-break space and the ideographic space, but neither the
zero-width space nor the byte order mark.  Messages are split into words at
blanks and trimmed of them.
-/
namespace ChatProfiles.Text

def isBlank (c : Char) : Bool :=
  let n := c.toNat
  (0x9 ≤ n && n ≤ 0xD) || n == 0x20 || n == 0x85 || n == 0xA0 || n == 0x1680 ||
    (0x2000 ≤ n && n ≤ 0x200A) || n == 0x2028 || n == 0x2029 || n == 0x202F ||
    n == 0x205F || n == 0x3000

/-- The longest stretches without a blank, in order. -/
def words (t : Text) : List Text := (pieces isBlank t).filter (!·.isEmpty)

def trimLeft (t : Text) : Text := t.dropWhile isBlank

def trimRight (t : Text) : Text := (t.reverse.dropWhile isBlank).reverse

def trim (t : Text) : Text := trimRight (trimLeft t)

/-- Nothing is left of the text once it is trimmed. -/
def isBlankOnly (t : Text) : Bool := (trim t).isEmpty

end ChatProfiles.Text
