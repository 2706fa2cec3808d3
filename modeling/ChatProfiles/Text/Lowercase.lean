import ChatProfiles.Text.Basic
import ChatProfiles.Text.Case
/-!
# Lowercase

The full Unicode lowercase of a text.  Two letters do not map one to one: `İ`
becomes `i` with a combining dot, and `Σ` becomes `ς` at the end of a word and
`σ` elsewhere.  A `Σ` ends a word when a cased letter stands before it and none
after it, characters that case ignores being passed over on either side.
-/
namespace ChatProfiles.Text

def isCased (c : Char) : Bool := casedRanges.has c.toNat

def isCaseIgnorable (c : Char) : Bool := caseIgnorableRanges.has c.toNat

/-- How far the lowercase of code point `n` lies from it. -/
def lowercaseDistance : List (Nat × Nat × Nat × Int) → Nat → Int
  | [], _ => 0
  | (first, last, step, distance) :: rest, n =>
    if n < first then 0
    else if n ≤ last && (n - first) % step == 0 then distance
    else lowercaseDistance rest n

def lowercaseLetter (c : Char) : Text :=
  if c == 'İ' then ['i', Char.ofNat 0x307]
  else [Char.ofNat (c.toNat + lowercaseDistance lowercaseRuns c.toNat).toNat]

/-- Whether the first character that case does not ignore is cased. -/
def meetsCased (t : Text) : Bool :=
  match t.dropWhile isCaseIgnorable with
  | [] => false
  | c :: _ => isCased c

/-- Lowercase of what follows `before`, which is given last character first. -/
def lowercaseAfter (before : Text) : Text → Text
  | [] => []
  | c :: rest =>
    (if c == 'Σ' then [if meetsCased before && !meetsCased rest then 'ς' else 'σ']
      else lowercaseLetter c) ++ lowercaseAfter (c :: before) rest

def lowercase (t : Text) : Text := lowercaseAfter [] t

end ChatProfiles.Text
