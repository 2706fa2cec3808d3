/-!
# Ranges of code points

A property of characters is kept as the ascending list of the ranges of code
points that have it.  A search stops at the first range that starts beyond the
code point, so the question costs little for the small code points that make up
most text.
-/
namespace ChatProfiles.Text

/-- First and last code point of each range; ascending, and no two ranges touch. -/
abbrev Ranges := List (Nat × Nat)

def Ranges.has : Ranges → Nat → Bool
  | [], _ => false
  | (first, last) :: rest, n => if n < first then false else n ≤ last || Ranges.has rest n

end ChatProfiles.Text
