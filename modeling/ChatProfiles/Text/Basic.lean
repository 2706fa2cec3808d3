/-!
# Text

Every text the bot reads or writes is a list of characters, so that a rule about
text is a recursion on a list and a law about it an induction.  `String` is only
what the outermost layer turns into a `Text` and back.

The operations here are the ones the rest of the library is written with: taking
a text apart at separators, taking off what it starts with, and comparing it
without regard to the case of the ASCII letters.
-/
namespace ChatProfiles

abbrev Text := List Char

namespace Text

/-! ## Taking a text apart

`pieces` cuts at every separator, so a text with `n` separators has `n + 1`
pieces, some of them perhaps empty; `cut` cuts at the first one only. -/

def pieces (sep : Char → Bool) : Text → List Text
  | [] => [[]]
  | c :: r =>
    if sep c then [] :: pieces sep r
    else match pieces sep r with
      | [] => [[c]]
      | w :: ws => (c :: w) :: ws

/-- What stands before the first separator, and what follows it if there is one. -/
def cut (sep : Char → Bool) (t : Text) : Text × Option Text :=
  match t.dropWhile (!sep ·) with
  | [] => (t, none)
  | _ :: rest => (t.takeWhile (!sep ·), some rest)

/-- What is left of `t` once `start` has been taken off its front. -/
def strip? (start t : Text) : Option Text := start.isPrefixOf? t

def startsWith (start t : Text) : Bool := start.isPrefixOf t

def joined (glue : Text) (ts : List Text) : Text := List.intercalate glue ts

/-- `t` with every occurrence of `old`, searched from the left, turned into `new`. -/
def replaced (old new : Text) : Text → Text
  | [] => []
  | c :: r => go (c :: r) 0
where
  /-- `skip` characters of an occurrence are still to be passed over. -/
  go : Text → Nat → Text
    | [], _ => []
    | _ :: r, skip + 1 => go r skip
    | c :: r, 0 =>
      if old.isPrefixOf (c :: r) then new ++ go r (old.length - 1) else c :: go r 0

/-! ## ASCII letter case

Commands, tags and usernames are the same in either case of their ASCII letters
and of no other letter: `É` and `é` differ here. -/

def fold (t : Text) : Text := t.map Char.toLower

def sameIgnoringCase (a b : Text) : Bool := fold a == fold b

@[simp] theorem fold_nil : fold [] = [] := rfl

@[simp] theorem fold_cons (c : Char) (t : Text) : fold (c :: t) = c.toLower :: fold t := rfl

theorem sameIgnoringCase_iff {a b : Text} : sameIgnoringCase a b = true ↔ fold a = fold b := by
  simp [sameIgnoringCase]

theorem sameIgnoringCase_comm (a b : Text) : sameIgnoringCase a b = sameIgnoringCase b a := by
  rw [Bool.eq_iff_iff, sameIgnoringCase_iff, sameIgnoringCase_iff, eq_comm]

/-! ## Lines

A line ends at a line feed; a carriage return directly before that line feed
belongs to the line's end and not to the line.  The end of the last line may be
missing, and a text that ends with a line end has no further, empty line. -/

def withoutReturn (line : Text) : Text :=
  if line.getLast? = some '\r' then line.dropLast else line

def closedLines : List Text → List Text
  | [] => []
  | [last] => if last.isEmpty then [] else [last]
  | line :: rest => withoutReturn line :: closedLines rest

def lines (t : Text) : List Text := closedLines (pieces (· == '\n') t)

end Text

end ChatProfiles
