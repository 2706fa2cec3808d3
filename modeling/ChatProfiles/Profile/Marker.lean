import ChatProfiles.Text.Symbol
import ChatProfiles.Text.Quoted
/-!
# Markers

A marker is the one symbol that decorates a profile.  It is a single character, so
a pictograph with a variation selector or a skin tone is none.
-/
namespace ChatProfiles

structure Marker where
  symbol : Char
  isSymbol : Text.isSymbol symbol = true

namespace Marker

theorem ext_symbol {a b : Marker} (h : a.symbol = b.symbol) : a = b := by
  cases a; cases b; cases h; rfl

instance : DecidableEq Marker := fun a b =>
  if h : a.symbol = b.symbol then isTrue (ext_symbol h) else isFalse fun e => h (e ▸ rfl)

def ofText? : Text → Option Marker
  | [c] => if h : Text.isSymbol c = true then some ⟨c, h⟩ else none
  | _ => none

/-- The marker a new profile starts with. -/
def initial : Marker := ⟨'😀', by decide +kernel⟩

def write (m : Marker) : Text := [m.symbol]

theorem ofText?_write (m : Marker) : ofText? m.write = some m := by
  simp [ofText?, write, m.isSymbol]

theorem ofText?_eq_some_iff {t : Text} {m : Marker} : ofText? t = some m ↔ t = m.write := by
  refine ⟨fun h => ?_, fun h => h ▸ ofText?_write m⟩
  unfold ofText? at h
  split at h
  · split at h <;> cases h
    rfl
  · cases h

/-- What is said of a text that is no marker. -/
def refusal (t : Text) : Text := "marker must be a single symbol, got ".toList ++ Text.quoted t

end Marker

end ChatProfiles
