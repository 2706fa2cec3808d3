import ChatProfiles.Decimal.Fixed
/-!
# Locations

A point on the Earth in degrees, with the radius of uncertainty in metres if the
sender knew it.  Nothing here limits the numbers; whoever reads a location from
outside decides what to accept.
-/
namespace ChatProfiles

structure Location where
  latitude : Float
  longitude : Float
  accuracy : Option Float := none

namespace Location

/-- Degrees with five decimal places, about a metre. -/
def write (l : Location) : Text :=
  Decimal.fixed 5 l.latitude ++ ',' :: Decimal.fixed 5 l.longitude
    ++ l.accuracy.elim [] fun metres => " ±".toList ++ Decimal.plain metres ++ ['m']

/-! ## Distance

The Earth is taken for a sphere of its mean radius: near enough to tell who is
nearby, and no survey.  The formula is the haversine one, `h` being the squared
half chord between the two points. -/

/-- Mean radius of the Earth in kilometres. -/
def earthRadius : Float := 6371.005076123

def radians (degrees : Float) : Float := degrees * (3.14159265358979323846 / 180.0)

def distance (a b : Location) : Float :=
  let square (x : Float) := x * x
  let h := square (radians (b.latitude - a.latitude) / 2.0).sin
    + (radians a.latitude).cos * (radians b.latitude).cos
      * square (radians (b.longitude - a.longitude) / 2.0).sin
  earthRadius * (2.0 * Float.atan2 h.sqrt (1.0 - h).sqrt)

end Location

end ChatProfiles
