import ChatProfiles.Bot.Markup
import ChatProfiles.Bot.Message
/-!
# How profiles are shown

A card shows one profile in full, with markup: the header with the marker on both
sides of the name, then the language, the attributes and the tags, a line each,
and none for what is missing.  A listing shows each profile on a line of plain
text.
-/
namespace ChatProfiles.Card

def header (p : Profile) : Text :=
  let m := p.member
  p.marker.write ++ " *".toList ++ Markup.escaped m.firstName
    ++ (m.lastName.elim [] fun last => ' ' :: Markup.escaped last) ++ ['*']
    ++ (m.username.elim [] fun username => " @".toList ++ Markup.escaped username)
    ++ ' ' :: p.marker.write

def attributesLine? (p : Profile) : Option Text :=
  match p.attributes.entries with
  | [] => none
  | es => some ("📋 ".toList ++ Text.joined [' '] (es.map fun (kind, value) => kind.shown value))

def tagsLine? (p : Profile) : Option Text :=
  match p.tags.toList with
  | [] => none
  | tags => some (Text.joined [' '] (tags.map Tag.write))

def lines (p : Profile) : List Text :=
  header p :: (p.member.languageCode.map fun code => "💬 ".toList ++ Markup.escaped code).toList
    ++ (attributesLine? p).toList ++ (tagsLine? p).toList

def write (p : Profile) : Text := Text.joined ['\n'] (lines p)

/-- The card, and a pin on the map if the location is known. -/
def messages (p : Profile) : List Message :=
  .markup (write p) :: (p.location.map Message.location).toList

/-! ## Listings -/

/-- Stands for a location in short replies. -/
def locationLabel : Text := "📍".toList

/-- The marker and the username, or the first name of a member who has none. -/
def listed (p : Profile) : Text :=
  p.marker.write ++ match p.member.username with
    | some username => " @".toList ++ username
    | none => ' ' :: p.member.firstName

def listing (ps : List Profile) : Text :=
  "👤 × ".toList ++ Decimal.ofNat ps.length ++ ps.flatMap fun p => '\n' :: listed p

end ChatProfiles.Card
