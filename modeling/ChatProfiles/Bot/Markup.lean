import ChatProfiles.Text.Basic
/-!
# Markup

Four characters open a span in a message with markup.  A backslash before one of
them makes it stand for itself; a backslash anywhere else is an ordinary
character.  `escaped` puts one before each of the four, so that a text from
outside appears as it is.
-/
namespace ChatProfiles.Markup

def opensSpan (c : Char) : Bool := c == '_' || c == '*' || c == '\x60' || c == '['

def escaped : Text → Text
  | [] => []
  | c :: rest => if opensSpan c then '\\' :: c :: escaped rest else c :: escaped rest

end ChatProfiles.Markup
