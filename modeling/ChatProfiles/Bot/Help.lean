import ChatProfiles.Bot.Markup
/-!
# What the bot tells about itself

The greeting, and the guide in four messages: how to read the grammar, how to edit
one's profile, how to see someone's, and how to search.
-/
namespace ChatProfiles.Help

def introduction : Text :=
  "*Hi!* 👋\n".toList
    ++ "I keep a small profile for everyone in your groups and help you find ".toList
    ++ "the people you are looking for. If you do not know where to start, ".toList
    ++ "just ask me for /help.".toList

def grammarSection : Text :=
  "::= = is\n| = or\n\\[ ] = once or none\n\x7b \x7d = zero or more times".toList

def editSection : Text :=
  "*👤 SETTING UP YOUR PROFILE\n/iam \x7bargument\x7d*\n\n".toList
    ++ "_argument_ ::= _stat_|_property_|_symbol_\n".toList
    ++ "_stat_ ::= _integer_(yo|cm|kg)\n".toList
    ++ "_property_ ::= \\[+|-]#_hashtag_\n\n".toList
    ++ "ex. `/iam 29yo -#jock #nerd 175cm 🦊` sets your age, height and symbol. ".toList
    ++ "It also replaces one of your tags with another.\n".toList
    ++ "📍 You can also send me your location.".toList

/-- The usage of the command that shows a profile, ready to stand in a bold span. -/
def usage (bot : Text) : Text := "/howis @".toList ++ Markup.escaped bot

def showSection (bot : Text) : Text :=
  "*🔍 SHOWING SOMEONE'S PROFILE\n".toList ++ usage bot ++ ['*']

def searchSection : Text :=
  "*👥 LISTING PROFILES\n/whois \x7bfilter\x7d*\n\n".toList
    ++ "_filter_ ::= _range_|_property_\n".toList
    ++ "_range_ ::= \\[_integer_]\\[,]\\[_integer_](yo|cm|kg|km)\n".toList
    ++ "_property_ ::= \\[+|-]#_hashtag_\n\n".toList
    ++ "ex. `/whois 18,29yo #single ,10km -#sporty` selects profiles within the ".toList
    ++ "specified ranges and (not) having the specified tags.".toList

def guide (bot : Text) : List Text :=
  [grammarSection, editSection, showSection bot, searchSection]

end ChatProfiles.Help
