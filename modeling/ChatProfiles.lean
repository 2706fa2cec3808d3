import ChatProfiles.Main
import ChatProfiles.Format.Directive
import ChatProfiles.Proofs.Bot.Run
import ChatProfiles.Proofs.Edit
import ChatProfiles.Proofs.Registry
import ChatProfiles.Proofs.Bot.History
import ChatProfiles.Proofs.Directive.Shape
import ChatProfiles.Proofs.Directive.Grammar
import ChatProfiles.Proofs.Filter
import ChatProfiles.Proofs.Decimal.Whole
import ChatProfiles.Proofs.Directive.RoundTrip
import ChatProfiles.Proofs.Bot.Isolation
import ChatProfiles.Proofs.Bot.Validity
import ChatProfiles.Proofs.Console.Session
import ChatProfiles.Proofs.Text.Utf8
import ChatProfiles.Proofs.Console.Run
import ChatProfiles.Proofs.Text.Lowercase
import ChatProfiles.Proofs.Console.Line
import ChatProfiles.Proofs.Console.Members
import ChatProfiles.Proofs.Console.Naming
import ChatProfiles.Proofs.Console.Finding
import ChatProfiles.Proofs.Bot.Markup
import ChatProfiles.Proofs.Bot.Card
import ChatProfiles.Proofs.Bot.Bold
import ChatProfiles.Proofs.Format.Record
import ChatProfiles.Proofs.Format.Profile
import ChatProfiles.Proofs.Format.Directive
import ChatProfiles.Proofs.Format.Update
import ChatProfiles.Proofs.Format.Acceptance
import ChatProfiles.Proofs.Registry.Calls
import ChatProfiles.Proofs.Console.Location
import ChatProfiles.Proofs.Console.Registration
import ChatProfiles.Proofs.Console.Cleaning
import ChatProfiles.Proofs.Edit.NetEffect
import ChatProfiles.Proofs.Edit.Agreement
import ChatProfiles.Proofs.Bot.Replies
import ChatProfiles.Proofs.Edit.Repetition
import ChatProfiles.Proofs.Profile.Description
import ChatProfiles.Proofs.Console.Delivery
import ChatProfiles.Proofs.Range.Steps
import ChatProfiles.Proofs.Profile.TagIdentity
import ChatProfiles.Proofs.Directive.Rules
import ChatProfiles.Proofs.Bot.Command
import ChatProfiles.Proofs.Bot.Silence
import ChatProfiles.Proofs.Text.Lines
import ChatProfiles.Proofs.Decimal.Characters
import ChatProfiles.Proofs.Console.Printing
import ChatProfiles.Proofs.Decimal.Reading
import ChatProfiles.Proofs.Settings.Variables
