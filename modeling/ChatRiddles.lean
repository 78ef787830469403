import ChatRiddles.Text.CodePoints
import ChatRiddles.Text.Letters
import ChatRiddles.Text.Printable
import ChatRiddles.Text.Identifier
import ChatRiddles.Text.Case
import ChatRiddles.Text.Blank
import ChatRiddles.Text.Hexadecimal
import ChatRiddles.Text.Quoted
import ChatRiddles.Text.CodePoint
import ChatRiddles.Number.Integer
import ChatRiddles.Number.Binary64
import ChatRiddles.Number.Decimal
import ChatRiddles.Text.Utf8
import ChatRiddles.Text.Percent
import ChatRiddles.Text.Upper
import ChatRiddles.Text.Wrapped
import ChatRiddles.Json.Value
import ChatRiddles.Json.DocumentText
import ChatRiddles.Text.Encoding
import ChatRiddles.Json.MessageText
import ChatRiddles.Json.Written
import ChatRiddles.Pattern.Syntax
import ChatRiddles.Pattern.Fault
import ChatRiddles.Pattern.Token
import ChatRiddles.Text.Names.Run
import ChatRiddles.Text.Names.Abugidas
import ChatRiddles.Text.Names.Aliases
import ChatRiddles.Text.Names.Alphabets
import ChatRiddles.Text.Names.Ancient
import ChatRiddles.Text.Names.Compatibility
import ChatRiddles.Text.Names.EastAsia
import ChatRiddles.Text.Names.Hieroglyphs
import ChatRiddles.Text.Names.Historic
import ChatRiddles.Text.Names.Mathematics
import ChatRiddles.Text.Names.Phonetic
import ChatRiddles.Text.Names.Pictographs
import ChatRiddles.Text.Names.Syllabics
import ChatRiddles.Text.Names.Symbols
import ChatRiddles.Text.Names
import ChatRiddles.Pattern.Escape
import ChatRiddles.Pattern.Reader
import ChatRiddles.Pattern.Unit
import ChatRiddles.Pattern.Match
import ChatRiddles.Pattern.Basic
import ChatRiddles.Shape.Fault
import ChatRiddles.Shape.Check
import ChatRiddles.Shape.Written
import ChatRiddles.Riddle.Document
import ChatRiddles.Riddle.WrittenDocument
import ChatRiddles.Riddle.Definition
import ChatRiddles.Riddle.Walk
import ChatRiddles.Riddle.Delivery
import ChatRiddles.Chat.ChatMap
import ChatRiddles.Chat.LockTable
import ChatRiddles.Notice
import ChatRiddles.Riddle.Catalogue
import ChatRiddles.Play.Session
import ChatRiddles.Bot.Command
import ChatRiddles.Bot.Update
import ChatRiddles.Bot.State
import ChatRiddles.Bot.Plan
import ChatRiddles.Bot.Handling
import ChatRiddles.Bot.Concurrent
import ChatRiddles.Settings
import ChatRiddles.Service.Api
import ChatRiddles.Service.Poller
import ChatRiddles.Service.Target
import ChatRiddles.Service.Web
import ChatRiddles.Launch.Arguments
import ChatRiddles.Launch.Help
import ChatRiddles.Launch.Basic
import ChatRiddles.Main
import ChatRiddles.Proofs.Locality
import ChatRiddles.Proofs.Locks
import ChatRiddles.Proofs.Serializability
import ChatRiddles.Proofs.References
import ChatRiddles.Proofs.FailedDeliveries
import ChatRiddles.Proofs.Removal
import ChatRiddles.Proofs.Sessions
import ChatRiddles.Proofs.AdminState
import ChatRiddles.Proofs.Awaiting
import ChatRiddles.Proofs.Polling
import ChatRiddles.Proofs.Automaton
import ChatRiddles.Proofs.Checks
import ChatRiddles.Proofs.WrittenDocuments
import ChatRiddles.Proofs.WrittenIntegers
import ChatRiddles.Proofs.WellFormed
import ChatRiddles.Proofs.EscapeOutcomes
import ChatRiddles.Proofs.Breakdowns
import ChatRiddles.Proofs.FailurePlaces
import ChatRiddles.Proofs.Failures
import ChatRiddles.Proofs.EncodedTexts
import ChatRiddles.Proofs.JsonTexts
import ChatRiddles.Proofs.JsonScalars
import ChatRiddles.Proofs.JsonReading
import ChatRiddles.Proofs.RoundTrip
import ChatRiddles.Proofs.MessageTexts
import ChatRiddles.Proofs.MessageScalars
import ChatRiddles.Proofs.MessageReading
import ChatRiddles.Proofs.Pushing
import ChatRiddles.Proofs.Containment
import ChatRiddles.Proofs.Interruption
import ChatRiddles.Proofs.Secrecy
import ChatRiddles.Proofs.Playable
import ChatRiddles.Proofs.Registrations
import ChatRiddles.Proofs.EncodedTargets
import ChatRiddles.Proofs.ShortIntegers
import ChatRiddles.Proofs.Browsing
import ChatRiddles.Proofs.JsonNames
import ChatRiddles.Proofs.JsonGrammar
import ChatRiddles.Proofs.InputForms
import ChatRiddles.Proofs.LockObjects
import ChatRiddles.Proofs.Exclusion
import ChatRiddles.Proofs.FailedTurns
import ChatRiddles.Proofs.Renaming
import ChatRiddles.Proofs.NewRiddles
import ChatRiddles.Proofs.ServiceCalls
import ChatRiddles.Proofs.Commands
import ChatRiddles.Proofs.Transitions
import ChatRiddles.Proofs.FirstFaults
import ChatRiddles.Proofs.LiteralPatterns
import ChatRiddles.Proofs.EnteredIntegers
import ChatRiddles.Proofs.Administrators
import ChatRiddles.Proofs.FurtherFields
import ChatRiddles.Proofs.LockSlots
import ChatRiddles.Proofs.LockHistory
import ChatRiddles.Proofs.ClosedWalks
