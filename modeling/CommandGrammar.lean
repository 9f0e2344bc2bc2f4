import CommandGrammar.Main
import CommandGrammar.Registry
import CommandGrammar.Unicode.CaseFolding
import CommandGrammar.Unicode.CharSet
import CommandGrammar.Unicode.RunTable
import CommandGrammar.Proofs.TokenSequence
import CommandGrammar.Proofs.CursorWalks
import CommandGrammar.Proofs.RunReservation
import CommandGrammar.Proofs.ResultConformance
import CommandGrammar.Proofs.PlainTexts
import CommandGrammar.Proofs.SegmentBoundaries
import CommandGrammar.Proofs.Sentences
import CommandGrammar.Proofs.FaultPlace
import CommandGrammar.Proofs.LeftoverTokens
import CommandGrammar.Proofs.ConsumedInput
import CommandGrammar.Proofs.ConsumedNames
import CommandGrammar.Proofs.SlotVisits
import CommandGrammar.Proofs.CapturedTokens
import CommandGrammar.Proofs.ValueOrigins
import CommandGrammar.Proofs.MatchingDependence
import CommandGrammar.Proofs.ExcludedUnits
import CommandGrammar.Proofs.RegistrySearch
import CommandGrammar.Proofs.RegistryHistory
import CommandGrammar.Proofs.OptionOrder
import CommandGrammar.Proofs.CommandTables
import CommandGrammar.Proofs.TreeReading
import CommandGrammar.Proofs.RecordReading
import CommandGrammar.Proofs.CommandOutlines
import CommandGrammar.Proofs.OutlineReading
import CommandGrammar.Proofs.OutlineDocuments
import CommandGrammar.Proofs.CommandRoutes
import CommandGrammar.Proofs.CursorStates
import CommandGrammar.Proofs.IndexedTokens
import CommandGrammar.Proofs.UntouchedSlots
import CommandGrammar.Proofs.PieceReadings
import CommandGrammar.Proofs.RepeatedReading
import CommandGrammar.Proofs.DeliveredTokens
import CommandGrammar.Proofs.PatternAgreement
import CommandGrammar.Proofs.RoundTrips
import CommandGrammar.Proofs.SlotDiscipline
import CommandGrammar.Proofs.BytePlaces
import CommandGrammar.Proofs.CursorBounds
import CommandGrammar.Proofs.FailureSpans
import CommandGrammar.Proofs.PlacedPieces
import CommandGrammar.Proofs.RegexRuns
import CommandGrammar.Proofs.SearchTrail
import CommandGrammar.Proofs.QuotedExpressions
import CommandGrammar.Proofs.HeaderLanguage
import CommandGrammar.Proofs.NegationSymmetry
import CommandGrammar.Proofs.QuotedTexts
import CommandGrammar.Proofs.ValuePaths
import CommandGrammar.Proofs.EntryNames
import CommandGrammar.Proofs.SortedTrees
import CommandGrammar.Proofs.TreeRoundTrips
import CommandGrammar.Proofs.NumeralReading
import CommandGrammar.Proofs.IntegerCaptures
import CommandGrammar.Proofs.PrintedTrees
import CommandGrammar.Proofs.ParseReports
