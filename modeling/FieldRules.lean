import FieldRules.Batch
import FieldRules.Body
import FieldRules.Loader
import FieldRules.Rule.PatternCache
import FieldRules.Session
import FieldRules.Session.Live
import FieldRules.Stock
import FieldRules.Proofs.Ordered
import FieldRules.Proofs.Messages
import FieldRules.Proofs.Occurrences
import FieldRules.Proofs.FieldPhase
import FieldRules.Proofs.Resolution
import FieldRules.Proofs.Batch
import FieldRules.Proofs.PostCheck
import FieldRules.Proofs.Wrapping
import FieldRules.Proofs.Pieces
import FieldRules.Proofs.PatternCache
import FieldRules.Proofs.SpecText
import FieldRules.Proofs.RuleStrings
import FieldRules.Proofs.Replacement
import FieldRules.Proofs.Rendering
import FieldRules.Proofs.DocumentContents
import FieldRules.Proofs.DocumentOrder
import FieldRules.Proofs.Reports
import FieldRules.Proofs.Flattening
import FieldRules.Proofs.Fieldwise
import FieldRules.Proofs.Templates
import FieldRules.Proofs.BuiltinMessages
import FieldRules.SharedRegistry
import FieldRules.Proofs.Registrations
import FieldRules.Proofs.Snapshots
import FieldRules.Proofs.LoggingState
import FieldRules.Proofs.LiveRuns
import FieldRules.Proofs.DocumentBuild
import FieldRules.Proofs.Declarations
import FieldRules.Proofs.CharacterSets
import FieldRules.Proofs.DeclaredPatterns
import FieldRules.Proofs.Searching
import FieldRules.Proofs.Formats
import FieldRules.Proofs.Limits
import FieldRules.Proofs.Rounding
import FieldRules.Proofs.LogLines
import FieldRules.Proofs.ListedValues
import FieldRules.Proofs.RepeatedChecks
import FieldRules.Proofs.JsonReading
import FieldRules.Proofs.ReportEncodings
