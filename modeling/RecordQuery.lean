import RecordQuery.Attribute
import RecordQuery.Collection.Basic
import RecordQuery.Collection.Dispatch
import RecordQuery.Collection.Edit
import RecordQuery.Collection.Find
import RecordQuery.Collection.InPlace
import RecordQuery.Collection.ListOperation
import RecordQuery.Collection.Lookup
import RecordQuery.Collection.Members
import RecordQuery.Collection.Operation
import RecordQuery.Collection.PlainList
import RecordQuery.Collection.Sequence
import RecordQuery.Collection.Slice
import RecordQuery.Criteria
import RecordQuery.Failure.Basic
import RecordQuery.Failure.Kind
import RecordQuery.Failure.Report
import RecordQuery.Finders.Basic
import RecordQuery.Finders.Validation
import RecordQuery.Function.Call
import RecordQuery.Function.Construct
import RecordQuery.Function.Item
import RecordQuery.Matcher
import RecordQuery.Name
import RecordQuery.Number.Binary64
import RecordQuery.Number.Decimal
import RecordQuery.Number.Shortest
import RecordQuery.Pattern.Basic
import RecordQuery.Pattern.Match
import RecordQuery.Pattern.Node
import RecordQuery.Pattern.Reader
import RecordQuery.Run
import RecordQuery.Scan
import RecordQuery.Search
import RecordQuery.Text.Blank
import RecordQuery.Text.Case
import RecordQuery.Text.Printable
import RecordQuery.Text.Quoted
import RecordQuery.Text.Ranges
import RecordQuery.Text.Word
import RecordQuery.Trace.Level
import RecordQuery.Validation.MatcherFields
import RecordQuery.Validation.Template
import RecordQuery.Validation.Texts
import RecordQuery.Value.Basic
import RecordQuery.Value.Equality
import RecordQuery.Value.Order
import RecordQuery.Value.Sequence
import RecordQuery.Value.Text
import RecordQuery.Value.Truth
import RecordQuery.Proofs.Printing
import RecordQuery.Proofs.Scanning
import RecordQuery.Proofs.CarriedFinders
import RecordQuery.Proofs.Searching
import RecordQuery.Proofs.Finding
import RecordQuery.Proofs.LookupAgreement
import RecordQuery.Proofs.FinderNames
import RecordQuery.Proofs.FailureKinds
import RecordQuery.Proofs.EscapedPatterns
import RecordQuery.Proofs.NameForms
import RecordQuery.Proofs.BareNames
import RecordQuery.Proofs.Reflection
import RecordQuery.Proofs.NameErrors
import RecordQuery.Proofs.LookupOutcomes
import RecordQuery.Proofs.Brackets
import RecordQuery.Proofs.NameCoherence
import RecordQuery.Proofs.Derivations
import RecordQuery.Proofs.NamedCriteria
import RecordQuery.Proofs.Chaining
import RecordQuery.Proofs.PluralLookup
import RecordQuery.Proofs.JoinedCollections
import RecordQuery.Proofs.RepeatedSelection
import RecordQuery.Proofs.FinderLists
import RecordQuery.Proofs.CaselessSearch
import RecordQuery.Proofs.CriteriaForms
import RecordQuery.Proofs.ConsultedNames
import RecordQuery.Proofs.NameParts
import RecordQuery.Proofs.NamePatterns
import RecordQuery.Proofs.SplitNames
import RecordQuery.Proofs.SlicePositions
import RecordQuery.Proofs.PlainSequences
import RecordQuery.Proofs.PlainLists
import RecordQuery.Proofs.NameGrammar
import RecordQuery.Proofs.JoinedNames
import RecordQuery.Proofs.NameTokens
import RecordQuery.Proofs.OwnValues
import RecordQuery.Proofs.TextTuples
import RecordQuery.Proofs.NamedPairs
import RecordQuery.Proofs.CustomWords
import RecordQuery.Proofs.ValidFinders
import RecordQuery.Proofs.Substitution
import RecordQuery.Proofs.FilledTemplates
import RecordQuery.Proofs.Messages
import RecordQuery.Proofs.LookupTrace
import RecordQuery.Proofs.SlicedCollections
