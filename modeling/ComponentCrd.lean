import ComponentCrd.Command.Arguments
import ComponentCrd.Command.Report
import ComponentCrd.Command.Run
import ComponentCrd.Command.Session
import ComponentCrd.Command.Usage
import ComponentCrd.Domain.Admission
import ComponentCrd.Domain.Direction
import ComponentCrd.Domain.Joining
import ComponentCrd.Domain.Label
import ComponentCrd.Domain.Name
import ComponentCrd.Domain.Punycode
import ComponentCrd.Domain.Spelling
import ComponentCrd.Domain.Spelling.Forms
import ComponentCrd.Domain.Spelling.Supplementary
import ComponentCrd.Domain.Spelling.Symbols
import ComponentCrd.Json.Binary64
import ComponentCrd.Json.Cursor
import ComponentCrd.Json.Decoding
import ComponentCrd.Json.Fault
import ComponentCrd.Json.NumberReader
import ComponentCrd.Json.ShortestDecimal
import ComponentCrd.Json.Skipping
import ComponentCrd.Json.StringReader
import ComponentCrd.Json.Text
import ComponentCrd.Json.Value
import ComponentCrd.Main
import ComponentCrd.Manifest.Definition
import ComponentCrd.Manifest.Scalar
import ComponentCrd.Manifest.Yaml
import ComponentCrd.Naming.Derivation
import ComponentCrd.Naming.Identity
import ComponentCrd.Naming.Rule
import ComponentCrd.Package.Document
import ComponentCrd.Package.Reference
import ComponentCrd.Package.Selection
import ComponentCrd.Proofs.Command.LineStructure
import ComponentCrd.Proofs.Command.RunOutcome
import ComponentCrd.Proofs.Command.Stages
import ComponentCrd.Proofs.Command.WrittenOrder
import ComponentCrd.Proofs.Cuts
import ComponentCrd.Proofs.Json.DecimalTexts
import ComponentCrd.Proofs.Json.EntryUnion
import ComponentCrd.Proofs.Json.FaultWording
import ComponentCrd.Proofs.Json.MemberOrder
import ComponentCrd.Proofs.Json.NumberReading
import ComponentCrd.Proofs.Json.NumberValues
import ComponentCrd.Proofs.Json.ReadTokens
import ComponentCrd.Proofs.Json.ReadTrees
import ComponentCrd.Proofs.Json.ReadValues
import ComponentCrd.Proofs.Json.Reading
import ComponentCrd.Proofs.Json.SkippedTrees
import ComponentCrd.Proofs.Json.StringReading
import ComponentCrd.Proofs.Json.TreeReading
import ComponentCrd.Proofs.Json.Trees
import ComponentCrd.Proofs.Json.WrittenNumbers
import ComponentCrd.Proofs.Json.WrittenTrees
import ComponentCrd.Proofs.Json.WrittenValues
import ComponentCrd.Proofs.Manifest.BlockLayout
import ComponentCrd.Proofs.Manifest.BlockReader
import ComponentCrd.Proofs.Manifest.DefinitionLines
import ComponentCrd.Proofs.Manifest.DefinitionReading
import ComponentCrd.Proofs.Manifest.DocumentReading
import ComponentCrd.Proofs.Manifest.ImplicitTypes
import ComponentCrd.Proofs.Manifest.LineBreaks
import ComponentCrd.Proofs.Manifest.NodeTexts
import ComponentCrd.Proofs.Manifest.NumberScalars
import ComponentCrd.Proofs.Manifest.PlainScalars
import ComponentCrd.Proofs.Manifest.QuotedBodies
import ComponentCrd.Proofs.Manifest.QuotedScalars
import ComponentCrd.Proofs.Manifest.ScalarReader
import ComponentCrd.Proofs.Manifest.StringScalars
import ComponentCrd.Proofs.Naming.DashedNames
import ComponentCrd.Proofs.Naming.DerivedIdentities
import ComponentCrd.Proofs.Naming.GroupKeys
import ComponentCrd.Proofs.Naming.KindNames
import ComponentCrd.Proofs.Naming.ObjectNames
import ComponentCrd.Proofs.Outcomes
import ComponentCrd.Proofs.Schema.Accounting
import ComponentCrd.Proofs.Schema.Agreement
import ComponentCrd.Proofs.Schema.Annotating
import ComponentCrd.Proofs.Schema.AnnotationChains
import ComponentCrd.Proofs.Schema.Attempts
import ComponentCrd.Proofs.Schema.CyclicReferences
import ComponentCrd.Proofs.Schema.Descent
import ComponentCrd.Proofs.Schema.DocumentExtension
import ComponentCrd.Proofs.Schema.DocumentPreflight
import ComponentCrd.Proofs.Schema.ErrorWording
import ComponentCrd.Proofs.Schema.FreeformMarks
import ComponentCrd.Proofs.Schema.Inheritance
import ComponentCrd.Proofs.Schema.IssueOrder
import ComponentCrd.Proofs.Schema.LostProperties
import ComponentCrd.Proofs.Schema.PreflightClosure
import ComponentCrd.Proofs.Schema.PreflightExactness
import ComponentCrd.Proofs.Schema.PreflightMemory
import ComponentCrd.Proofs.Schema.PreflightParts
import ComponentCrd.Proofs.Schema.PreflightSafety
import ComponentCrd.Proofs.Schema.PreflightSteps
import ComponentCrd.Proofs.Schema.PreflightWalk
import ComponentCrd.Proofs.Schema.Provenance
import ComponentCrd.Proofs.Schema.ReferenceExpansion
import ComponentCrd.Proofs.Schema.RegularSchemas
import ComponentCrd.Proofs.Schema.Reloading
import ComponentCrd.Proofs.Schema.ResolutionStack
import ComponentCrd.Proofs.Schema.Retranslation
import ComponentCrd.Proofs.Schema.SchemaSources
import ComponentCrd.Proofs.Schema.SiblingProperties
import ComponentCrd.Proofs.Schema.TargetGrammar
import ComponentCrd.Proofs.Schema.TranslatedGrammar
import ComponentCrd.Proofs.Schema.TranslationEnds
import ComponentCrd.Proofs.Schema.TranslationParts
import ComponentCrd.Proofs.Schema.Translator
import ComponentCrd.Proofs.Schema.Wording
import ComponentCrd.Proofs.SortedDistinct
import ComponentCrd.Proofs.Source.FileWriting
import ComponentCrd.Proofs.Source.HiddenParts
import ComponentCrd.Proofs.Source.LoadWording
import ComponentCrd.Proofs.Text.Unbroken
import ComponentCrd.Schema.Annotation
import ComponentCrd.Schema.Attempt
import ComponentCrd.Schema.Failure
import ComponentCrd.Schema.Path
import ComponentCrd.Schema.Preflight
import ComponentCrd.Schema.Skip
import ComponentCrd.Schema.Structural
import ComponentCrd.Schema.Translation
import ComponentCrd.SortedDistinct
import ComponentCrd.Source.Address
import ComponentCrd.Source.FileTree
import ComponentCrd.Source.Host
import ComponentCrd.Source.Loading
import ComponentCrd.Source.Location
import ComponentCrd.Source.Url
import ComponentCrd.Text.Basic
import ComponentCrd.Text.CombiningClass
import ComponentCrd.Text.Composites
import ComponentCrd.Text.Composition
import ComponentCrd.Text.LetterCase
import ComponentCrd.Text.Mark
import ComponentCrd.Text.Quoted
