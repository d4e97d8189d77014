import BindingDocs.CommandLine
import BindingDocs.Condition
import BindingDocs.Documentation.Comment
import BindingDocs.Documentation.Parse
import BindingDocs.Files.Bundle
import BindingDocs.Files.Path
import BindingDocs.Files.Tree
import BindingDocs.Files.Walk
import BindingDocs.Generation
import BindingDocs.Inheritance
import BindingDocs.Log
import BindingDocs.Main
import BindingDocs.Markup.Piece
import BindingDocs.Markup.Tree
import BindingDocs.Matching
import BindingDocs.Output.Artifact
import BindingDocs.Output.Emitter
import BindingDocs.Output.Hints
import BindingDocs.Output.Pages
import BindingDocs.Output.Prose
import BindingDocs.Output.ScriptDoc
import BindingDocs.Output.ScriptTypes
import BindingDocs.Output.Skeleton
import BindingDocs.Reference.Extract
import BindingDocs.Reference.Member
import BindingDocs.Reference.Model
import BindingDocs.Registration.BindingSet
import BindingDocs.Registration.Line
import BindingDocs.Registration.Scanner
import BindingDocs.Registry
import BindingDocs.Settings
import BindingDocs.Source.Category
import BindingDocs.Source.Declaration
import BindingDocs.Source.Expression
import BindingDocs.Source.Item
import BindingDocs.Source.Lexeme
import BindingDocs.Source.Parameter
import BindingDocs.Source.Pattern
import BindingDocs.Source.Statement
import BindingDocs.Source.Trivia
import BindingDocs.Source.TypeName
import BindingDocs.Text.Blank
import BindingDocs.Text.CaseTable
import BindingDocs.Text.Lines
import BindingDocs.Text.LowerCase
import BindingDocs.Text.NameChar
import BindingDocs.Text.Reader
import BindingDocs.Text.Search
import BindingDocs.Toml.Document
import BindingDocs.Toml.Number
import BindingDocs.Toml.Parse
import BindingDocs.Vocabulary.Basic
import BindingDocs.Vocabulary.Tables
import BindingDocs.Proofs.BindingSet
import BindingDocs.Proofs.ScannerRun
import BindingDocs.Proofs.ScannerFreshness
import BindingDocs.Proofs.ScannerMeaning
import BindingDocs.Proofs.ScannerFailure
import BindingDocs.Proofs.ConditionTokens
import BindingDocs.Proofs.ConditionGrammar
import BindingDocs.Proofs.SourceFlattening
import BindingDocs.Proofs.ExtractionFlattening
import BindingDocs.Proofs.ConditionalRegions
import BindingDocs.Proofs.RegistrationRoundTrip
import BindingDocs.Proofs.OutputDeclarations
import BindingDocs.Proofs.BaseOrder
import BindingDocs.Proofs.RegistrationOrder
import BindingDocs.Proofs.OutputSignatures
import BindingDocs.Proofs.OutputComments
import BindingDocs.Proofs.ReferenceGrowth
import BindingDocs.Proofs.ArtifactSurvival
import BindingDocs.Proofs.MethodRetention
import BindingDocs.Proofs.OutputBlocks
import BindingDocs.Proofs.OutputContainers
import BindingDocs.Proofs.ScannerBoundaries
import BindingDocs.Proofs.SharedFunctions
import BindingDocs.Proofs.LeadingComments
import BindingDocs.Proofs.TypeExpressions
import BindingDocs.Proofs.SourceWalk
import BindingDocs.Proofs.QualifiedTypes
import BindingDocs.Proofs.MarkupWriting
import BindingDocs.Proofs.OutputMargins
import BindingDocs.Proofs.CommentWriting
import BindingDocs.Proofs.HintRules
import BindingDocs.Proofs.ProseWords
import BindingDocs.Proofs.StableTypes
import BindingDocs.Proofs.TypeHints
