import InfraLint.Audit.Audit
import InfraLint.Audit.Finding
import InfraLint.Audit.Naming
import InfraLint.Audit.Report
import InfraLint.Audit.Tagging
import InfraLint.Command.Arguments
import InfraLint.Command.Run
import InfraLint.Json.Cursor
import InfraLint.Json.Error
import InfraLint.Json.Members
import InfraLint.Json.Print
import InfraLint.Json.Read
import InfraLint.Json.Skip
import InfraLint.Json.Typed
import InfraLint.Json.Value
import InfraLint.Main
import InfraLint.Numeric.Binary64
import InfraLint.Numeric.Numeral
import InfraLint.Numeric.Shortest
import InfraLint.Numeric.Width
import InfraLint.Pattern.Basic
import InfraLint.Pattern.CharClass
import InfraLint.Pattern.Property
import InfraLint.Pattern.Read
import InfraLint.Pattern.Search
import InfraLint.Policy.Document
import InfraLint.Policy.Object
import InfraLint.Policy.Policy
import InfraLint.Policy.RuleSet
import InfraLint.Proofs.Audit.CompliantTags
import InfraLint.Proofs.Audit.Discovered
import InfraLint.Proofs.Audit.FileLists
import InfraLint.Proofs.Audit.LiteralTags
import InfraLint.Proofs.Audit.NameValues
import InfraLint.Proofs.Audit.NamingFindings
import InfraLint.Proofs.Audit.ReferredTags
import InfraLint.Proofs.Audit.Reports
import InfraLint.Proofs.Audit.SeparateResources
import InfraLint.Proofs.Audit.StandardNames
import InfraLint.Proofs.Audit.TagFindings
import InfraLint.Proofs.Audit.VariableDefault
import InfraLint.Proofs.Audit.WrittenTags
import InfraLint.Proofs.Audit.WrongProject
import InfraLint.Proofs.Command.Hindered
import InfraLint.Proofs.Command.JsonFlag
import InfraLint.Proofs.Command.JsonOutput
import InfraLint.Proofs.Command.RulesOutput
import InfraLint.Proofs.Command.Verdict
import InfraLint.Proofs.Json.Answers
import InfraLint.Proofs.Json.Grammar
import InfraLint.Proofs.Json.Kinds
import InfraLint.Proofs.Json.Meaning
import InfraLint.Proofs.Json.MemberFolds
import InfraLint.Proofs.Json.Members
import InfraLint.Proofs.Json.Numbers
import InfraLint.Proofs.Json.Objects
import InfraLint.Proofs.Json.Ordered
import InfraLint.Proofs.Json.Printed
import InfraLint.Proofs.Json.Reading
import InfraLint.Proofs.Json.Skipped
import InfraLint.Proofs.Json.Strings
import InfraLint.Proofs.Numeric.Decimal
import InfraLint.Proofs.Numeric.Rounding
import InfraLint.Proofs.Pattern.Places
import InfraLint.Proofs.Pattern.Search
import InfraLint.Proofs.Pattern.Takes
import InfraLint.Proofs.Pattern.Whole
import InfraLint.Proofs.Policy.Overrides
import InfraLint.Proofs.Policy.Standard
import InfraLint.Proofs.Policy.Tightening
import InfraLint.Proofs.Policy.WrittenRules
import InfraLint.Proofs.Resource.AttributeRuns
import InfraLint.Proofs.Resource.Evaluations
import InfraLint.Proofs.Resource.Interpolation
import InfraLint.Proofs.Resource.NonNumerals
import InfraLint.Proofs.Resource.PlanFields
import InfraLint.Proofs.Resource.PlanTrees
import InfraLint.Proofs.Resource.Rearranged
import InfraLint.Proofs.Resource.Registrations
import InfraLint.Proofs.Resource.Thresholds
import InfraLint.Proofs.Resource.Wrapping
import InfraLint.Proofs.Settings
import InfraLint.Proofs.Source.AssignmentScan
import InfraLint.Proofs.Source.BlockPattern
import InfraLint.Proofs.Source.BlockScan
import InfraLint.Proofs.Source.Braces
import InfraLint.Proofs.Source.DeclarationScan
import InfraLint.Proofs.Source.ExtractedHeaders
import InfraLint.Proofs.Source.Header
import InfraLint.Proofs.Source.LiteralMap
import InfraLint.Proofs.Source.ProjectKey
import InfraLint.Proofs.Source.ProjectPlaces
import InfraLint.Proofs.Source.ReferredTags
import InfraLint.Proofs.Source.SearchPatterns
import InfraLint.Proofs.Source.Sequence
import InfraLint.Proofs.Source.TagBlock
import InfraLint.Proofs.Source.TagPlaces
import InfraLint.Proofs.Source.TagsVariable
import InfraLint.Proofs.Source.WrittenProject
import InfraLint.Proofs.Source.WrittenTags
import InfraLint.Proofs.Text.Blank
import InfraLint.Proofs.Text.LeftToRight
import InfraLint.Proofs.Text.Native
import InfraLint.Proofs.Text.Places
import InfraLint.Proofs.Text.Standing
import InfraLint.Proofs.Text.Until
import InfraLint.Proofs.Tree.Discovery
import InfraLint.Proofs.Tree.Listing
import InfraLint.Proofs.Tree.Order
import InfraLint.Proofs.Tree.Path
import InfraLint.Proofs.Tree.Places
import InfraLint.Proofs.Tree.Walk
import InfraLint.Proofs.Yaml.Decode
import InfraLint.Proofs.Yaml.Gap
import InfraLint.Proofs.Yaml.Literal
import InfraLint.Proofs.Yaml.Nodes
import InfraLint.Proofs.Yaml.Number
import InfraLint.Proofs.Yaml.Plain
import InfraLint.Proofs.Yaml.Printable
import InfraLint.Proofs.Yaml.Quoted
import InfraLint.Proofs.Yaml.Record
import InfraLint.Proofs.Yaml.Scan
import InfraLint.Proofs.Yaml.ScanText
import InfraLint.Proofs.Yaml.Shape
import InfraLint.Proofs.Yaml.Written
import InfraLint.Resource.Attributes
import InfraLint.Resource.Catalogue
import InfraLint.Resource.Check
import InfraLint.Resource.Plan
import InfraLint.Resource.Quantity
import InfraLint.Settings
import InfraLint.Source.Assignment
import InfraLint.Source.Block
import InfraLint.Source.Declaration
import InfraLint.Source.Language
import InfraLint.Source.ProjectTag
import InfraLint.Source.TagMap
import InfraLint.Text.Blank
import InfraLint.Text.Case
import InfraLint.Text.Category
import InfraLint.Text.Digit
import InfraLint.Text.Invisible
import InfraLint.Text.Letter
import InfraLint.Text.Native
import InfraLint.Text.Property
import InfraLint.Text.Quoted
import InfraLint.Text.Range
import InfraLint.Text.Script
import InfraLint.Text.Search
import InfraLint.Text.Word
import InfraLint.Tree.Discovery
import InfraLint.Tree.Entry
import InfraLint.Tree.Path
import InfraLint.Yaml.BlockText
import InfraLint.Yaml.Cursor
import InfraLint.Yaml.Flow
import InfraLint.Yaml.Meaning
import InfraLint.Yaml.Node
import InfraLint.Yaml.Token
import InfraLint.Yaml.Typed
import InfraLint.Yaml.Value
import InfraLint.Yaml.Writer
