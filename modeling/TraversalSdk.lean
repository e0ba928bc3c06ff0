import TraversalSdk.Text.Letter
import TraversalSdk.Text.Quoted
import TraversalSdk.Text.Blank
import TraversalSdk.Text.Lines
import TraversalSdk.Naming.Identifier
import TraversalSdk.Json.Reader
import TraversalSdk.Json.Writer
import TraversalSdk.Json.Shown
import TraversalSdk.Checked
import TraversalSdk.Titles
import TraversalSdk.Vocabulary
import TraversalSdk.Rule.Decode
import TraversalSdk.Rule.Encode
import TraversalSdk.Relation
import TraversalSdk.NodeType.Catalogue
import TraversalSdk.Grammar.Decode
import TraversalSdk.Grammar.Encode
import TraversalSdk.Navigation
import TraversalSdk.Analysis.Shape
import TraversalSdk.Analysis.Nullable
import TraversalSdk.Analysis.Containment
import TraversalSdk.Analysis.Cycles
import TraversalSdk.Analysis.Components
import TraversalSdk.Analysis.Depth
import TraversalSdk.Naming.Anonymous
import TraversalSdk.Naming.Registry
import TraversalSdk.Naming.Namespace
import TraversalSdk.Source.Module
import TraversalSdk.Sdk.Blueprint
import TraversalSdk.Sdk.TreeTypes
import TraversalSdk.Sdk.Expectation
import TraversalSdk.Sdk.NodeSearch
import TraversalSdk.Sdk.CursorBase
import TraversalSdk.Sdk.NavigatorBase
import TraversalSdk.Sdk.Generate
import TraversalSdk.Storage.Load
import TraversalSdk.Storage.Write
import TraversalSdk.Main
import TraversalSdk.Proofs.NavigationSound
import TraversalSdk.Proofs.Sanitized
import TraversalSdk.Proofs.FreeNames
import TraversalSdk.Proofs.RegistryNames
import TraversalSdk.Proofs.UsableNames
import TraversalSdk.Proofs.LiteralReading
import TraversalSdk.Proofs.SourceLines
import TraversalSdk.Proofs.TableReading
import TraversalSdk.Proofs.CursorReading
import TraversalSdk.Proofs.EmittedTables
import TraversalSdk.Proofs.GeneratedPlan
import TraversalSdk.Proofs.EmittedGraph
import TraversalSdk.Proofs.Reachability
import TraversalSdk.Proofs.ExpandedTypes
import TraversalSdk.Proofs.DeclaredTypes
import TraversalSdk.Proofs.SortedLists
import TraversalSdk.Proofs.PlannedTypes
import TraversalSdk.Proofs.PlannedFiles
import TraversalSdk.Proofs.StoredFiles
import TraversalSdk.Proofs.StoredDocuments
import TraversalSdk.Proofs.MatchedLists
import TraversalSdk.Proofs.ReorderedTypes
import TraversalSdk.Proofs.ReorderedPlan
import TraversalSdk.Proofs.CheckedShapes
import TraversalSdk.Proofs.ReorderedJson
import TraversalSdk.Proofs.ReorderedDocuments
import TraversalSdk.Proofs.NamesReading
import TraversalSdk.Proofs.LegibleStatements
import TraversalSdk.Proofs.WordedPlans
import TraversalSdk.Proofs.LegibleModules
import TraversalSdk.Proofs.ImportedModules
import TraversalSdk.Proofs.EmittedNames
import TraversalSdk.Proofs.FoundModules
import TraversalSdk.Proofs.ImportClosure
import TraversalSdk.Proofs.CheckedFaults
import TraversalSdk.Proofs.RulePositions
import TraversalSdk.Proofs.RuleReading
import TraversalSdk.Proofs.RuleLocations
import TraversalSdk.Proofs.WrittenPaths
import TraversalSdk.Proofs.StoredTrees
import TraversalSdk.Proofs.WrittenSdk
import TraversalSdk.Proofs.RoundedDecimals
import TraversalSdk.Proofs.NumberReading
import TraversalSdk.Proofs.TokenReading
import TraversalSdk.Proofs.JsonReading
import TraversalSdk.Proofs.InputForms
import TraversalSdk.Proofs.DumpedDocuments
import TraversalSdk.Proofs.SearchStack
import TraversalSdk.Proofs.ComponentSearch
import TraversalSdk.Proofs.ExactComponents
import TraversalSdk.Proofs.EmptyTexts
import TraversalSdk.Proofs.NavigationLaws
import TraversalSdk.Proofs.ContainmentTables
import TraversalSdk.Proofs.CyclePaths
import TraversalSdk.Proofs.CycleSearch
import TraversalSdk.Proofs.CondensedHeights
import TraversalSdk.Proofs.ContainmentDepth
import TraversalSdk.Proofs.DanglingTypes
import TraversalSdk.Proofs.AccessorNames
import TraversalSdk.Proofs.GuardReading
import TraversalSdk.Proofs.EmittedGuards
import TraversalSdk.Proofs.HeaderReading
import TraversalSdk.Proofs.KeptLetters
import TraversalSdk.Proofs.JoinedNamespaces
import TraversalSdk.Proofs.RereadGrammars
import TraversalSdk.Proofs.StringLiterals
import TraversalSdk.Proofs.RuleWalks
import TraversalSdk.Proofs.DescriptionReading
import TraversalSdk.Proofs.AnnotatedRules
import TraversalSdk.Proofs.LowerCase
import TraversalSdk.Proofs.LooseSpellings
import TraversalSdk.Proofs.WriterRuns
