import ModuleSurvey.FileTree
import ModuleSurvey.Main
import ModuleSurvey.Proofs.SortedMap
import ModuleSurvey.Proofs.Module.Entries
import ModuleSurvey.Proofs.Module.Amendment
import ModuleSurvey.Proofs.Module.Overrides
import ModuleSurvey.Proofs.Module.Coherence
import ModuleSurvey.Proofs.Module.VoidAttributes
import ModuleSurvey.Proofs.Json.Layout
import ModuleSurvey.Proofs.Json.Lexeme
import ModuleSurvey.Proofs.Json.ReadBack
import ModuleSurvey.Proofs.Json.Record
import ModuleSurvey.Proofs.Json.Canonical
import ModuleSurvey.Proofs.ProviderAliases
import ModuleSurvey.Proofs.Module.JsonRoundTrip
import ModuleSurvey.Proofs.Module.Books
import ModuleSurvey.Proofs.Module.Providers
import ModuleSurvey.Proofs.Report.AliasLines
import ModuleSurvey.Proofs.Module.Targets
import ModuleSurvey.Proofs.Module.Reports
import ModuleSurvey.Proofs.Module.CallSources
import ModuleSurvey.Proofs.Block
import ModuleSurvey.Proofs.Module.MalformedBlocks
import ModuleSurvey.Proofs.Module.BlockForms
import ModuleSurvey.Proofs.Module.BookOrder
import ModuleSurvey.Proofs.Module.Places
import ModuleSurvey.Proofs.Module.Commutation
import ModuleSurvey.Proofs.Module.Repetition
import ModuleSurvey.Proofs.Json.Written
import ModuleSurvey.Proofs.HiddenBlocks
import ModuleSurvey.Proofs.Module.Duplicates
import ModuleSurvey.Proofs.ByteOrder
import ModuleSurvey.Proofs.Loader.FileNames
import ModuleSurvey.Proofs.Loader.Selection
import ModuleSurvey.Proofs.Loader.Directory
import ModuleSurvey.Proofs.Loader.BrokenFiles
import ModuleSurvey.Proofs.Json.Faults
import ModuleSurvey.Proofs.BlockIndex.Lookups
import ModuleSurvey.Proofs.BlockIndex.Headers
import ModuleSurvey.Proofs.BlockIndex.Occurrences
import ModuleSurvey.Proofs.BlockIndex.Members
import ModuleSurvey.Proofs.BlockIndex.Descent
import ModuleSurvey.Proofs.Module.Positions
import ModuleSurvey.Proofs.Loader.Positions
import ModuleSurvey.Proofs.AliasHistory
import ModuleSurvey.Proofs.Module.Growth
import ModuleSurvey.Proofs.BlockIndex.Interference
import ModuleSurvey.Proofs.Json.Yields
import ModuleSurvey.Proofs.Module.JsonNormalForm
import ModuleSurvey.Proofs.Template
import ModuleSurvey.Proofs.Module.Interpolation
import ModuleSurvey.Proofs.Loader.Verdicts
import ModuleSurvey.Proofs.CommandLine.SettingsFile
import ModuleSurvey.Proofs.Module.Redeclaration
import ModuleSurvey.Proofs.Module.Addresses
import ModuleSurvey.Proofs.Module.RequiredProviders
import ModuleSurvey.Proofs.Module.HeldKeys
import ModuleSurvey.Proofs.Module.ProviderSources
import ModuleSurvey.Proofs.Module.OverriddenConstraints
import ModuleSurvey.Proofs.Loader.ModuleDirectory
import ModuleSurvey.Proofs.Json.Spacing
import ModuleSurvey.Proofs.Module.JsonLines
import ModuleSurvey.Proofs.Report.LineBreaks
import ModuleSurvey.Proofs.Json.Refusals
import ModuleSurvey.Proofs.Module.Wording
import ModuleSurvey.Proofs.Loader.ReportLines
import ModuleSurvey.Proofs.ProviderRef
import ModuleSurvey.Proofs.Loader.UnreadableDirectory
import ModuleSurvey.Proofs.Yaml.Record
import ModuleSurvey.Proofs.Settings.Precedence
import ModuleSurvey.Proofs.Yaml.ScalarText
import ModuleSurvey.Proofs.Yaml.Lexer
import ModuleSurvey.Proofs.Yaml.Lines
import ModuleSurvey.Proofs.Yaml.Outline
import ModuleSurvey.Proofs.Yaml.OutlineDocument
import ModuleSurvey.Proofs.Settings.YamlRoundTrip
import ModuleSurvey.Proofs.BlockWalk
import ModuleSurvey.Proofs.Report.Color
import ModuleSurvey.Proofs.BlockIndex.Quotations
import ModuleSurvey.Proofs.BlockIndex.LaterLookups
import ModuleSurvey.Proofs.BlockIndex.ByteSearch
