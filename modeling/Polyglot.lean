import Polyglot.Analysis
import Polyglot.Catalog.Bundled
import Polyglot.Catalog.Download
import Polyglot.CommandLine
import Polyglot.Main
import Polyglot.Rules.Resolver
import Polyglot.Samples.Directory
import Polyglot.Samples.Repository
import Polyglot.Yaml.Reader
import Polyglot.Proofs.Places
import Polyglot.Proofs.Scope
import Polyglot.Proofs.Moves
import Polyglot.Proofs.Tree
import Polyglot.Proofs.Visits
import Polyglot.Proofs.Listings
import Polyglot.Proofs.Links
import Polyglot.Proofs.LinkedFolders
import Polyglot.Proofs.Loading
import Polyglot.Proofs.LoadOrders
import Polyglot.Proofs.Resolving
import Polyglot.Proofs.Selection
import Polyglot.Proofs.Verdicts
import Polyglot.Proofs.Ledgers
import Polyglot.Proofs.Totals
import Polyglot.Proofs.Runs
import Polyglot.Proofs.FolderRuns
import Polyglot.Proofs.DeadLinkRuns
import Polyglot.Proofs.TreeRuns
import Polyglot.Proofs.Inputs
import Polyglot.Proofs.NamedFiles
import Polyglot.Proofs.Locality
import Polyglot.Proofs.Accounts
import Polyglot.Proofs.Overlaps
import Polyglot.Proofs.Grouping
import Polyglot.Proofs.Labels
import Polyglot.Proofs.TableLabels
import Polyglot.Proofs.Keeping
import Polyglot.Proofs.Additions
import Polyglot.Proofs.AddedRules
import Polyglot.Proofs.ResolversInStep
import Polyglot.Proofs.CategoryBlind
import Polyglot.Proofs.Categories
import Polyglot.Proofs.Requests
import Polyglot.Proofs.Signals
import Polyglot.Proofs.Precedence
import Polyglot.Proofs.Refusals
import Polyglot.Proofs.Flattening
import Polyglot.Proofs.Misfits
import Polyglot.Proofs.Leftovers
import Polyglot.Proofs.Fetches
import Polyglot.Proofs.FirstSamples
import Polyglot.Proofs.SampleRuns
import Polyglot.Proofs.BrokenSources
import Polyglot.Proofs.Stages
import Polyglot.Proofs.Schedules
import Polyglot.Proofs.Lookups
import Polyglot.Proofs.RuleTables
import Polyglot.Proofs.OptionReadings
import Polyglot.Proofs.QuickRuns
import Polyglot.Proofs.Lessons
import Polyglot.Proofs.Predictions
import Polyglot.Proofs.Reorderings
import Polyglot.Proofs.Logarithms
import Polyglot.Proofs.Comparisons
import Polyglot.Proofs.Tokens
import Polyglot.Proofs.PatternMarks
import Polyglot.Proofs.Conversions
import Polyglot.Proofs.CapturingGroups
import Polyglot.Proofs.SharedSyntax
import Polyglot.Proofs.LoadedRows
import Polyglot.Proofs.ForcedText
import Polyglot.Proofs.Filtering
import Polyglot.Proofs.QuotedPatterns
import Polyglot.Proofs.Overrides
import Polyglot.Proofs.AmendedFiles
import Polyglot.Proofs.Encodings
import Polyglot.Proofs.PatternReports
import Polyglot.Proofs.BrokenPatterns
import Polyglot.Proofs.Interpreters
import Polyglot.Proofs.ScriptCalls
import Polyglot.Proofs.WalkRecords
import Polyglot.Proofs.Reports
import Polyglot.Proofs.KeyPaths
import Polyglot.Proofs.TrackedWork
