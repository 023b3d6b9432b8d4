import ElementQuery.Number.Shortest
import ElementQuery.Regex.Basic
import ElementQuery.Query.Source
import ElementQuery.Notation.Basic
import ElementQuery.Plan.Filter
import ElementQuery.Json.Reader
import ElementQuery.Settings.Load
import ElementQuery.Report.Handle
import ElementQuery.Log.Remark
import ElementQuery.CommandLine.Commands
import ElementQuery.Main
import ElementQuery.Proofs.Query.Construction
import ElementQuery.Proofs.Notation.RoundTrip
import ElementQuery.Proofs.Plan.DirectMatching
import ElementQuery.Proofs.Selector.CssPaths
import ElementQuery.Proofs.Selector.XPathChecks
import ElementQuery.Proofs.Notation.Tokens
import ElementQuery.Proofs.Notation.Grammar
import ElementQuery.Proofs.Notation.Reading
import ElementQuery.Proofs.Notation.Complaints
import ElementQuery.Proofs.Selector.Outcomes
import ElementQuery.Proofs.Plan.RegexGates
import ElementQuery.Proofs.Selector.Composition
import ElementQuery.Proofs.Query.Reductions
import ElementQuery.Proofs.Plan.Strategies
import ElementQuery.Proofs.Notation.Juxtaposition
import ElementQuery.Proofs.Notation.Vectors
import ElementQuery.Proofs.Notation.Breakdowns
import ElementQuery.Proofs.Selector.WellFormedness
import ElementQuery.Proofs.Report.Lines
import ElementQuery.Proofs.CommandLine.Preparation
import ElementQuery.Proofs.CommandLine.Agreement
import ElementQuery.Proofs.Selector.CssStrings
import ElementQuery.Proofs.Selector.XPathExpressions
import ElementQuery.Proofs.Log.Configurations
import ElementQuery.Proofs.Settings.Acceptance
import ElementQuery.Proofs.CommandLine.Usability
import ElementQuery.Proofs.Query.Acceptance
import ElementQuery.Proofs.Notation.RegexLiterals
import ElementQuery.Proofs.Query.Positions
import ElementQuery.Proofs.Settings.Offences
import ElementQuery.Proofs.Plan.Reordering
import ElementQuery.Proofs.Plan.SingleLevel
import ElementQuery.Proofs.Report.Cleaning
