import TemplateLint.Main
import TemplateLint.Template.Writer
import TemplateLint.Proofs.ListLemmas
import TemplateLint.Proofs.Listing
import TemplateLint.Proofs.Positions
import TemplateLint.Proofs.Walk
import TemplateLint.Proofs.Inheritance
import TemplateLint.Proofs.Invocations
import TemplateLint.Proofs.Findings
import TemplateLint.Proofs.Independence
import TemplateLint.Proofs.Totals
import TemplateLint.Proofs.NeutralMarkup
import TemplateLint.Proofs.Reading
import TemplateLint.Proofs.RoundTrip
import TemplateLint.Proofs.Levels
import TemplateLint.Proofs.Schema
import TemplateLint.Proofs.NewerInput
import TemplateLint.Proofs.BoundActions
import TemplateLint.Proofs.JsonText
import TemplateLint.Proofs.JsonReport
import TemplateLint.Proofs.PathOrder
import TemplateLint.Proofs.Wildcards
import TemplateLint.Proofs.Paths
import TemplateLint.Proofs.Lookup
import TemplateLint.Proofs.DirectoryArgument
import TemplateLint.Proofs.CompactReport
import TemplateLint.Proofs.Sections
import TemplateLint.Proofs.Spellings
import TemplateLint.Proofs.SourceText
import TemplateLint.Proofs.TextReport
import TemplateLint.Proofs.AddedPair
import TemplateLint.Proofs.MoreArguments
import TemplateLint.Proofs.FileUnion
import TemplateLint.Proofs.SilentRules
import TemplateLint.Proofs.Decoration
import TemplateLint.Proofs.FileNames
import TemplateLint.Proofs.SourcePairing
import TemplateLint.Proofs.SnippetLayout
