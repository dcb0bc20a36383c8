import XmlCollation.Collation
import XmlCollation.Compare.Assignment
import XmlCollation.Compare.Collecting
import XmlCollation.Compare.Comparison
import XmlCollation.Compare.Config
import XmlCollation.Compare.ContentCache
import XmlCollation.Compare.Fingerprint
import XmlCollation.Compare.Matching
import XmlCollation.Compare.Policy
import XmlCollation.Compare.Visits
import XmlCollation.Decimal.Shortest
import XmlCollation.Markup.Chars
import XmlCollation.Markup.Doctype
import XmlCollation.Markup.Document
import XmlCollation.Markup.Encoded
import XmlCollation.Markup.Escape
import XmlCollation.Markup.Namespace
import XmlCollation.Markup.Raw
import XmlCollation.Markup.Reader
import XmlCollation.Markup.Scan
import XmlCollation.Markup.Uri
import XmlCollation.Pattern.CharacterName
import XmlCollation.Pattern.Cursor
import XmlCollation.Pattern.Escape
import XmlCollation.Pattern.Expression
import XmlCollation.Pattern.Fault
import XmlCollation.Pattern.Grammar
import XmlCollation.Pattern.Progress
import XmlCollation.Pattern.Search
import XmlCollation.Proofs.Compare.Attributes
import XmlCollation.Proofs.Compare.Augmenting
import XmlCollation.Proofs.Compare.Balance
import XmlCollation.Proofs.Compare.CaseVariants
import XmlCollation.Proofs.Compare.ChildOrder
import XmlCollation.Proofs.Compare.Choice
import XmlCollation.Proofs.Compare.Coarsening
import XmlCollation.Proofs.Compare.Content
import XmlCollation.Proofs.Compare.ContentKeys
import XmlCollation.Proofs.Compare.Correspondence
import XmlCollation.Proofs.Compare.Decomposition
import XmlCollation.Proofs.Compare.Deletion
import XmlCollation.Proofs.Compare.Descent
import XmlCollation.Proofs.Compare.Equivalence
import XmlCollation.Proofs.Compare.Exact
import XmlCollation.Proofs.Compare.Exactness
import XmlCollation.Proofs.Compare.Exchange
import XmlCollation.Proofs.Compare.Exclusion
import XmlCollation.Proofs.Compare.FirstCome
import XmlCollation.Proofs.Compare.Forbidden
import XmlCollation.Proofs.Compare.Harmless
import XmlCollation.Proofs.Compare.Journal
import XmlCollation.Proofs.Compare.Keys
import XmlCollation.Proofs.Compare.Lawful
import XmlCollation.Proofs.Compare.LeastCost
import XmlCollation.Proofs.Compare.Localization
import XmlCollation.Proofs.Compare.Maximal
import XmlCollation.Proofs.Compare.Mirror
import XmlCollation.Proofs.Compare.Omission
import XmlCollation.Proofs.Compare.Optimum
import XmlCollation.Proofs.Compare.Partners
import XmlCollation.Proofs.Compare.Partnership
import XmlCollation.Proofs.Compare.Placement
import XmlCollation.Proofs.Compare.Preference
import XmlCollation.Proofs.Compare.Ranks
import XmlCollation.Proofs.Compare.Rearrangement
import XmlCollation.Proofs.Compare.Refinement
import XmlCollation.Proofs.Compare.Relaxation
import XmlCollation.Proofs.Compare.Removal
import XmlCollation.Proofs.Compare.Reports
import XmlCollation.Proofs.Compare.Resemblance
import XmlCollation.Proofs.Compare.Roots
import XmlCollation.Proofs.Compare.Serialization
import XmlCollation.Proofs.Compare.Settling
import XmlCollation.Proofs.Compare.Signatures
import XmlCollation.Proofs.Compare.Silence
import XmlCollation.Proofs.Compare.Soundness
import XmlCollation.Proofs.Compare.Spelling
import XmlCollation.Proofs.Compare.StartTags
import XmlCollation.Proofs.Compare.Stateless
import XmlCollation.Proofs.Compare.Steps
import XmlCollation.Proofs.Compare.TextChange
import XmlCollation.Proofs.Compare.Trading
import XmlCollation.Proofs.Compare.Transport
import XmlCollation.Proofs.Compare.Uncached
import XmlCollation.Proofs.Compare.UnlikeSiblings
import XmlCollation.Proofs.Markup.Escaping
import XmlCollation.Proofs.Markup.Names
import XmlCollation.Proofs.Markup.Remarks
import XmlCollation.Proofs.Markup.Resolution
import XmlCollation.Proofs.Rules.Conditions
import XmlCollation.Proofs.Rules.Parallel
import XmlCollation.Proofs.Rules.Paths
import XmlCollation.Proofs.Rules.Records
import XmlCollation.Proofs.Rules.Union
import XmlCollation.Proofs.Sources.Attempts
import XmlCollation.Proofs.Sources.Bodies
import XmlCollation.Proofs.Sources.History
import XmlCollation.Proofs.Text.Decoding
import XmlCollation.Proofs.Text.Encoding
import XmlCollation.Proofs.Text.Fields
import XmlCollation.Proofs.Text.Lowering
import XmlCollation.Proofs.Text.Trimming
import XmlCollation.Proofs.Tree.Alteration
import XmlCollation.Proofs.Tree.Ancestry
import XmlCollation.Proofs.Tree.Building
import XmlCollation.Proofs.Tree.Declaration
import XmlCollation.Proofs.Tree.Numbering
import XmlCollation.Proofs.Tree.Pieces
import XmlCollation.Proofs.Tree.Reading
import XmlCollation.Proofs.Tree.Remarks
import XmlCollation.Proofs.Tree.Seams
import XmlCollation.Proofs.Tree.Structure
import XmlCollation.Proofs.Tree.Trails
import XmlCollation.Rules.Apply
import XmlCollation.Rules.Rule
import XmlCollation.Rules.Selector
import XmlCollation.Rules.Wildcard
import XmlCollation.Sources.Agent
import XmlCollation.Sources.FileSystem
import XmlCollation.Sources.Loader
import XmlCollation.Sources.Registry
import XmlCollation.Sources.Source
import XmlCollation.Text.Blank
import XmlCollation.Text.Case
import XmlCollation.Text.Case.Data
import XmlCollation.Text.CaseFold
import XmlCollation.Text.Charset
import XmlCollation.Text.Charset.Data
import XmlCollation.Text.Fields
import XmlCollation.Text.Identifier
import XmlCollation.Text.Printable
import XmlCollation.Text.Quoted
import XmlCollation.Text.Ranges
import XmlCollation.Text.Value
import XmlCollation.Text.WordClass
import XmlCollation.Tree.Build
import XmlCollation.Tree.Node
import XmlCollation.Tree.Parse
