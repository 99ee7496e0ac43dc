import LabelPress.Binary64.Basic
import LabelPress.Binary64.Decimal
import LabelPress.Catalog.Bundled
import LabelPress.Catalog.Registry
import LabelPress.Catalog.Template
import LabelPress.CommandLine.Argument
import LabelPress.CommandLine.Arguments
import LabelPress.CommandLine.Fields
import LabelPress.CommandLine.Flag
import LabelPress.CommandLine.Run
import LabelPress.CommandLine.Surroundings
import LabelPress.CommandLine.World
import LabelPress.Coordinates
import LabelPress.Document.Basic
import LabelPress.Document.Emission
import LabelPress.Document.Stored
import LabelPress.Element
import LabelPress.Fault
import LabelPress.Files.FileTree
import LabelPress.Files.Path
import LabelPress.Fragment.Basic
import LabelPress.Fragment.FontVariant
import LabelPress.Fragment.Payload
import LabelPress.Json.Reader
import LabelPress.Json.Writer
import LabelPress.Main
import LabelPress.Markup.Export
import LabelPress.Markup.Optimized
import LabelPress.Markup.Placeholders
import LabelPress.Number
import LabelPress.Preview.Loop
import LabelPress.Preview.Service
import LabelPress.Preview.Session
import LabelPress.Profile
import LabelPress.ProofSheet
import LabelPress.Proofs.Binary64.Halves
import LabelPress.Proofs.Binary64.Integral
import LabelPress.Proofs.Binary64.Nearest
import LabelPress.Proofs.Binary64.Numeral
import LabelPress.Proofs.Binary64.Rounding
import LabelPress.Proofs.Catalog.Accepted
import LabelPress.Proofs.Catalog.Flaws
import LabelPress.Proofs.Catalog.Stored
import LabelPress.Proofs.CommandLine.Delivery
import LabelPress.Proofs.CommandLine.Form
import LabelPress.Proofs.CommandLine.Making
import LabelPress.Proofs.CommandLine.Previews
import LabelPress.Proofs.CommandLine.View
import LabelPress.Proofs.Coordinates.Natural
import LabelPress.Proofs.Coordinates.Order
import LabelPress.Proofs.Document.Emission
import LabelPress.Proofs.Document.Geometry
import LabelPress.Proofs.Document.Loading
import LabelPress.Proofs.Document.Locality
import LabelPress.Proofs.Document.Merging
import LabelPress.Proofs.Document.Names
import LabelPress.Proofs.Document.Numbers
import LabelPress.Proofs.Document.Range
import LabelPress.Proofs.Document.Reachable
import LabelPress.Proofs.Document.Reentry
import LabelPress.Proofs.Document.RoundTrip
import LabelPress.Proofs.Document.Runs
import LabelPress.Proofs.Document.Settled
import LabelPress.Proofs.Document.Updates
import LabelPress.Proofs.Files.Written
import LabelPress.Proofs.Fragment.Escaping
import LabelPress.Proofs.Json.RoundTrip
import LabelPress.Proofs.Json.Scalars
import LabelPress.Proofs.Json.Written
import LabelPress.Proofs.Markup.Alternatives
import LabelPress.Proofs.Markup.Blanks
import LabelPress.Proofs.Markup.Filling
import LabelPress.Proofs.Markup.Kept
import LabelPress.Proofs.Markup.Optimized
import LabelPress.Proofs.Markup.Order
import LabelPress.Proofs.Markup.Replacement
import LabelPress.Proofs.Markup.Scan
import LabelPress.Proofs.Markup.Sequential
import LabelPress.Proofs.Markup.TemplateLiteral
import LabelPress.Proofs.Outcome
import LabelPress.Proofs.Preview.Jobs
import LabelPress.Proofs.Preview.Latest
import LabelPress.Proofs.Preview.Requests
import LabelPress.Proofs.Preview.Slot
import LabelPress.Proofs.Preview.Turns
import LabelPress.Proofs.Program.Block
import LabelPress.Proofs.Program.Commands
import LabelPress.Proofs.Program.Printed
import LabelPress.Proofs.Program.Unambiguous
import LabelPress.Proofs.ProofSheet
import LabelPress.Proofs.Recipe.Blanks
import LabelPress.Proofs.Recipe.Drawn
import LabelPress.Proofs.Recipe.Missing
import LabelPress.Proofs.Recipe.Program
import LabelPress.Proofs.Recipe.Separation
import LabelPress.Proofs.Text.Encoding
import LabelPress.Proofs.Text.Numeral
import LabelPress.Proofs.Text.Order
import LabelPress.Proofs.Text.Stripping
import LabelPress.Proofs.Value.Keys
import LabelPress.Proofs.Value.Lookup
import LabelPress.Proofs.Value.Showable
import LabelPress.Recipe
import LabelPress.Text.Basic
import LabelPress.Text.Blank
import LabelPress.Text.CodePoint
import LabelPress.Text.Digit
import LabelPress.Text.Lines
import LabelPress.Text.Printable
import LabelPress.Text.Quoted
import LabelPress.Text.Utf8
import LabelPress.Value.Basic
import LabelPress.Value.Shown
