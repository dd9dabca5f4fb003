import BlockScan.Block.Basic
import BlockScan.Block.Comment
import BlockScan.Block.Next
import BlockScan.Block.Text
import BlockScan.Charset
import BlockScan.Decimal.Binary
import BlockScan.Decimal.Layout
import BlockScan.Decimal.Shortest
import BlockScan.Decimal.Whole
import BlockScan.Json.Basic
import BlockScan.Json.Fault
import BlockScan.Json.Order
import BlockScan.Json.Quotation
import BlockScan.Json.Reader
import BlockScan.Json.Scalar
import BlockScan.Json.Writer
import BlockScan.Position
import BlockScan.Scan.Catalogue
import BlockScan.Scan.Config
import BlockScan.Scan.Input
import BlockScan.Scan.Log
import BlockScan.Scan.Options
import BlockScan.Scan.Profile
import BlockScan.Scan.Stream
import BlockScan.Session.Bench
import BlockScan.Session.Store
import BlockScan.Session.Steps
import BlockScan.Source
import BlockScan.Text.Classes
import BlockScan.Text.Basic
import BlockScan.Text.Utf8
import BlockScan.Token.Basic
import BlockScan.Token.Record
import BlockScan.Proofs.Cursor.Standing
import BlockScan.Proofs.Outline.Basic
import BlockScan.Proofs.Cursor.Windows
import BlockScan.Proofs.Outline.Reading
import BlockScan.Proofs.Outline.Blocks
import BlockScan.Proofs.Scan.Run
import BlockScan.Proofs.Outline.Invariant
import BlockScan.Proofs.Scan.Factoring
import BlockScan.Proofs.Scan.LineFold
import BlockScan.Proofs.Outline.Tiling
import BlockScan.Proofs.Scan.Coverage
import BlockScan.Proofs.Scan.Positions
import BlockScan.Proofs.Scan.Jumps
import BlockScan.Proofs.Scan.Notes
import BlockScan.Proofs.Outline.Extent
import BlockScan.Proofs.Scan.Shape
import BlockScan.Proofs.Outline.Composition
import BlockScan.Proofs.Scan.Composition
import BlockScan.Proofs.Scan.Bytes
import BlockScan.Proofs.Json.Scalars
import BlockScan.Proofs.Json.Strings
import BlockScan.Proofs.Json.Sorted
import BlockScan.Proofs.Json.Regular
import BlockScan.Proofs.Json.Steps
import BlockScan.Proofs.Json.RoundTrip
import BlockScan.Proofs.Json.Comparison
import BlockScan.Proofs.Token.RoundTrip
import BlockScan.Proofs.Token.Canonical
import BlockScan.Proofs.Document.WellFormed
import BlockScan.Proofs.Document.Written
import BlockScan.Proofs.Outline.Prefix
import BlockScan.Proofs.Outline.LineEnds
import BlockScan.Proofs.Outline.Separation
import BlockScan.Proofs.Scan.SinglePass
import BlockScan.Proofs.Scan.LineEnds
import BlockScan.Proofs.Scan.Separation
import BlockScan.Proofs.Session.Actions
import BlockScan.Proofs.Session.Totals
import BlockScan.Proofs.Session.Blocks
import BlockScan.Proofs.Session.Streams
import BlockScan.Proofs.Block.Stepwise
import BlockScan.Proofs.Block.CommentRun
import BlockScan.Proofs.Token.Acceptance
