import Handbook.Binary32.Arithmetic
import Handbook.Binary32.Basic
import Handbook.Binary32.Bits
import Handbook.Binary32.Decimal
import Handbook.Binary32.Whole
import Handbook.Book.Basic
import Handbook.Book.Bookmarks
import Handbook.Book.Input
import Handbook.Book.Render
import Handbook.Book.Shelf
import Handbook.Book.Slider
import Handbook.Book.Viewport
import Handbook.Draw.Buffer
import Handbook.Draw.DrawList
import Handbook.Draw.Json
import Handbook.Draw.Layer
import Handbook.Draw.Quad
import Handbook.Draw.Scene
import Handbook.Fault
import Handbook.Files.Basic
import Handbook.Files.Tree
import Handbook.Json.Printer
import Handbook.Json.Reader
import Handbook.Json.Value
import Handbook.Main
import Handbook.Markup.Paragraph
import Handbook.Markup.Reading
import Handbook.Page.Basic
import Handbook.Page.Collection
import Handbook.Page.Document
import Handbook.Page.Dye
import Handbook.Panel.Basic
import Handbook.Panel.Chrome
import Handbook.Panel.Lines
import Handbook.Panel.Tooltip
import Handbook.Px
import Handbook.Rect
import Handbook.Settings.Basic
import Handbook.Settings.Json
import Handbook.Sheet.Artwork
import Handbook.Sheet.NineSlice
import Handbook.Sheet.Sprite
import Handbook.Snapshot.Basic
import Handbook.Snapshot.Failure
import Handbook.Snapshot.Options
import Handbook.Text.Blank
import Handbook.Text.Flow
import Handbook.Text.Font
import Handbook.Text.Printable
import Handbook.Text.Quoted
import Handbook.Tiling.Clip
import Handbook.Tiling.Patch
import Handbook.Tiling.Span
import Handbook.Proofs.Answers
import Handbook.Proofs.Rect
import Handbook.Proofs.Overlap
import Handbook.Proofs.Ninths
import Handbook.Proofs.Binary32.Rounding
import Handbook.Proofs.Binary32.Order
import Handbook.Proofs.Tiling.Cutting
import Handbook.Proofs.Tiling.Covering
import Handbook.Proofs.Markup.Lines
import Handbook.Proofs.Markup.Reading
import Handbook.Proofs.Markup.Printing
import Handbook.Proofs.Text.Rows
import Handbook.Proofs.Text.Wrapping
import Handbook.Proofs.Book.Operations
import Handbook.Proofs.Book.Moves
import Handbook.Proofs.Book.Runs
import Handbook.Proofs.Book.Strip
import Handbook.Proofs.Book.Cache
import Handbook.Proofs.Book.Decisions
import Handbook.Proofs.Book.Derived
import Handbook.Proofs.Book.Appearance
import Handbook.Proofs.Book.Memory
import Handbook.Proofs.Book.Clicks
import Handbook.Proofs.Text.Headers
import Handbook.Proofs.Draw.Batching
import Handbook.Proofs.Book.Scenes
import Handbook.Proofs.Sheet.Checking
import Handbook.Proofs.Sheet.NineSlice
import Handbook.Proofs.Sheet.Sampling
import Handbook.Proofs.Panel.Tooltip
import Handbook.Proofs.Panel.Covering
import Handbook.Proofs.Book.Sampling
import Handbook.Proofs.Book.ShownLines
import Handbook.Proofs.Book.PageText
import Handbook.Proofs.Book.Layers
import Handbook.Proofs.Book.Viewport
import Handbook.Proofs.Book.Widgets
import Handbook.Proofs.Markup.LineEnds
import Handbook.Proofs.Markup.Appending
import Handbook.Proofs.Json.Writing
import Handbook.Proofs.Json.Reading
import Handbook.Proofs.Json.Members
import Handbook.Proofs.Settings.RoundTrip
import Handbook.Proofs.Settings.Overriding
import Handbook.Proofs.Book.Room
import Handbook.Proofs.Book.Nesting
import Handbook.Proofs.Text.Stacking
import Handbook.Proofs.Text.Breaking
import Handbook.Proofs.Text.Measuring
import Handbook.Proofs.Book.Scrolling
import Handbook.Proofs.Snapshot.Arranging
import Handbook.Proofs.Binary32.Shares
import Handbook.Proofs.Book.Progress
import Handbook.Proofs.Tiling.Clipping
import Handbook.Proofs.Tiling.Sequence
import Handbook.Proofs.Draw.Geometry
import Handbook.Proofs.Page.Directory
import Handbook.Proofs.Book.Pages
import Handbook.Proofs.Markup.Words
import Handbook.Proofs.Text.Pieces
import Handbook.Proofs.Draw.Scenes
