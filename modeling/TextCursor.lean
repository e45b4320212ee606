import TextCursor.Grapheme.Rules
import TextCursor.Main
import TextCursor.Script.Store
import TextCursor.Proofs.Grapheme.Division
import TextCursor.Proofs.Cursor.Window
import TextCursor.Proofs.Cursor.Cache
import TextCursor.Proofs.Numeral.Scan
import TextCursor.Proofs.Grapheme.Offset
import TextCursor.Proofs.Cursor.Removal
import TextCursor.Proofs.Cursor.Field
import TextCursor.Proofs.Benchmark.Rounds
import TextCursor.Proofs.Benchmark.Splitting
import TextCursor.Proofs.Cursor.Trimming
import TextCursor.Proofs.Cursor.Scanning
import TextCursor.Proofs.Script.Bounds
import TextCursor.Proofs.Script.Reachable
import TextCursor.Proofs.Script.Safety
import TextCursor.Proofs.Script.Transparency
import TextCursor.Proofs.Script.Deque
import TextCursor.Proofs.Template.Frame
import TextCursor.Proofs.Template.Layout
import TextCursor.Proofs.Template.Reading
import TextCursor.Proofs.Numeral.Written
import TextCursor.Proofs.Numeral.Grammar
import TextCursor.Proofs.Numeral.Rounding
import TextCursor.Proofs.Template.Formatting
import TextCursor.Proofs.Template.Independence
import TextCursor.Proofs.Cursor.Relocation
import TextCursor.Proofs.Script.Locality
import TextCursor.Proofs.Script.Traversal
import TextCursor.Proofs.Script.Failure
import TextCursor.Proofs.Script.Accounting
import TextCursor.Proofs.Template.Calls
import TextCursor.Proofs.Template.Reentry
import TextCursor.Proofs.Script.Aliasing
import TextCursor.Proofs.Grapheme.Alignment
import TextCursor.Proofs.Script.Delimiter
import TextCursor.Proofs.Script.Needle
import TextCursor.Proofs.Script.Trims
import TextCursor.Proofs.Numeral.Nearest
import TextCursor.Proofs.Script.Numbers
import TextCursor.Proofs.Script.Walks
import TextCursor.Proofs.Grapheme.Stability
import TextCursor.Proofs.Cursor.Rest
import TextCursor.Proofs.Benchmark.Collecting
import TextCursor.Proofs.Script.Words
import TextCursor.Proofs.Template.Meaning
import TextCursor.Proofs.Template.Gathering
import TextCursor.Proofs.Numeral.Confinement
import TextCursor.Proofs.Text.Ranges
