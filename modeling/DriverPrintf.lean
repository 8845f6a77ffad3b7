import DriverPrintf.Text.Utf8
import DriverPrintf.Text.Ranges
import DriverPrintf.Text.Blank
import DriverPrintf.Text.Combining
import DriverPrintf.Text.Unprintable
import DriverPrintf.Text.Ignorable
import DriverPrintf.Text.Digits
import DriverPrintf.Text.Quoted
import DriverPrintf.Text.Layout
import DriverPrintf.Text.Json
import DriverPrintf.Arg
import DriverPrintf.Template.Basic
import DriverPrintf.Template.Error
import DriverPrintf.Template.Scan
import DriverPrintf.Template.Bitset
import DriverPrintf.Template.Segment
import DriverPrintf.Template.Reader
import DriverPrintf.Render.Conversion
import DriverPrintf.Render.Rendering
import DriverPrintf.BoundedBuffer
import DriverPrintf.Line.Destination
import DriverPrintf.Line.Staging
import DriverPrintf.Line.Printer
import DriverPrintf.Event
import DriverPrintf.Numeral
import DriverPrintf.Command.Failure
import DriverPrintf.Command.Arguments
import DriverPrintf.Command.Inspection
import DriverPrintf.Command.Run
import DriverPrintf.Command.Options
import DriverPrintf.Main
import DriverPrintf.Proofs.Text.Runs
import DriverPrintf.Proofs.Text.Utf8
import DriverPrintf.Proofs.Text.Digits
import DriverPrintf.Proofs.Numeral
import DriverPrintf.Proofs.Template.Accepts
import DriverPrintf.Proofs.Template.Reading
import DriverPrintf.Proofs.Template.Grammar
import DriverPrintf.Proofs.Template.Descriptor
import DriverPrintf.Proofs.Template.Faults
import DriverPrintf.Proofs.Template.Errors
import DriverPrintf.Proofs.Template.Continuation
import DriverPrintf.Proofs.Render.Outcome
import DriverPrintf.Proofs.Line.Units
import DriverPrintf.Proofs.Line.Delivery
import DriverPrintf.Proofs.Line.Ending
import DriverPrintf.Proofs.Line.Operations
import DriverPrintf.Proofs.Render.Failure
import DriverPrintf.Proofs.Render.Concatenation
import DriverPrintf.Proofs.Render.Pieces
import DriverPrintf.Proofs.BoundedBuffer
import DriverPrintf.Proofs.Command.Reporting
import DriverPrintf.Proofs.Command.Listing
import DriverPrintf.Proofs.Command.Agreement
import DriverPrintf.Proofs.Command.Writing
import DriverPrintf.Proofs.Render.Provenance
import DriverPrintf.Proofs.Terminators
import DriverPrintf.Proofs.Command.Integers
import DriverPrintf.Proofs.Template.Tiling
import DriverPrintf.Proofs.Render.BitFields
import DriverPrintf.Proofs.Words
import DriverPrintf.Proofs.Render.Fields
import DriverPrintf.Proofs.ReadBack
import DriverPrintf.Proofs.Command.Addresses
import DriverPrintf.Proofs.Text.Cuts
import DriverPrintf.Proofs.Command.Truncation
import DriverPrintf.Proofs.Command.Signs
import DriverPrintf.Proofs.Escaping
import DriverPrintf.Proofs.Command.Spellings
import DriverPrintf.Proofs.Command.Descriptions
import DriverPrintf.Proofs.Template.Boundaries
import DriverPrintf.Proofs.Template.Cursor
