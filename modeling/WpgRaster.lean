import WpgRaster.Size
import WpgRaster.Source.Error
import WpgRaster.Source.Basic
import WpgRaster.Source.Cursor
import WpgRaster.Source.ByteStream
import WpgRaster.Source.FaultyCursor
import WpgRaster.Source.VarInt
import WpgRaster.Color.Space
import WpgRaster.Frame.Error
import WpgRaster.Color.Quantum
import WpgRaster.Color.Palette
import WpgRaster.Color.PaletteOperation
import WpgRaster.Frame.Stop
import WpgRaster.Row.Assembler
import WpgRaster.Row.Log
import WpgRaster.Pixel.Layout
import WpgRaster.Pixel.Expansion
import WpgRaster.Pixel.Sink
import WpgRaster.Pixel.Buffer
import WpgRaster.Pixel.GuardedSink
import WpgRaster.Pixel.Unpacker
import WpgRaster.RunLength.Token
import WpgRaster.Frame.Session
import WpgRaster.RunLength.Decode
import WpgRaster.Frame.Format
import WpgRaster.Frame.Decode
import WpgRaster.Frame.Engine
import WpgRaster.Container.Options
import WpgRaster.Container.Error
import WpgRaster.Container.Header
import WpgRaster.Container.Transform
import WpgRaster.Container.DefaultColors
import WpgRaster.Container.Colormap
import WpgRaster.Container.Bitmap
import WpgRaster.Container.Frame
import WpgRaster.Container.Embedded
import WpgRaster.Container.Walk
import WpgRaster.Container.Decoder
import WpgRaster.Proofs.Steps
import WpgRaster.Proofs.Row.Sheet
import WpgRaster.Proofs.Row.Assembly
import WpgRaster.Proofs.Row.Log
import WpgRaster.Proofs.Row.Packing
import WpgRaster.Proofs.Source.Rest
import WpgRaster.Proofs.Source.Reading
import WpgRaster.Proofs.RunLength.Interpreter
import WpgRaster.Proofs.RunLength.Execution
import WpgRaster.Proofs.RunLength.Expansion
import WpgRaster.Proofs.Frame.Setup
import WpgRaster.Proofs.Pixel.Buffer
import WpgRaster.Proofs.Frame.Meaning
import WpgRaster.Proofs.Frame.Outcome
import WpgRaster.Proofs.Frame.Compressed
import WpgRaster.Proofs.Frame.Safety
import WpgRaster.Proofs.Simulation
import WpgRaster.Proofs.Frame.Congruence
import WpgRaster.Proofs.Frame.Simulation
import WpgRaster.Proofs.Frame.Recording
import WpgRaster.Proofs.Frame.RowProtocol
import WpgRaster.Proofs.Source.Supply
import WpgRaster.Proofs.Pixel.Image
import WpgRaster.Proofs.RunLength.Prefix
import WpgRaster.Proofs.Frame.Truncation
import WpgRaster.Proofs.Frame.Literal
import WpgRaster.Proofs.Frame.Advance
import WpgRaster.Proofs.Frame.Interruption
import WpgRaster.Proofs.Frame.Cancellation
import WpgRaster.Proofs.Container.Grammar
import WpgRaster.Proofs.Container.Colors
import WpgRaster.Proofs.Container.Bitmaps
import WpgRaster.Proofs.Container.Records
import WpgRaster.Proofs.Container.Walks
import WpgRaster.Proofs.Upholding
import WpgRaster.Proofs.Source.Lawful
import WpgRaster.Proofs.Source.Onward
import WpgRaster.Proofs.Container.Scan
import WpgRaster.Proofs.Container.Passing
import WpgRaster.Proofs.Container.Settling
import WpgRaster.Proofs.Container.Visits
import WpgRaster.Proofs.Container.HeaderBytes
import WpgRaster.Proofs.Container.Headers
import WpgRaster.Proofs.Container.Files
import WpgRaster.Proofs.Container.Foretelling
import WpgRaster.Proofs.Container.Limits
import WpgRaster.Proofs.Container.FirstFrame
import WpgRaster.Proofs.Container.Strictness
import WpgRaster.Proofs.Container.Calls
import WpgRaster.Proofs.Container.Progress
import WpgRaster.Proofs.Source.Alignment
import WpgRaster.Proofs.Container.Kinship
import WpgRaster.Proofs.Container.Fronts
import WpgRaster.Proofs.Container.Isolation
import WpgRaster.Proofs.Comparison
import WpgRaster.Proofs.Pixel.Recoloring
import WpgRaster.Proofs.Source.Likeness
import WpgRaster.Proofs.Source.Mirrors
import WpgRaster.Proofs.Source.Breaking
import WpgRaster.Proofs.Container.PairedScans
import WpgRaster.Proofs.Container.PairedWalks
import WpgRaster.Proofs.Container.PairedDecoders
import WpgRaster.Proofs.Container.Mirroring
import WpgRaster.Proofs.Container.Pieces
import WpgRaster.Proofs.Container.Breakage
import WpgRaster.Proofs.Container.PaletteRecords
import WpgRaster.Proofs.Container.Handovers
import WpgRaster.Proofs.Container.PaletteBytes
import WpgRaster.Proofs.Container.EmbeddedFiles
import WpgRaster.Proofs.Container.WellFormed
import WpgRaster.Proofs.Container.Repetition
import WpgRaster.Proofs.Frame.Failures
import WpgRaster.Proofs.Frame.Concatenation
import WpgRaster.Proofs.Row.Pairing
import WpgRaster.Proofs.Source.BufferedHandles
import WpgRaster.Proofs.Source.Readers
import WpgRaster.Proofs.Row.Ledger
import WpgRaster.Proofs.Row.Refusal
import WpgRaster.Proofs.Frame.BreakingOff
import WpgRaster.Proofs.Pixel.Packing
import WpgRaster.Proofs.Pixel.Unpacking
import WpgRaster.Proofs.Pixel.Streaming
import WpgRaster.Proofs.Frame.Unpackers
import WpgRaster.Proofs.Frame.Descriptions
import WpgRaster.Proofs.Container.Colormaps
import WpgRaster.Proofs.Wary.Steps
import WpgRaster.Proofs.Wary.Rows
import WpgRaster.Proofs.Wary.Assembly
import WpgRaster.Proofs.Wary.Tokens
import WpgRaster.Proofs.Wary.Decoding
import WpgRaster.Proofs.Color.Palettes
import WpgRaster.Proofs.Color.Quantum
import WpgRaster.Proofs.Wary.Palettes
import WpgRaster.Proofs.Termination
import WpgRaster.Proofs.Source.Portions
import WpgRaster.Proofs.Source.Integers
import WpgRaster.Proofs.Frame.PackedRows
import WpgRaster.Proofs.Frame.Clamping
import WpgRaster.Pixel.Operation
import WpgRaster.Proofs.Pixel.Rows
import WpgRaster.Proofs.Allocations
import WpgRaster.Proofs.Container.Depths
import WpgRaster.Proofs.Pixel.Grays
import WpgRaster.Proofs.Container.GrayRamps
