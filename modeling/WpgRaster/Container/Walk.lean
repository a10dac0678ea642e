import WpgRaster.Container.Colormap
import WpgRaster.Container.Embedded
import WpgRaster.Container.Frame
import WpgRaster.Source.VarInt

/-!
# Walking the records

Behind the header a file is a flat list of records. A walk goes from one
to the next by their lengths, wherever reading a record has left the
source. Most records are passed over. What matters are bitmaps, each of
which becomes a frame, and the records that concern the bitmap that comes
next: palettes, transforms and the precision of positions.

A palette belongs to the next bitmap alone. One that cannot be loaded is
no error of the file but fails that bitmap.

The walk of a file whose header is all that is wanted ends at the first
bitmap.
-/

namespace WpgRaster

/-- What a walk has to know. -/
structure WalkPlan where
  /-- What is accepted. -/
  options : Options
  /-- The form of the records. -/
  level : Level
  /-- The offset of the first record. -/
  start : Nat
  /-- The size of the file. -/
  fileSize : Nat
  /-- Whether to end at the first bitmap without decoding it. -/
  headersOnly : Bool
  deriving DecidableEq, Repr

/-- The state of a walk. -/
structure Walk (σ : Type) where
  /-- The file. -/
  source : σ
  /-- What is asked whether to go on. -/
  stop : Stop
  /-- The palette loaded since the last bitmap. -/
  palette : Palette
  /-- Why a palette could not be loaded, since the last bitmap. -/
  paletteError : Option RasterError := none
  /-- The transform of the next bitmaps. -/
  transform : Transform := {}
  /-- The precision of positions, 0 if there is none. -/
  precision : UInt8 := 0
  /-- The embedded files met so far. -/
  embedded : Array EmbeddedFile := #[]
  /-- The bitmap that ended a walk for the header. -/
  firstBitmap : Option Bitmap := none
  /-- The frames decoded so far. -/
  frames : Array Frame := #[]

/-- A step of a walk. -/
abbrev WalkM (σ α : Type) := EStateM WpgError (Walk σ) α

namespace Walk

variable {σ α : Type}

/-- A walk before the first record. -/
def make (level : Level) (source : σ) (stop : Stop) : Walk σ :=
  { source, stop, palette := level.emptyPalette }

/-- A step that concerns the source. -/
def onSource (step : EStateM WpgError σ α) : WalkM σ α := fun walk =>
  match step walk.source with
  | .ok a source => .ok a { walk with source }
  | .error err source => .error err { walk with source }

/-- A read that cannot fail. -/
def read (step : σ → α × σ) : WalkM σ α := onSource (modifyGet step)

/-- A step of the source whose failure fails the file. -/
def require (step : SourceM σ α) : WalkM σ α := onSource (step.adaptExcept .source)

/-- A step of the source whose failure is an answer. -/
def attempt (step : SourceM σ α) : WalkM σ (Option α) := fun walk =>
  match step walk.source with
  | .ok a source => .ok (some a) { walk with source }
  | .error _ source => .ok none { walk with source }

variable [ByteSource σ]

/-- Whether the source is at its end. -/
def atEnd : WalkM σ Bool := fun walk =>
  match ByteSource.atEnd walk.source with
  | .ok ended => .ok ended walk
  | .error err => .error (.source err) walk

/-- The position of the source. -/
def position : WalkM σ Nat := return ByteSource.position (← get).source

/-! ## Palettes -/

/-- Why the palette of a record cannot be loaded. A level two palette has
to fit its record; at either level it has to fit the capacity. -/
def paletteFault? (level : Level) (length start count : Nat) : Option RasterError :=
  let capacity := level.paletteCapacity
  let available := (length - 4) / 4
  if level = .two ∧ available < count then some (.paletteOverflow start count available)
  else if capacity < start + count then some (.paletteOverflow start count capacity)
  else none

/-- Bytes of a palette entry. Level two adds the opacity. -/
def entryStride : Level → Nat
  | .one => 3
  | .two => 4

/-- Loads the entries of a palette record. Missing bytes are zeros. -/
def loadEntries (level : Level) (start count : Nat) : WalkM σ Unit := do
  let stride := entryStride level
  let bytes ← require (ByteSource.takeUpTo (count * stride))
  let data := bytes ++ Array.replicate (count * stride - bytes.size) 0
  match level.emptyPalette.load start count data stride with
  | .ok palette => modify fun walk => { walk with palette, paletteError := none }
  | .error err => throw (.raster err)

/-- Reads a palette record with a body of the given length. An empty one
unloads the palette, and counts as a failure at level two. -/
def readPalette (level : Level) (length : Nat) : WalkM σ Unit := do
  let start := (← read ByteSource.u16LE).toNat
  let count := (← read ByteSource.u16LE).toNat
  if count = 0 then
    if level = .two then
      modify fun walk =>
        { walk with
          paletteError := some (.paletteOverflow start 0 level.paletteCapacity) }
    modify fun walk => { walk with palette := level.emptyPalette }
  else
    match paletteFault? level length start count with
    | some err => modify fun walk => { walk with paletteError := some err }
    | none => loadEntries level start count

/-- Hands the loaded palette to a bitmap and unloads it. -/
def takePalette (level : Level) : EStateM RasterError (Walk σ) Palette := fun walk =>
  let rest := { walk with palette := level.emptyPalette, paletteError := none }
  match walk.paletteError with
  | some err => .error err rest
  | none => .ok walk.palette rest

/-! ## Bitmaps -/

/-- What the options and the depth say against a bitmap. -/
def bitmapFault? (options : Options) (bitmap : Bitmap) : Option WpgError :=
  if 24 < bitmap.depth then some (.raster (.unsupportedDepth bitmap.depth))
  else if options.maxWidth < bitmap.width then
    some (.tooLarge .width options.maxWidth bitmap.width)
  else if options.maxHeight < bitmap.height then
    some (.tooLarge .height options.maxHeight bitmap.height)
  else none

/-- Decodes the raster at the present position. -/
def decodeRaster (format : FrameFormat) (buffer : PixelBuffer) :
    EStateM RasterError (Walk σ) (Except RasterError Outcome × PixelBuffer) := fun walk =>
  let decoded := format.decode walk.source buffer walk.stop
  .ok (decoded.result, decoded.sink)
    { walk with source := decoded.source, stop := decoded.stop }

/-- Decodes a bitmap whose raster is at the present position. -/
def decodeBitmap (plan : WalkPlan) (bitmap : Bitmap) :
    EStateM RasterError (Walk σ) Frame := do
  let loaded ← takePalette plan.level
  let colormap ← ofExcept (Colormap.make plan.level (some loaded) bitmap.depth)
  let format := bitmap.format colormap
  let space ← ofExcept format.colorSpace
  let buffer ← ofExcept (PixelBuffer.make bitmap.width bitmap.height space)
  let (result, pixels) ← decodeRaster format buffer
  let status ← ofExcept (FrameStatus.ofResult plan.options result)
  return { bitmap, pixels, colormap, status }

/-- Handles a bitmap and answers whether the walk goes on. -/
def handleBitmap (plan : WalkPlan) (bitmap : Bitmap) : WalkM σ Bool := do
  if let some err := bitmapFault? plan.options bitmap then throw err
  if plan.headersOnly then
    modify fun walk => { walk with firstBitmap := some bitmap }
    return false
  fun walk =>
    match decodeBitmap plan bitmap walk with
    | .ok frame walk =>
      .ok plan.options.allFrames { walk with frames := walk.frames.push frame }
    | .error err walk =>
      if plan.options.rejects err then .error (.raster err) walk
      else .ok plan.options.allFrames walk

/-! ## Records -/

/-- Notes the file embedded in a record body behind `skip` bytes, if there
is one. -/
def note (recordType : UInt8) (body length skip : Nat) : WalkM σ Unit :=
  match EmbeddedFile.inBody recordType body length skip with
  | some file => modify fun walk => { walk with embedded := walk.embedded.push file }
  | none => pure ()

/-- Handles a record of level one and answers whether the walk goes on. -/
def handleOne (plan : WalkPlan) (recordType : UInt8) (body length : Nat) :
    WalkM σ Bool := do
  match recordType with
  | 0x0B => handleBitmap plan (← onSource Bitmap.readPlain)
  | 0x14 => handleBitmap plan (← onSource Bitmap.readPlaced)
  | 0x0E => readPalette .one length; return true
  | 0x11 => note recordType body length 8; return true
  | 0x1B => note recordType body length 0x3C; return true
  | _ => return true

/-- Handles a record of level two and answers whether the walk goes on. -/
def handleTwo (plan : WalkPlan) (recordType : UInt8) (body length : Nat) :
    WalkM σ Bool := do
  match recordType with
  | 0x01 =>
    let _horizontalUnits ← read ByteSource.u16LE
    let _verticalUnits ← read ByteSource.u16LE
    let precision ← read ByteSource.nextOrZero
    modify fun walk => { walk with precision }
    return true
  | 0x0C => readPalette .two length; return true
  | 0x0E =>
    match ← onSource (Bitmap.readCoded (← get).transform) with
    | some bitmap => handleBitmap plan bitmap
    | none => return true
  | 0x12 =>
    let skip ← read ByteSource.u16LE
    note recordType (body + 2) (length - 2) skip.toNat
    return true
  | 0x1B =>
    let transform ← read (Transform.read (← get).precision)
    modify fun walk => { walk with transform }
    return true
  | _ => return true

/-- Walks over the record of level one at an offset and answers the offset
of the next one, unless the walk ends. -/
def stepOne (plan : WalkPlan) (offset : Nat) : WalkM σ (Option Nat) := do
  let _ ← require (ByteSource.seek (.start offset))
  let some recordType ← attempt ByteSource.next | return none
  let length := (← read VarInt.read).value
  if plan.fileSize < length then throw (.improperRecord .tooLong)
  if ← atEnd then return none
  let body ← position
  let next := body + length
  if plan.fileSize < next ∨ next < plan.start then return none
  if ← handleOne plan recordType body length then return some next else return none

/-- Walks over the record of level two at an offset and answers the offset
of the next one, unless the walk ends. -/
def stepTwo (plan : WalkPlan) (offset : Nat) : WalkM σ (Option Nat) := do
  let _ ← require (ByteSource.seek (.start offset))
  let some _class ← attempt ByteSource.next | return none
  let some recordType ← attempt ByteSource.next | return none
  let _extension ← read VarInt.read
  let length := (← read VarInt.read).value
  if ← atEnd then return none
  let body ← position
  if ← handleTwo plan recordType body length then return some (body + length)
  else return none

/-- Walks over the record at an offset. -/
def step (plan : WalkPlan) (offset : Nat) : WalkM σ (Option Nat) :=
  match plan.level with
  | .one => stepOne plan offset
  | .two => stepTwo plan offset

/-- Walks over the records from an offset on, but at most `fuel` of
them. -/
def steps (plan : WalkPlan) : (fuel offset : Nat) → WalkM σ Unit
  | 0, _ => pure ()
  | fuel + 1, offset => do
    if plan.fileSize ≤ offset then return
    let some next ← step plan offset | return
    steps plan fuel next

/-- Walks over all records. Offsets grow from record to record, so there
are no more records than bytes behind the first offset. -/
def run (plan : WalkPlan) : WalkM σ Unit :=
  steps plan (plan.fileSize - plan.start) plan.start

end Walk

end WpgRaster
