import WpgRaster.Container.Walk

/-!
# Decoders

A `Decoder` decodes one file. It reads the header once, when it is first
needed, and looks for the first bitmap then, so that size and colour
space of the file are known before anything is decoded. Decoding walks
the records again and delivers a frame for every bitmap.

What a decoder knows about the first bitmap and about embedded files is
what the last walk found.
-/

namespace WpgRaster

/-- A file and what is known about it. -/
structure Decoder (σ : Type) where
  /-- The file. -/
  source : σ
  /-- What is accepted. -/
  options : Options := {}
  /-- The header, once it was read. -/
  header : Option Header := none
  /-- The size of the file, once its header was read. -/
  fileSize : Nat := 0
  /-- Whether the header was read and the first bitmap looked for. -/
  headersDecoded : Bool := false
  /-- The first bitmap, if the last walk was for it. -/
  firstBitmap : Option Bitmap := none
  /-- The embedded files met by the last walk. -/
  embedded : Array EmbeddedFile := #[]

namespace Decoder

/-- Offsets have 32 bits; what lies beyond is out of reach. -/
def maxFileSize : Nat := 0xFFFFFFFF

variable {σ : Type}

/-- Size of the first bitmap, if it is known. -/
def dimensions (decoder : Decoder σ) : Option (Nat × Nat) :=
  if decoder.headersDecoded then
    decoder.firstBitmap.map fun bitmap => (bitmap.width, bitmap.height)
  else none

/-- Colour space of the first bitmap, if it is known. -/
def colorSpace (decoder : Decoder σ) : Option ColorSpace :=
  if decoder.headersDecoded then decoder.firstBitmap.bind Bitmap.colorSpace? else none

/-- Depth of the decoded samples, which is the same for all files. -/
def depth (_ : Decoder σ) : SampleDepth := .sixteen

/-- The decoder behind a walk. -/
def after (decoder : Decoder σ) (walk : Walk σ) : Decoder σ :=
  { decoder with
    source := walk.source
    firstBitmap := walk.firstBitmap
    embedded := walk.embedded }

variable [ByteSource σ]

/-- A step that concerns the source. -/
def onSource {α : Type} (step : SourceM σ α) : EStateM WpgError (Decoder σ) α :=
  fun decoder =>
    match step decoder.source with
    | .ok a source => .ok a { decoder with source }
    | .error err source => .error (.source err) { decoder with source }

/-- Reads the header and checks it. -/
def readHeader : EStateM WpgError (Decoder σ) Header := do
  let _ ← onSource (ByteSource.seek (.start 0))
  let fileId ← onSource Header.readId
  unless Header.isMagic fileId do throw .invalidMagic
  let header ← onSource (Header.readRest fileId)
  if let some err := header.fault? then throw err
  return header

/-- Walks over the records and delivers the frames. -/
def walk (headersOnly : Bool) (stop : Stop) (decoder : Decoder σ) :
    (Except WpgError (Array Frame) × Stop) × Decoder σ :=
  match decoder.header with
  | none => ((.error .headerMissing, stop), decoder)
  | some header =>
    match header.level? with
    | none => ((.error (.unsupportedFileType header.fileType), stop), decoder)
    | some level =>
      let plan : WalkPlan :=
        { options := decoder.options
          level
          start := header.dataOffset.toNat
          fileSize := decoder.fileSize
          headersOnly }
      match Walk.run plan (Walk.make level decoder.source stop) with
      | .ok () walk => ((.ok walk.frames, walk.stop), decoder.after walk)
      | .error err walk => ((.error err, walk.stop), decoder.after walk)

/-- Reads the header and looks for the first bitmap, unless that was done
before. -/
def decodeHeaders : EStateM WpgError (Decoder σ) Unit := do
  if (← get).headersDecoded then return
  let header ← readHeader
  let size ← onSource ByteSource.length
  modify fun decoder =>
    { decoder with fileSize := min size maxFileSize, header := some header }
  let (result, _) ← modifyGet (walk true .never)
  let _ ← ofExcept result
  modify fun decoder => { decoder with headersDecoded := true }

/-- Decodes all bitmaps, unless the stop fires. There has to be one. -/
def decodeWithStop (stop : Stop) (decoder : Decoder σ) :
    (Except WpgError (Array Frame) × Stop) × Decoder σ :=
  match decodeHeaders decoder with
  | .error err decoder => ((.error err, stop), decoder)
  | .ok () decoder =>
    match decoder.walk false stop with
    | ((.ok frames, stop), decoder) =>
      if frames.isEmpty then ((.error .noImageData, stop), decoder)
      else ((.ok frames, stop), decoder)
    | failed => failed

/-- Decodes all bitmaps. -/
def decode (decoder : Decoder σ) : Except WpgError (Array Frame) × Decoder σ :=
  let ((result, _), decoder) := decoder.decodeWithStop .never
  (result, decoder)

end Decoder

end WpgRaster
