import WpgRaster.Container.Decoder
import WpgRaster.Proofs.Source.Reading

/-!
# The grammar of files

A file is a header of sixteen bytes, a gap and a list of records
(`WpgFile`). A record is what its level puts in front of it, a size in any
of the forms of a variable-length integer, and a body of that size
(`Record`). There are bitmaps, palettes and records of other types
(`RecordBody`); a body that makes no sense cannot be written down here.

What a file shows is a list of pictures, one for every bitmap in it: the
bitmap together with the last palette since the bitmap before it
(`WpgFile.pictures`). What a picture looks like is said by its own bytes
alone (`Picture.alone`).

Files may be longer than what a decoder looks at. A record of level one is
within reach if it ends in that part of the file, and a record of level two
if it begins there, since its length is not looked at before it is handled
(`Record.WithinReach`). What comes behind the first record that is out of
reach is out of reach too.
-/

namespace WpgRaster

/-! ## Bitmaps -/

/-- The depths of bitmaps that are decoded. -/
def Bitmap.supportedDepths : List Nat := [1, 2, 4, 8, 16, 24]

theorem Bitmap.mem_supportedDepths {depth : Nat} :
    depth ∈ supportedDepths
      ↔ depth = 1 ∨ depth = 2 ∨ depth = 4 ∨ depth = 8 ∨ depth = 16 ∨ depth = 24 := by
  simp only [supportedDepths, List.mem_cons, List.not_mem_nil, or_false]

/-- **What a bitmap record has in front of its raster.** -/
inductive BitmapFront : Level → Type
  /-- A plain bitmap of level one. -/
  | plain (width height depth horizontal vertical : UInt16) : BitmapFront .one
  /-- A placed bitmap of level one. -/
  | placed (turn left bottom right top width height depth horizontal vertical : UInt16) :
    BitmapFront .one
  /-- A bitmap of level two, with codes that are known. -/
  | coded (width height : UInt16) (depthCode compressionCode : UInt8) (depth : Nat)
    (compression : Compression) (depth_eq : Bitmap.depthOf depthCode = some depth)
    (compression_eq : Bitmap.compressionOf compressionCode = some compression) : BitmapFront .two

/-- The bytes of a list of 16-bit numbers. -/
def wordBytes (words : List UInt16) : List UInt8 :=
  words.flatMap fun word => littleEndianBytes 2 word.toNat

namespace BitmapFront

variable {level : Level}

/-- The type of the record. -/
def type : BitmapFront level → UInt8
  | plain .. => plainBitmapType
  | placed .. => placedBitmapType
  | coded .. => codedBitmapType

/-- Pixels in a row. -/
def width : BitmapFront level → Nat
  | plain width _ _ _ _ => width.toNat
  | placed _ _ _ _ _ width _ _ _ _ => width.toNat
  | coded width _ _ _ _ _ _ _ => width.toNat

/-- The number of rows. -/
def height : BitmapFront level → Nat
  | plain _ height _ _ _ => height.toNat
  | placed _ _ _ _ _ _ height _ _ _ => height.toNat
  | coded _ height _ _ _ _ _ _ => height.toNat

/-- Bits of a pixel. -/
def depth : BitmapFront level → Nat
  | plain _ _ depth _ _ => depth.toNat
  | placed _ _ _ _ _ _ _ depth _ _ => depth.toNat
  | coded _ _ _ _ depth _ _ _ => depth

/-- How the raster is stored. -/
def compression : BitmapFront level → Compression
  | plain .. | placed .. => .first
  | coded _ _ _ _ _ compression _ _ => compression

/-- The bytes in front of the raster. -/
def bytes : BitmapFront level → List UInt8
  | plain width height depth horizontal vertical =>
    wordBytes [width, height, depth, horizontal, vertical]
  | placed turn left bottom right top width height depth horizontal vertical =>
    wordBytes [turn, left, bottom, right, top, width, height, depth, horizontal, vertical]
  | coded width height depthCode compressionCode _ _ _ _ =>
    wordBytes [width, height] ++ [depthCode, compressionCode]

end BitmapFront

/-- **The body of a bitmap record**, of a size and a depth that are decoded. -/
structure BitmapBody (level : Level) where
  /-- What stands in front of the raster. -/
  front : BitmapFront level
  /-- The raster, and whatever else there is behind it. -/
  raster : List UInt8
  /-- There are columns. -/
  width_pos : 0 < front.width
  /-- There are not too many. -/
  width_le : front.width ≤ Options.safe.maxWidth
  /-- There are rows. -/
  height_pos : 0 < front.height
  /-- There are not too many. -/
  height_le : front.height ≤ Options.safe.maxHeight
  /-- The depth is supported. -/
  supported : front.depth ∈ Bitmap.supportedDepths

namespace BitmapBody

variable {level : Level} (body : BitmapBody level)

/-- The bytes of the body. -/
def bytes : List UInt8 := body.front.bytes ++ body.raster

/-- The format of the raster, with the colormap to decode it with. -/
def format (colormap : Option Palette) : FrameFormat :=
  FrameFormat.withCompression
    { columns := body.front.width
      rows := body.front.height
      depth := body.front.depth
      model := Bitmap.modelOf body.front.depth
      palette := colormap } body.front.compression

/-- Pixels of 1 and of 16 bits are gray, all others have a color. -/
def space : ColorSpace := if body.front.depth = 1 ∨ body.front.depth = 16 then .luma else .rgb

/-- The black image of the size. -/
def blank : PixelBuffer :=
  { width := body.front.width
    height := body.front.height
    colorSpace := body.space
    pixels := Array.replicate (body.front.width * body.front.height * body.space.components) 0
    rowsCommitted := 0 }

end BitmapBody

/-! ## Palettes -/

/-- **The body of a palette record.** At level two it has an entry. -/
structure PaletteBody (level : Level) where
  /-- The index of the first entry. -/
  start : UInt16
  /-- The entries. -/
  entries : List (Vector UInt8 (Walk.entryStride level))
  /-- What is left of the body behind the entries. -/
  unused : List UInt8
  /-- The number of entries can be written. -/
  few : entries.length < 0x10000
  /-- The entries have a place in the palette. -/
  fits : entries ≠ [] → start.toNat + entries.length ≤ level.paletteCapacity
  /-- Only level one has empty palettes. -/
  nonempty : level = .two → entries ≠ []

namespace PaletteBody

variable {level : Level} (body : PaletteBody level)

/-- The bytes of the entries. -/
def data : List UInt8 := body.entries.flatMap Vector.toList

/-- The bytes of the body. -/
def bytes : List UInt8 :=
  littleEndianBytes 2 body.start.toNat
    ++ (littleEndianBytes 2 body.entries.length ++ (body.data ++ body.unused))

/-- The colours of the entries. -/
def colors : List PaletteEntry :=
  body.entries.map fun entry => .ofEntryBytes entry.toArray (Walk.entryStride level)

/-- **The palette that is loaded**: the colours, behind as much black as
there is in front of the first index. A palette without entries is empty. -/
def palette : Palette :=
  if body.entries = [] then level.emptyPalette
  else
    { entries := (List.replicate body.start.toNat PaletteEntry.black ++ body.colors).toArray
      capacity := level.paletteCapacity }

end PaletteBody

/-! ## Records -/

namespace Level

/-- The type of palette records. -/
def paletteType : Level → UInt8
  | .one => 0x0E
  | .two => 0x0C

/-- The types of bitmap records. -/
def bitmapTypes : Level → List UInt8
  | .one => [plainBitmapType, placedBitmapType]
  | .two => [codedBitmapType]

end Level

/-- **The body of a record.** -/
inductive RecordBody (level : Level)
  /-- A bitmap. -/
  | bitmap (body : BitmapBody level)
  /-- A palette. -/
  | palette (body : PaletteBody level)
  /-- Any bytes, of a type that is neither. -/
  | other (type : UInt8) (bytes : List UInt8) (passed : type ≠ level.paletteType)
    (passed' : type ∉ level.bitmapTypes)

namespace RecordBody

variable {level : Level}

/-- The type of the record. -/
def type : RecordBody level → UInt8
  | bitmap body => body.front.type
  | palette _ => level.paletteType
  | other type _ _ _ => type

/-- The bytes of the body. -/
def bytes : RecordBody level → List UInt8
  | bitmap body => body.bytes
  | palette body => body.bytes
  | other _ bytes _ _ => bytes

end RecordBody

/-- **What only one level writes in front of a record.** -/
inductive RecordMark : Level → Type
  /-- Nothing at level one. -/
  | one : RecordMark .one
  /-- A class and an extension at level two. -/
  | two (kind : UInt8) (extension : VarInt.Form) : RecordMark .two

/-- **A record.** -/
structure Record (level : Level) where
  /-- What the level writes in front of it. -/
  mark : RecordMark level
  /-- The form its size is written in. -/
  size : VarInt.Form
  /-- The body. -/
  body : RecordBody level
  /-- The size is that of the body. -/
  size_eq : size.value = body.bytes.length

namespace Record

variable {level : Level} (record : Record level)

/-- The bytes in front of the body. -/
def front : List UInt8 :=
  match record.mark with
  | .one => record.body.type :: record.size.bytes
  | .two kind extension => kind :: record.body.type :: (extension.bytes ++ record.size.bytes)

/-- The bytes of the record. -/
def bytes : List UInt8 := record.front ++ record.body.bytes

/-- No record is empty. -/
theorem length_bytes_pos : 0 < record.bytes.length := by
  unfold bytes front
  rw [List.length_append]
  split <;> exact Nat.add_pos_left (Nat.succ_pos _) _

end Record

/-! ## Pictures -/

/-- **A bitmap and the palette that is loaded for it**, if there is one. -/
structure Picture (level : Level) where
  /-- The bitmap. -/
  bitmap : BitmapBody level
  /-- The palette. -/
  loaded : Option (PaletteBody level)

namespace Picture

variable {level : Level} (picture : Picture level)

/-- The colormap of a picture. -/
def HasColormap (colormap : Option Palette) : Prop :=
  Colormap.make level (picture.loaded.map PaletteBody.palette) picture.bitmap.front.depth
    = .ok colormap

/-- **The raster decoded on its own**, from the bytes of its body and into
a black image. -/
def alone (colormap : Option Palette) : Decoded Cursor PixelBuffer :=
  (picture.bitmap.format colormap).decode (.ofBytes picture.bitmap.raster.toArray)
    picture.bitmap.blank .never

/-- All rows come from the body. -/
def IsComplete : Prop :=
  ∀ colormap, picture.HasColormap colormap → (picture.alone colormap).result = .ok .complete

/-- **A frame that shows a picture.** -/
structure ShownBy (frame : Frame) : Prop where
  /-- It has the type of the record. -/
  recordType : frame.bitmap.recordType = picture.bitmap.front.type
  /-- It has the width. -/
  width : frame.bitmap.width = picture.bitmap.front.width
  /-- It has the height. -/
  height : frame.bitmap.height = picture.bitmap.front.height
  /-- It has the depth. -/
  depth : frame.bitmap.depth = picture.bitmap.front.depth
  /-- It has the colormap. -/
  colormap : picture.HasColormap frame.colormap
  /-- Its pixels are those of the raster on its own. -/
  pixels : frame.pixels = (picture.alone frame.colormap).sink
  /-- All of them come from the file. -/
  status : frame.status = .complete

end Picture

/-- **The pictures of a list of records** of which the first ones loaded a
palette, or none. A palette is for the next bitmap only, and only the last
one before it counts. -/
def picturesFrom {level : Level} :
    (loaded : Option (PaletteBody level)) → List (Record level) → List (Picture level)
  | _, [] => []
  | loaded, record :: rest =>
    match record.body with
    | .bitmap body => ⟨body, loaded⟩ :: picturesFrom none rest
    | .palette body => picturesFrom (some body) rest
    | .other .. => picturesFrom loaded rest

/-! ## Records within reach -/

/-- A record at an offset that is **within reach** if only a first part of
the file is looked at, as long as the limit says. -/
def Record.WithinReach (limit offset : Nat) : {level : Level} → Record level → Prop
  | .one, record => offset + record.bytes.length ≤ limit
  | .two, _ => offset < limit

instance (limit offset : Nat) : {level : Level} → (record : Record level) →
    Decidable (record.WithinReach limit offset)
  | .one, record => inferInstanceAs (Decidable (offset + record.bytes.length ≤ limit))
  | .two, _ => inferInstanceAs (Decidable (offset < limit))

/-- A record within reach begins there. -/
theorem Record.WithinReach.lt {limit offset : Nat} {level : Level} {record : Record level}
    (reached : record.WithinReach limit offset) : offset < limit := by
  have := record.length_bytes_pos
  cases level with
  | one =>
    have ends : offset + record.bytes.length ≤ limit := reached
    omega
  | two => exact reached

/-- The records within reach, of a list that begins at an offset. -/
def reachedFrom {level : Level} (limit : Nat) :
    (offset : Nat) → List (Record level) → List (Record level)
  | _, [] => []
  | offset, record :: rest =>
    if record.WithinReach limit offset then
      record :: reachedFrom limit (offset + record.bytes.length) rest
    else []

/-- Where nothing is looked at, no record is within reach. -/
theorem reachedFrom_of_le {level : Level} {limit offset : Nat} (beyond : limit ≤ offset)
    (records : List (Record level)) : reachedFrom limit offset records = [] := by
  cases records with
  | nil => rfl
  | cons record rest => exact if_neg fun reached => Nat.not_lt.mpr beyond reached.lt

/-- If all is looked at, all records are within reach. -/
theorem reachedFrom_eq_self {level : Level} {limit offset : Nat} {records : List (Record level)}
    (all : offset + (records.flatMap Record.bytes).length ≤ limit) :
    reachedFrom limit offset records = records := by
  induction records generalizing offset with
  | nil => rfl
  | cons record rest ih =>
    rw [List.flatMap_cons, List.length_append] at all
    have some := record.length_bytes_pos
    have reached : record.WithinReach limit offset := by
      cases level with
      | one =>
        show offset + record.bytes.length ≤ limit
        omega
      | two =>
        show offset < limit
        omega
    rw [reachedFrom, if_pos reached, ih (by omega)]

/-! ## Files -/

/-- The number of a level in file headers. -/
def Level.fileType : Level → UInt16
  | .one => 1
  | .two => 2

/-- **A file.** -/
structure WpgFile (level : Level) where
  /-- The variant of the product. -/
  variant : UInt8
  /-- The version before the point. -/
  majorVersion : UInt8
  /-- The version behind the point. -/
  minorVersion : UInt8
  /-- What lies between the header and the first record. -/
  gap : List UInt8
  /-- The records. -/
  records : List (Record level)

namespace WpgFile

variable {level : Level} (file : WpgFile level)

/-- The offset of the first record. -/
def dataOffset : Nat := 16 + file.gap.length

/-- The bytes of the header. -/
def header : List UInt8 :=
  Header.magic.toList ++ littleEndianBytes 4 file.dataOffset ++ [file.variant, 0x16]
    ++ littleEndianBytes 2 level.fileType.toNat ++ [file.majorVersion, file.minorVersion]
    ++ littleEndianBytes 2 0

/-- The bytes of the file. -/
def bytes : List UInt8 := file.header ++ file.gap ++ file.records.flatMap Record.bytes

/-- The pictures of the file. -/
def pictures : List (Picture level) := picturesFrom none file.records

/-- The records that a decoder reaches. -/
def reachedRecords : List (Record level) :=
  reachedFrom Decoder.maxFileSize file.dataOffset file.records

/-- The pictures of these records. -/
def reachedPictures : List (Picture level) := picturesFrom none file.reachedRecords

theorem length_header : file.header.length = 16 := by
  simp only [header, List.length_append, length_littleEndianBytes]
  rfl

/-- Behind the first offset come the records. -/
theorem length_bytes :
    file.bytes.length = file.dataOffset + (file.records.flatMap Record.bytes).length := by
  unfold bytes dataOffset
  rw [List.length_append, List.length_append, length_header]

/-- Of a file that is not too long, all records are reached. -/
theorem reachedRecords_eq_self (short : file.bytes.length ≤ Decoder.maxFileSize) :
    file.reachedRecords = file.records :=
  reachedFrom_eq_self (by rwa [← length_bytes])

end WpgFile

end WpgRaster
