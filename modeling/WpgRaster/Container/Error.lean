import WpgRaster.Frame.Error

/-!
# What goes wrong in a file

The errors of decoding a file, by cause. `WpgError.message` words them;
an error that wraps another ends with one more line break than the one it
wraps.
-/

namespace WpgRaster

/-- What is wrong with a record. -/
inductive RecordFault
  /-- It is longer than the file. -/
  | tooLong
  /-- It is a bitmap without pixels. -/
  | zeroBitmap
  deriving DecidableEq, Repr

/-- A side of a bitmap. -/
inductive Side
  /-- Its width. -/
  | width
  /-- Its height. -/
  | height
  deriving DecidableEq, Repr

/-- The errors of decoding a file. -/
inductive WpgError
  /-- The file does not begin as it should. -/
  | invalidMagic
  /-- The file belongs to another product. -/
  | unsupportedProduct (product : UInt16)
  /-- The file is encrypted. -/
  | encrypted (key : UInt16)
  /-- The file is of neither level. -/
  | unsupportedFileType (fileType : UInt16)
  /-- A record is malformed. -/
  | improperRecord (fault : RecordFault)
  /-- A bitmap exceeds the limits of the options. -/
  | tooLarge (side : Side) (limit found : Nat)
  /-- No bitmap could be decoded. -/
  | noImageData
  /-- Records were asked for before the header was read. -/
  | headerMissing
  /-- A bitmap could not be decoded. -/
  | raster (err : RasterError)
  /-- The source failed. -/
  | source (err : SourceError)
  deriving DecidableEq, Repr

/-- The wording of a fault. -/
def RecordFault.text : RecordFault → String
  | .tooLong => "Record length exceeds file size"
  | .zeroBitmap => "Zero bitmap dimensions"

/-- The name of a side. -/
def Side.text : Side → String
  | .width => "width"
  | .height => "height"

/-- The upper-case digit of a number below 16. -/
def hexDigit (value : Nat) : Char := "0123456789ABCDEF".toList[value]?.getD '0'

/-- A 16-bit number in four hexadecimal digits. -/
def hexWord (value : UInt16) : String :=
  String.ofList ('0' :: 'x' ::
    [4096, 256, 16, 1].map fun place => hexDigit (value.toNat / place % 16))

namespace WpgError

/-- The lines that describe an error. -/
def message : WpgError → String
  | invalidMagic => "Invalid magic bytes, file does not start with \\xFFWPC\n"
  | unsupportedProduct product =>
    "Unsupported product type " ++ hexWord product ++ ", expected 0x16XX\n"
  | encrypted key =>
    "Encrypted WPG files are not supported, key " ++ hexWord key ++ "\n"
  | unsupportedFileType fileType =>
    "Unsupported WPG file type " ++ toString fileType.toNat ++ ", expected 1 or 2\n"
  | improperRecord fault => "Improper image header: " ++ fault.text ++ "\n"
  | tooLarge side limit found =>
    "Too large dimensions for " ++ side.text ++ " , " ++ toString found
      ++ " exceeds " ++ toString limit ++ "\n"
  | noImageData => "No raster data found in file\n"
  | headerMissing => "Headers not decoded\n"
  | raster err => err.message ++ "\n"
  | source err => err.message ++ "\n"

end WpgError

end WpgRaster
