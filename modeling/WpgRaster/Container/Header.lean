import WpgRaster.Container.Error
import WpgRaster.Source.Basic

/-!
# File headers

A file begins with sixteen bytes: four that identify the format, the
offset of the first record, product and file type, the version and the
key of an encrypted file. Numbers have their least significant byte
first. The file type decides about the level, and with it about the form
of the records.
-/

namespace WpgRaster

/-- The two forms of the format. -/
inductive Level
  /-- Short records. -/
  | one
  /-- Records with a class and an extension. -/
  | two
  deriving DecidableEq, Repr

/-- The first sixteen bytes of a file. -/
structure Header where
  /-- The identification of the format. -/
  fileId : UInt32
  /-- The offset of the first record. -/
  dataOffset : UInt32
  /-- The product, in the upper byte, and its variant. -/
  productType : UInt16
  /-- The level of the file. -/
  fileType : UInt16
  /-- The version before the point. -/
  majorVersion : UInt8
  /-- The version behind the point. -/
  minorVersion : UInt8
  /-- 0 in files that are not encrypted. -/
  encryptKey : UInt16
  deriving DecidableEq, Repr

namespace Header

/-- The bytes that identify the format. -/
def magic : Bytes := #[0xFF, 0x57, 0x50, 0x43]

/-- The upper byte of the product type. -/
def product : Nat := 0x16

/-- The level of a file. -/
def level? (header : Header) : Option Level :=
  match header.fileType with
  | 1 => some .one
  | 2 => some .two
  | _ => none

/-- Whether bytes begin as a file of the format does. -/
def probe (bytes : Bytes) : Bool := bytes.extract 0 4 == magic

/-- The first thing that is wrong with a header. -/
def fault? (header : Header) : Option WpgError :=
  if header.productType.toNat / 256 ≠ product then
    some (.unsupportedProduct header.productType)
  else if header.encryptKey ≠ 0 then some (.encrypted header.encryptKey)
  else if header.level?.isNone then some (.unsupportedFileType header.fileType)
  else none

/-- Reads the number that identifies the format. -/
def readId {σ : Type} [ByteSource σ] : SourceM σ UInt32 := ByteSource.nextU32LE

/-- Whether a number is the identification of the format. -/
def isMagic (fileId : UInt32) : Bool := fileId.toNat == magic.littleEndian

/-- Reads the header behind its identification. -/
def readRest {σ : Type} [ByteSource σ] (fileId : UInt32) : SourceM σ Header := do
  let dataOffset ← ByteSource.nextU32LE
  let productType ← ByteSource.nextU16LE
  let fileType ← ByteSource.nextU16LE
  let majorVersion ← ByteSource.next
  let minorVersion ← ByteSource.next
  let encryptKey ← ByteSource.nextU16LE
  return { fileId, dataOffset, productType, fileType, majorVersion, minorVersion, encryptKey }

end Header

end WpgRaster
