import WpgRaster.Source.FaultyCursor
import WpgRaster.Source.Handle

/-!
# Operations of a reader

Everything that can be asked of a reader, as data: `ReaderOp.perform` carries an operation
out on any source.

The question whether the end was reached is an operation too, since it may change how a
source holds its bytes (`ByteReader.askEnd`).
-/

namespace WpgRaster

/-- A source that can be asked whether it is at its end. Asking may move bytes about inside
the source. -/
class ByteReader (σ : Type) extends ByteSource σ where
  /-- Asks whether no byte is left at the present position. -/
  askEnd : SourceM σ Bool

/-- Looks whether no byte is left, and leaves the source as it is. -/
def ByteSource.lookForEnd {σ : Type} [ByteSource σ] : SourceM σ Bool := fun source =>
  match atEnd source with
  | .ok ended => .ok ended source
  | .error err => .error err source

instance : ByteReader Cursor where
  askEnd := ByteSource.lookForEnd

instance : ByteReader FaultyCursor where
  askEnd := ByteSource.lookForEnd

instance : ByteReader ByteStream where
  askEnd := ByteSource.lookForEnd

instance : ByteReader FileHandle where
  askEnd := ByteSource.lookForEnd

/-- A buffer is filled to see whether there is anything to fill it with. -/
instance : ByteReader BufferedHandle where
  askEnd handle := .ok handle.fill.ahead.isEmpty handle.fill

/-- The order of the bytes of a number. -/
inductive ByteOrder
  /-- The least significant byte comes first. -/
  | little
  /-- The most significant byte comes first. -/
  | big
  deriving DecidableEq, Repr

/-- What can be asked of a reader. -/
inductive ReaderOp
  /-- To move forward. -/
  | skip (count : Nat)
  /-- To move backward. -/
  | rewind (count : Nat)
  /-- To move anywhere. -/
  | seek (target : SeekTarget)
  /-- To move to an absolute position. -/
  | setPosition (position : Nat)
  /-- The length of the source. -/
  | length
  /-- The next byte, or 0. -/
  | byteOrZero
  /-- The next byte. -/
  | byte
  /-- The next 16-bit number, or 0. -/
  | u16OrZero (order : ByteOrder)
  /-- The next 16-bit number. -/
  | u16 (order : ByteOrder)
  /-- The next 32-bit number, or 0. -/
  | u32OrZero (order : ByteOrder)
  /-- The next 32-bit number. -/
  | u32 (order : ByteOrder)
  /-- The next bytes, or zeros. -/
  | bytesOrZeros (count : Nat)
  /-- The next bytes, all of them. -/
  | exact (count : Nat)
  /-- Some of the next bytes. -/
  | upTo (limit : Nat)
  /-- The present position. -/
  | position
  /-- Whether the end was reached. -/
  | askEnd
  deriving DecidableEq, Repr

namespace ReaderOp

/-- What an operation answers. -/
inductive Answer
  /-- That it is done. -/
  | done
  /-- A number. -/
  | number (n : Nat)
  /-- Bytes. -/
  | bytes (bytes : Bytes)
  /-- Yes or no. -/
  | flag (yes : Bool)
  deriving DecidableEq, Repr

variable {σ : Type} [ByteReader σ]

/-- Carries an operation out. -/
def perform : ReaderOp → SourceM σ Answer
  | skip count => return .number (← ByteSource.skip count)
  | rewind count => return .number (← ByteSource.rewind count)
  | seek target => return .number (← ByteSource.seek target)
  | setPosition target => do
    ByteSource.setPosition target
    return .done
  | length => return .number (← ByteSource.length)
  | byteOrZero => return .number (← modifyGet ByteSource.nextOrZero).toNat
  | byte => return .number (← ByteSource.next).toNat
  | u16OrZero .little => return .number (← modifyGet ByteSource.u16LE).toNat
  | u16OrZero .big => return .number (← modifyGet ByteSource.u16BE).toNat
  | u16 .little => return .number (← ByteSource.nextU16LE).toNat
  | u16 .big => return .number (← ByteSource.nextU16BE).toNat
  | u32OrZero .little => return .number (← modifyGet ByteSource.u32LE).toNat
  | u32OrZero .big => return .number (← modifyGet ByteSource.u32BE).toNat
  | u32 .little => return .number (← ByteSource.nextU32LE).toNat
  | u32 .big => return .number (← ByteSource.nextU32BE).toNat
  | bytesOrZeros count => return .bytes (← modifyGet (ByteSource.takeOrZeros count))
  | exact count => return .bytes (← ByteSource.take count)
  | upTo limit => return .bytes (← ByteSource.takeUpTo limit)
  | position => return .number (ByteSource.position (← get))
  | askEnd => return .flag (← ByteReader.askEnd)

/-- Where an operation moves the source to, if it does so by a seek. A distance that is no
signed 64-bit number is refused before. -/
def target? : ReaderOp → Option SeekTarget
  | skip count => if count < Size.signedLimit then some (.current count) else none
  | rewind count => if count < Size.signedLimit then some (.current (-count)) else none
  | seek target => some target
  | setPosition target => some (.start target)
  | _ => none

end ReaderOp

end WpgRaster
