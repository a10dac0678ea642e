import WpgRaster.Source.Reader

/-!
# Handles without an end

Not every handle knows where its end is: one that does not refuses to be moved to a place
that is measured from there. An `EndlessHandle` is a buffer over such a handle.

A short zero-filled read has to leave a source at its end. Since an endless handle cannot be
moved there, it is drained.
-/

namespace WpgRaster

/-- A handle that reads ahead from one that does not know its end. -/
structure EndlessHandle where
  /-- The handle that would be there if the end was known. -/
  bounded : BufferedHandle
  deriving DecidableEq, Repr

namespace EndlessHandle

/-- A handle on the first byte, of which nothing was read yet. -/
def ofBytes (bytes : Bytes) : EndlessHandle := ⟨.ofBytes bytes⟩

/-- What is done as if the end was known. -/
def onBounded {α : Type} (step : SourceM BufferedHandle α) : SourceM EndlessHandle α :=
  fun handle =>
    match step handle.bounded with
    | .ok a bounded => .ok a ⟨bounded⟩
    | .error err bounded => .error err ⟨bounded⟩

/-- Moves to a target, unless it is measured from the end. Nothing is dropped of what was
read ahead then. -/
def seek : SeekTarget → SourceM EndlessHandle Nat
  | .fromEnd _ => throw (.stream .noEnd)
  | .start position => onBounded (BufferedHandle.seek (.start position))
  | .current offset => onBounded (BufferedHandle.seek (.current offset))

instance : Handle EndlessHandle where
  tell handle := handle.bounded.tell
  readExact count := onBounded (BufferedHandle.readExact count)
  seek := seek

/-- The next `count` bytes, or zeros, and then the handle is moved to its end, or drained
if it cannot be moved there. -/
def takeOrZeros (count : Nat) (handle : EndlessHandle) : Bytes × EndlessHandle :=
  match Handle.takeOrRestore count handle with
  | .ok bytes handle => (bytes, handle)
  | .error _ handle =>
    match seek (.fromEnd 0) handle with
    | .ok _ handle => (Array.replicate count 0, handle)
    | .error _ handle =>
      (Array.replicate count 0,
        ⟨handle.bounded.drain (handle.bounded.inner.cursor.bytes.size + 1)⟩)

instance : ByteReader EndlessHandle where
  size handle := handle.bounded.inner.cursor.bytes.size
  position handle := handle.bounded.tell
  atEnd handle := .ok handle.bounded.fill.ahead.isEmpty
  nextOrZero := Handle.nextOrZero
  takeOrZeros := takeOrZeros
  take := Handle.takeOrRestore
  takeUpTo limit := onBounded (modifyGet (BufferedHandle.read limit))
  seek := seek
  askEnd handle := .ok handle.bounded.fill.ahead.isEmpty ⟨handle.bounded.fill⟩

end EndlessHandle

end WpgRaster
