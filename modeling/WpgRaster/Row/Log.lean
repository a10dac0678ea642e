import WpgRaster.Row.Assembler

/-!
# Row logs

A `RowLog` is the simplest consumer: it keeps the rows it is given, in
the order they come, and can be told to refuse one of them.
-/

namespace WpgRaster

/-- The rows received so far. -/
structure RowLog where
  /-- Index and bytes of each row, in the order of arrival. -/
  received : Array (Nat × Bytes)
  /-- The index of the row to refuse. -/
  refused : Option Nat
  deriving DecidableEq, Repr

namespace RowLog

/-- The empty log that takes every row. -/
def empty : RowLog := ⟨#[], none⟩

/-- The empty log that refuses one row. -/
def refusing (row : Nat) : RowLog := ⟨#[], some row⟩

instance : RowConsumer RowLog where
  consume row bytes := fun log =>
    if log.refused = some row then .error .rowRefused log
    else .ok () { log with received := log.received.push (row, bytes) }

end RowLog

end WpgRaster
