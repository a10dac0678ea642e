import WpgRaster.Source.Basic

/-!
# Variable-length integers

Record lengths are written in one of three forms, told apart by the first
byte and the top bit of the 16-bit number behind it.

| bytes | value |
|---|---|
| `b`, `b < 0xFF` | `b` |
| `0xFF`, `w < 0x8000` | `w` |
| `0xFF`, `w ≥ 0x8000`, `v` | `(w - 0x8000) * 0x10000 + v` |

`w` and `v` are 16-bit numbers, least significant byte first. Reads are
zero-filled, so every source has a value at every position.
-/

namespace WpgRaster

/-- A variable-length integer and the length of the form it was read in. -/
structure VarInt where
  /-- The value. -/
  value : Nat
  /-- The number of bytes of the form: 1, 3 or 5. -/
  width : Nat
  deriving DecidableEq, Repr

/-- Reads a variable-length integer. -/
def VarInt.read {σ : Type} [ByteSource σ] (source : σ) : VarInt × σ :=
  let (first, source) := ByteSource.nextOrZero source
  if first.toNat < 0xFF then (⟨first.toNat, 1⟩, source)
  else
    let (word, source) := ByteSource.u16LE source
    if word.toNat < 0x8000 then (⟨word.toNat, 3⟩, source)
    else
      let (low, source) := ByteSource.u16LE source
      (⟨(word.toNat - 0x8000) * 0x10000 + low.toNat, 5⟩, source)

end WpgRaster
