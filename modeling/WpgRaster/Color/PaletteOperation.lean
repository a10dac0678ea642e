import WpgRaster.Color.Palette

/-!
# Operations of a palette

Everything that changes a palette, as data, so that it can be asked for one thing after another.
Where an operation fails, the palette stays as it was.
-/

namespace WpgRaster

/-- What can be asked of a palette. -/
inductive PaletteOp
  /-- To forget all colours. -/
  | clear
  /-- To set one colour. -/
  | set (index : Nat) (red green blue opacity : UInt8)
  /-- To grow to a number of colours. -/
  | resize (len : Nat)
  /-- To load colours, `stride` bytes each, to the indices from `start` on. -/
  | load (start count : Nat) (data : Bytes) (stride : Nat)
  deriving DecidableEq, Repr

namespace PaletteOp

/-- The palette that an operation leads to. -/
def apply (palette : Palette) : PaletteOp → Except RasterError Palette
  | clear => .ok palette.clear
  | set index red green blue opacity => palette.set index (.ofBytes red green blue opacity)
  | resize len => palette.resize len
  | load start count data stride => palette.load start count data stride

/-- Carries an operation out. -/
def perform (op : PaletteOp) : EStateM RasterError Palette Unit := fun palette =>
  match op.apply palette with
  | .ok changed => .ok () changed
  | .error err => .error err palette

end PaletteOp

end WpgRaster
