import WpgRaster.Container.DefaultColors
import WpgRaster.Container.Header

/-!
# Colormaps

The colormap of a bitmap is the palette it is decoded with. It is made of
the palette that was loaded for the bitmap or, if there is none, of the
default colours of the level, and has a colour for every sample the depth
allows. Bitmaps of 16 bits and more have no colormap.
-/

namespace WpgRaster

/-- The most colours a palette of a level can have. -/
def Level.paletteCapacity : Level → Nat
  | .one => 256
  | .two => 65536

/-- A palette with nothing loaded, of the capacity of a level. -/
def Level.emptyPalette (level : Level) : Palette := .withCapacity level.paletteCapacity

namespace Colormap

/-- The gray level of a color of a linear ramp. -/
def rampLevel (colors i : Nat) : UInt8 := (i * 255 / max (colors - 1) 1).toUInt8

/-- Sets the first `count` colors of a ramp of `colors`. -/
def ramp (colors : Nat) : (count : Nat) → Palette → Except RasterError Palette
  | 0, palette => .ok palette
  | count + 1, palette => do
    let palette ← ramp colors count palette
    let level := rampLevel colors count
    palette.set count (.ofBytes level level level 255)

/-- The default colormap: named colours at level one, a ramp of grays from
black to white at level two. -/
def default (level : Level) (colors : Nat) : Except RasterError Palette :=
  match level with
  | .one => .ok (.ofRGB (defaultColors.extract 0 colors))
  | .two => ramp colors colors (.withCapacity colors)

/-- The colours a colormap begins with. -/
def base (level : Level) (loaded : Option Palette) (colors : Nat) :
    Except RasterError Palette :=
  match loaded with
  | some palette => if palette.isEmpty then default level colors else .ok palette
  | none => default level colors

/-- Whether a colormap cannot tell its two colours apart: one of them is
missing or both are black. -/
def isFlat (palette : Palette) : Bool :=
  match palette.get? 0, palette.get? 1 with
  | some first, some second => first.isBlack && second.isBlack
  | _, _ => true

/-- The colormap of two colours, with white for the second one if they
could not be told apart. -/
def repair (palette : Palette) : Except RasterError Palette :=
  if isFlat palette then do
    let palette ← palette.resize 2
    palette.set 1 (.ofBytes 255 255 255 255)
  else .ok palette

/-- The colormap of a bitmap: the loaded or default colours, and black for
the rest. -/
def make (level : Level) (loaded : Option Palette) (depth : Nat) :
    Except RasterError (Option Palette) :=
  if 16 ≤ depth ∨ depth = 0 then .ok none
  else do
    let colors := Size.values depth
    let palette ← base level loaded colors
    let palette ← if palette.count < colors then palette.resize colors else .ok palette
    let palette ← if depth = 1 then repair palette else .ok palette
    return some palette

end Colormap

end WpgRaster
