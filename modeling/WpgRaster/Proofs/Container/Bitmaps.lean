import WpgRaster.Proofs.Container.Colors
import WpgRaster.Proofs.Container.Settling
import WpgRaster.Proofs.Frame.Advance
import WpgRaster.Proofs.Frame.Truncation
import WpgRaster.Proofs.Source.Lawful

/-!
# Bitmap records

What stands in front of a raster is read as the bitmap that it describes
(`BitmapFront.Describes`). The raster is then decoded where it lies, with
the rest of the file behind it; since it is complete on its own, that makes
no difference. So the bitmap becomes a frame that shows the picture
(`Walk.decodeBitmap_shows`).
-/

namespace WpgRaster

/-! ## Reading -/

/-- **A bitmap that is described** by what stands in front of its raster. -/
structure BitmapFront.Describes {level : Level} (front : BitmapFront level) (bitmap : Bitmap) :
    Prop where
  /-- It has the type of the record. -/
  recordType : bitmap.recordType = front.type
  /-- It has the width. -/
  width : bitmap.width = front.width
  /-- It has the height. -/
  height : bitmap.height = front.height
  /-- It has the depth. -/
  depth : bitmap.depth = front.depth
  /-- It has the compression. -/
  compression : bitmap.compression = front.compression

namespace Bitmap

theorem word_parses (value : UInt16) :
    Parses (word : EStateM WpgError Cursor UInt16) (wordBytes [value]) value :=
  ByteSource.u16LE_parses value

theorem byte_parses (value : UInt8) :
    Parses (byte : EStateM WpgError Cursor UInt8) [value] value :=
  ByteSource.nextOrZero_parses value

theorem readSize_parses {width height : UInt16} (width_pos : 0 < width.toNat)
    (height_pos : 0 < height.toNat) :
    Parses (readSize : EStateM WpgError Cursor (Nat × Nat)) (wordBytes [width, height])
      (width.toNat, height.toNat) := by
  have some : ¬ (width = 0 ∨ height = 0) := by
    rintro (rfl | rfl)
    · exact Nat.lt_irrefl 0 width_pos
    · exact Nat.lt_irrefl 0 height_pos
  exact (word_parses width).bind ((word_parses height).bind (.guard some (.pure _)))

variable {width height : UInt16} (width_pos : 0 < width.toNat) (height_pos : 0 < height.toNat)

include width_pos height_pos

/-- **Plain bitmaps are read.** -/
theorem readPlain_parses (depth horizontal vertical : UInt16) :
    let front := BitmapFront.plain width height depth horizontal vertical
    ∃ bitmap, Parses (readPlain : EStateM WpgError Cursor Bitmap) front.bytes bitmap
      ∧ front.Describes bitmap := by
  refine ⟨_, (readSize_parses width_pos height_pos).bind ((word_parses depth).bind
    ((word_parses horizontal).bind ((word_parses vertical).bind (.pure _)))), ?_⟩
  exact ⟨rfl, rfl, rfl, rfl, rfl⟩

/-- **Placed bitmaps are read.** -/
theorem readPlaced_parses (turn left bottom right top depth horizontal vertical : UInt16) :
    let front := BitmapFront.placed turn left bottom right top width height depth horizontal
      vertical
    ∃ bitmap, Parses (readPlaced : EStateM WpgError Cursor Bitmap) front.bytes bitmap
      ∧ front.Describes bitmap := by
  refine ⟨_, (word_parses turn).bind ((word_parses left).bind ((word_parses bottom).bind
    ((word_parses right).bind ((word_parses top).bind ((readSize_parses width_pos height_pos).bind
    ((word_parses depth).bind ((word_parses horizontal).bind ((word_parses vertical).bind
    (.pure _))))))))), ?_⟩
  exact ⟨rfl, rfl, rfl, rfl, rfl⟩

/-- **Bitmaps of level two are read** if their codes are known. -/
theorem readCoded_parses (transform : Transform) {depthCode compressionCode : UInt8} {depth : Nat}
    {compression : Compression} (depth_eq : depthOf depthCode = some depth)
    (compression_eq : compressionOf compressionCode = some compression) :
    let front := BitmapFront.coded width height depthCode compressionCode depth compression depth_eq
      compression_eq
    ∃ bitmap, Parses (readCoded transform : EStateM WpgError Cursor (Option Bitmap)) front.bytes
        (some bitmap)
      ∧ front.Describes bitmap := by
  let bitmap : Bitmap :=
    { recordType := codedBitmapType
      width := width.toNat
      height := height.toNat
      depth
      compression
      resolution := none
      placement := none
      orientation := transform.orientation }
  refine ⟨bitmap, ?_, ⟨rfl, rfl, rfl, rfl, rfl⟩⟩
  refine (readSize_parses width_pos height_pos).bind ((byte_parses depthCode).bind
    ((byte_parses compressionCode).bind ?_))
  rw [compression_eq, depth_eq]
  exact .pure _

end Bitmap

/-! ## Decoding -/

namespace BitmapFront.Describes

variable {level : Level} {body : BitmapBody level} {bitmap : Bitmap}

/-- The format of the raster is known. -/
theorem format_eq (describes : body.front.Describes bitmap) (colormap : Option Palette) :
    bitmap.format colormap = body.format colormap := by
  unfold Bitmap.format BitmapBody.format
  rw [describes.width, describes.height, describes.depth, describes.compression]

/-- Nothing is said against the bitmap. -/
theorem bitmapFault?_eq (describes : body.front.Describes bitmap) :
    Walk.bitmapFault? Options.safe bitmap = none := by
  have shallow : body.front.depth ≤ 24 := by
    have supported := Bitmap.mem_supportedDepths.mp body.supported
    omega
  unfold Walk.bitmapFault?
  rw [describes.width, describes.height, describes.depth, if_neg (Nat.not_lt.mpr shallow),
    if_neg (Nat.not_lt.mpr body.width_le), if_neg (Nat.not_lt.mpr body.height_le)]

end BitmapFront.Describes

namespace Picture

variable {level : Level} (picture : Picture level)

/-- The palette that is loaded when the bitmap is met. -/
def palette : Palette := (picture.loaded.map PaletteBody.palette).getD level.emptyPalette

/-- A picture has a colormap, and it is made of the palette that is loaded. -/
theorem exists_colormap :
    ∃ colormap, picture.HasColormap colormap
      ∧ Colormap.make level (some picture.palette) picture.bitmap.front.depth = .ok colormap := by
  obtain ⟨bitmap, loaded⟩ := picture
  cases loaded with
  | none =>
    obtain ⟨colormap, made⟩ := Colormap.exists_make level none nofun bitmap.supported
    exact ⟨colormap, made, (Colormap.make_emptyPalette level _).trans made⟩
  | some body =>
    have capacity : ∀ palette ∈ some body.palette, palette.capacity = level.paletteCapacity := by
      rintro _ ⟨⟩
      exact body.capacity_palette
    obtain ⟨colormap, made⟩ := Colormap.exists_make level (some body.palette) capacity
      bitmap.supported
    exact ⟨colormap, made, made⟩

variable {picture}

/-- There is no other colormap to be tried. -/
theorem IsComplete.of_hasColormap {colormap : Option Palette} (has : picture.HasColormap colormap)
    (complete : (picture.alone colormap).result = .ok .complete) : picture.IsComplete := by
  intro other has'
  have same : colormap = other := Except.ok.inj (has.symm.trans has')
  exact same ▸ complete

/-- **A complete raster is decoded where it lies** as it is on its own. -/
theorem IsComplete.decode_eq (complete : picture.IsComplete) {colormap : Option Palette}
    (has : picture.HasColormap colormap) {cursor : Cursor} {more : List UInt8}
    (left : cursor.rest = picture.bitmap.raster ++ more) {stop : Stop} (silent : stop.Silent) :
    let decoded := (picture.bitmap.format colormap).decode cursor picture.bitmap.blank stop
    decoded.result = .ok .complete ∧ decoded.sink = (picture.alone colormap).sink
      ∧ decoded.source.bytes = cursor.bytes ∧ decoded.stop.Silent := by
  have supplies := (Cursor.ofBytes picture.bitmap.raster.toArray).supplies
  have supplies' := cursor.supplies
  rw [left] at supplies'
  obtain ⟨result, sink⟩ := FrameFormat.decode_of_complete (fun _ => rfl) silent supplies supplies'
    (complete colormap has)
  have answer := (picture.bitmap.format colormap).answer_decode cursor picture.bitmap.blank stop
  have bytes := Cursor.sameFile_iff.mp
    ((picture.bitmap.format colormap).decode_sameFile cursor picture.bitmap.blank stop)
  exact ⟨result, sink, bytes, fun asked => by rw [answer]; exact silent asked⟩

end Picture

namespace Walk

variable {plan : WalkPlan}

/-- **A bitmap becomes the frame that shows it.** -/
theorem decodeBitmap_shows {picture : Picture plan.level} (complete : picture.IsComplete)
    {bitmap : Bitmap} (describes : picture.bitmap.front.Describes bitmap) {walk : Walk Cursor}
    (palette : walk.palette = picture.palette) (sound : walk.paletteError = none)
    (silent : walk.stop.Silent) {more : List UInt8}
    (left : walk.source.rest = picture.bitmap.raster ++ more) :
    ∃ frame source stop,
      decodeBitmap plan bitmap walk = .ok frame { walk with
        source, stop, palette := plan.level.emptyPalette, paletteError := none }
      ∧ picture.ShownBy frame ∧ source.bytes = walk.source.bytes ∧ stop.Silent := by
  obtain ⟨colormap, has, made⟩ := picture.exists_colormap
  obtain ⟨result, sink, bytes, silent'⟩ := complete.decode_eq has left silent
  rw [← palette, ← describes.depth] at made
  have space := picture.bitmap.colorSpace_format colormap
  rw [← describes.format_eq] at space
  have blank := picture.bitmap.make_blank
  rw [← describes.width, ← describes.height] at blank
  have shown : picture.ShownBy ⟨bitmap, _, colormap, .complete⟩ :=
    { recordType := describes.recordType
      width := describes.width
      height := describes.height
      depth := describes.depth
      colormap := has
      pixels := sink
      status := rfl }
  have prepared : bitmap.prepare plan.level walk.palette
      = .ok (colormap, picture.bitmap.blank) := by
    unfold Bitmap.prepare
    rw [made]
    dsimp only [bind, Except.bind]
    rw [space]
    dsimp only
    rw [blank]
    rfl
  refine ⟨_, _, _, ?_, shown, bytes, silent'⟩
  rw [decodeBitmap_eq, sound, prepared]
  dsimp only
  rw [describes.format_eq, result]
  rfl

end Walk

end WpgRaster
