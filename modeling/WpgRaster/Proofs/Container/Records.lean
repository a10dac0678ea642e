import WpgRaster.Proofs.Container.Bitmaps
import WpgRaster.Proofs.Container.Settling

/-!
# Handling records

What handling a record does to a walk. A palette is loaded
(`Walk.handle_palette`). A bitmap is read (`Walk.handle_bitmap`), and then
becomes a frame and takes the palette with it (`Walk.handleBitmap_shows`) or
ends a walk for the header (`Walk.handleBitmap_headersOnly`). Records of other
types leave alone everything that frames depend on (`Walk.handle_other`). Where
the source ends up does not matter, since the next record is sought by its
offset.
-/

namespace WpgRaster

namespace Walk

/-! ## Steps of a walk -/

/-- A walk whose source was moved to a position. -/
def moveTo (walk : Walk Cursor) (position : Nat) : Walk Cursor :=
  { walk with source := ⟨walk.source.bytes, position⟩ }

section

variable {walk : Walk Cursor} {position : Nat} {bytes rest : List UInt8}

/-- Behind the bytes comes the rest. -/
theorem rest_moveTo_append (left : (walk.moveTo position).source.rest = bytes ++ rest) :
    (walk.moveTo (position + bytes.length)).source.rest = rest :=
  Cursor.rest_advance_append left

variable {α : Type} {a : α}

/-- What is parsed of a source is parsed of a walk. -/
theorem onSource_parses {step : EStateM WpgError Cursor α} (parses : Parses step bytes a)
    (left : (walk.moveTo position).source.rest = bytes ++ rest) :
    onSource step (walk.moveTo position) = .ok a (walk.moveTo (position + bytes.length)) := by
  unfold onSource
  rw [parses _ rest left]
  rfl

theorem require_parses {step : SourceM Cursor α} (parses : Parses step bytes a)
    (left : (walk.moveTo position).source.rest = bytes ++ rest) :
    require step (walk.moveTo position) = .ok a (walk.moveTo (position + bytes.length)) := by
  unfold require onSource EStateM.adaptExcept
  rw [parses _ rest left]
  rfl

theorem attempt_parses {step : SourceM Cursor α} (parses : Parses step bytes a)
    (left : (walk.moveTo position).source.rest = bytes ++ rest) :
    attempt step (walk.moveTo position) = .ok (some a) (walk.moveTo (position + bytes.length)) := by
  unfold attempt
  rw [parses _ rest left]
  rfl

end

/-- **Walks between which no frame makes a difference**: of one file, with
the same palette and the same frames. -/
structure Alike (walk walk' : Walk Cursor) : Prop where
  /-- The file is the same. -/
  bytes : walk'.source.bytes = walk.source.bytes
  /-- The stop is the same. -/
  stop : walk'.stop = walk.stop
  /-- The palette is the same. -/
  palette : walk'.palette = walk.palette
  /-- Palettes could be loaded as before. -/
  paletteError : walk'.paletteError = walk.paletteError
  /-- The frames are the same. -/
  frames : walk'.frames = walk.frames

namespace Alike

variable {walk walk' walk'' : Walk Cursor}

theorem refl (walk : Walk Cursor) : Alike walk walk := ⟨rfl, rfl, rfl, rfl, rfl⟩

theorem trans (first : Alike walk walk') (second : Alike walk' walk'') : Alike walk walk'' where
  bytes := second.bytes.trans first.bytes
  stop := second.stop.trans first.stop
  palette := second.palette.trans first.palette
  paletteError := second.paletteError.trans first.paletteError
  frames := second.frames.trans first.frames

/-- A read does not concern frames. -/
theorem of_read {α : Type} {read : Cursor → α × Cursor}
    (same : ∀ source, SameFile source (read source).2) (walk : Walk Cursor) :
    ∃ a walk', Walk.read read walk = .ok a walk' ∧ Alike walk walk' :=
  ⟨(read walk.source).1, { walk with source := (read walk.source).2 }, rfl,
    Cursor.sameFile_iff.mp (same walk.source), rfl, rfl, rfl, rfl⟩

/-- Noting an embedded file does not either. -/
theorem of_note (recordType : UInt8) (body length skip : Nat) (walk : Walk Cursor) :
    ∃ walk', note recordType body length skip walk = .ok () walk' ∧ Alike walk walk' := by
  unfold note
  cases EmbeddedFile.inBody recordType body length skip with
  | some file => exact ⟨_, rfl, rfl, rfl, rfl, rfl, rfl⟩
  | none => exact ⟨walk, rfl, .refl walk⟩

end Alike

/-! ## Records of other types -/

/-- Handles a record of the level of a walk. -/
def handle (plan : WalkPlan) (recordType : UInt8) (body length : Nat) : WalkM Cursor Bool :=
  match plan.level with
  | .one => handleOne plan recordType body length
  | .two => handleTwo plan recordType body length

theorem handleOne_other (plan : WalkPlan) {type : UInt8} (passed : type ≠ Level.one.paletteType)
    (passed' : type ∉ Level.one.bitmapTypes) (body length : Nat) (walk : Walk Cursor) :
    ∃ walk', handleOne plan type body length walk = .ok true walk' ∧ Alike walk walk' := by
  have noted : ∀ skip, ∃ walk',
      (do note type body length skip; return true : WalkM Cursor Bool) walk = .ok true walk'
        ∧ Alike walk walk' := by
    intro skip
    obtain ⟨walk', noted, alike⟩ := Alike.of_note type body length skip walk
    exact ⟨walk', bind_of_ok noted, alike⟩
  unfold handleOne
  split
  · exact absurd (by decide) passed'
  · exact absurd (by decide) passed'
  · exact absurd rfl passed
  · exact noted 8
  · exact noted 0x3C
  · exact ⟨walk, rfl, .refl walk⟩

theorem handleTwo_other (plan : WalkPlan) {type : UInt8} (passed : type ≠ Level.two.paletteType)
    (passed' : type ∉ Level.two.bitmapTypes) (body length : Nat) (walk : Walk Cursor) :
    ∃ walk', handleTwo plan type body length walk = .ok true walk' ∧ Alike walk walk' := by
  unfold handleTwo
  split
  · -- the precision of positions
    obtain ⟨_, walk₁, read₁, alike₁⟩ := Alike.of_read ByteSource.u16LE_sameFile walk
    obtain ⟨_, walk₂, read₂, alike₂⟩ := Alike.of_read ByteSource.u16LE_sameFile walk₁
    obtain ⟨precision, walk₃, read₃, alike₃⟩ :=
      Alike.of_read LawfulByteSource.nextOrZero_sameFile walk₂
    rw [bind_of_ok read₁, bind_of_ok read₂, bind_of_ok read₃]
    exact ⟨_, rfl, (alike₁.trans alike₂).trans ⟨alike₃.bytes, alike₃.stop, alike₃.palette,
      alike₃.paletteError, alike₃.frames⟩⟩
  · exact absurd rfl passed
  · exact absurd (by decide) passed'
  · obtain ⟨skip, walk₁, read₁, alike₁⟩ := Alike.of_read ByteSource.u16LE_sameFile walk
    obtain ⟨walk₂, noted, alike₂⟩ :=
      Alike.of_note 0x12 (body + 2) (length - 2) skip.toNat walk₁
    rw [bind_of_ok read₁, bind_of_ok noted]
    exact ⟨walk₂, rfl, alike₁.trans alike₂⟩
  · -- a transform
    obtain ⟨transform, walk₁, read₁, alike₁⟩ :=
      Alike.of_read (Transform.read_sameFile walk.precision) walk
    have got : (get : WalkM Cursor (Walk Cursor)) walk = .ok walk walk := rfl
    rw [bind_of_ok got, bind_of_ok read₁]
    exact ⟨_, rfl, alike₁.bytes, alike₁.stop, alike₁.palette, alike₁.paletteError, alike₁.frames⟩
  · exact ⟨walk, rfl, .refl walk⟩

/-- **Records of other types do not concern frames.** -/
theorem handle_other (plan : WalkPlan) {type : UInt8} (passed : type ≠ plan.level.paletteType)
    (passed' : type ∉ plan.level.bitmapTypes) (body length : Nat) (walk : Walk Cursor) :
    ∃ walk', handle plan type body length walk = .ok true walk' ∧ Alike walk walk' := by
  unfold handle
  cases level : plan.level with
  | one =>
    rw [level] at passed passed'
    exact handleOne_other plan passed passed' body length walk
  | two =>
    rw [level] at passed passed'
    exact handleTwo_other plan passed passed' body length walk

/-! ## Palettes -/

section

variable {level : Level} (body : PaletteBody level) {walk : Walk Cursor} {position : Nat}
  {rest : List UInt8}

/-- Nothing is wrong with the palette of a record. -/
theorem paletteFault?_eq (some : body.entries ≠ []) :
    paletteFault? level body.bytes.length body.start.toNat body.entries.length = none := by
  have fits := body.fits some
  have length : 4 + body.entries.length * entryStride level ≤ body.bytes.length := by
    unfold PaletteBody.bytes
    rw [List.length_append, List.length_append, List.length_append, body.length_data,
      length_littleEndianBytes, length_littleEndianBytes]
    omega
  have available : ¬ (level = .two ∧ (body.bytes.length - 4) / 4 < body.entries.length) := by
    rintro ⟨rfl, few⟩
    change 4 + body.entries.length * 4 ≤ _ at length
    omega
  unfold paletteFault?
  dsimp only
  rw [if_neg available, if_neg (Nat.not_lt.mpr fits)]

/-- The entries of a record are loaded from where they lie. -/
theorem loadEntries_eq (some : body.entries ≠ [])
    (left : (walk.moveTo position).source.rest = body.data ++ rest) :
    loadEntries level body.start.toNat body.entries.length (walk.moveTo position)
      = .ok () { walk.moveTo (position + body.data.length) with
          palette := body.palette, paletteError := none } := by
  have taken := require_parses (Cursor.takeUpTo_parses body.data) left
  rw [body.length_data] at taken
  have filled : body.data.toArray
      ++ Array.replicate (body.entries.length * entryStride level - body.data.toArray.size) 0
      = body.data.toArray := by
    rw [List.size_toArray, body.length_data, Nat.sub_self]
    exact Array.append_empty
  unfold loadEntries
  dsimp only
  rw [bind_of_ok taken, filled, body.load_eq some, body.length_data]
  rfl

/-- **A palette record is read.** -/
theorem readPalette_eq (left : (walk.moveTo position).source.rest = body.bytes ++ rest)
    (sound : walk.paletteError = none) :
    ∃ position', readPalette level body.bytes.length (walk.moveTo position)
      = .ok () { walk.moveTo position' with palette := body.palette, paletteError := none } := by
  have count : body.entries.length.toUInt16.toNat = body.entries.length :=
    UInt16.toNat_ofNat_of_lt' body.few
  have left' : (walk.moveTo position).source.rest = littleEndianBytes 2 body.start.toNat
      ++ (littleEndianBytes 2 body.entries.length.toUInt16.toNat
        ++ (body.data ++ (body.unused ++ rest))) := by
    rw [left, count]
    simp only [PaletteBody.bytes, List.append_assoc]
  have behind := rest_moveTo_append left'
  have read := onSource_parses (ByteSource.u16LE_parses body.start) left'
  have read' := onSource_parses (ByteSource.u16LE_parses body.entries.length.toUInt16) behind
  have last := rest_moveTo_append behind
  unfold readPalette Walk.read
  rw [bind_of_ok read, bind_of_ok read', count]
  by_cases none : body.entries = []
  · have empty : body.palette = level.emptyPalette := if_pos none
    have one : level ≠ .two := fun two => body.nonempty two none
    rw [none, List.length_nil, if_pos rfl, if_neg one, empty, ← sound]
    exact ⟨_, rfl⟩
  · have some : body.entries.length ≠ 0 := fun zero => none (List.eq_nil_of_length_eq_zero zero)
    rw [if_neg some, paletteFault?_eq body none]
    exact ⟨_, loadEntries_eq body none last⟩

end

/-- **A palette record loads its palette.** -/
theorem handle_palette {plan : WalkPlan} (body : PaletteBody plan.level) {walk : Walk Cursor}
    {position : Nat} {rest : List UInt8}
    (left : (walk.moveTo position).source.rest = body.bytes ++ rest)
    (sound : walk.paletteError = none) :
    ∃ position', handle plan plan.level.paletteType position body.bytes.length
        (walk.moveTo position)
      = .ok true { walk.moveTo position' with palette := body.palette, paletteError := none } := by
  obtain ⟨position', loaded⟩ := readPalette_eq body left sound
  refine ⟨position', ?_⟩
  unfold handle
  obtain ⟨options, level, start, fileSize, headersOnly⟩ := plan
  cases level with
  | one => exact bind_of_ok loaded
  | two => exact bind_of_ok loaded

/-! ## Bitmaps -/

/-- **A bitmap record is read** and then handled as the bitmap that its front
describes. -/
theorem handle_bitmap {plan : WalkPlan} (body : BitmapBody plan.level) {walk : Walk Cursor}
    {position : Nat} {rest : List UInt8}
    (left : (walk.moveTo position).source.rest = body.bytes ++ rest) :
    ∃ bitmap, body.front.Describes bitmap
      ∧ handle plan body.front.type position body.bytes.length (walk.moveTo position)
        = handleBitmap plan bitmap (walk.moveTo (position + body.front.bytes.length)) := by
  unfold BitmapBody.bytes at left
  rw [List.append_assoc] at left
  unfold handle
  obtain ⟨options, level, start, fileSize, headersOnly⟩ := plan
  obtain ⟨front, raster, width_pos, width_le, height_pos, height_le, supported⟩ := body
  dsimp only at left width_pos height_pos ⊢
  cases front with
  | plain width height depth horizontal vertical =>
    obtain ⟨bitmap, parses, describes⟩ :=
      Bitmap.readPlain_parses width_pos height_pos depth horizontal vertical
    exact ⟨bitmap, describes, bind_of_ok (onSource_parses parses left)⟩
  | placed turn left' bottom right top width height depth horizontal vertical =>
    obtain ⟨bitmap, parses, describes⟩ :=
      Bitmap.readPlaced_parses width_pos height_pos turn left' bottom right top depth horizontal
        vertical
    exact ⟨bitmap, describes, bind_of_ok (onSource_parses parses left)⟩
  | coded width height depthCode compressionCode depth compression depth_eq compression_eq =>
    obtain ⟨bitmap, parses, describes⟩ :=
      Bitmap.readCoded_parses width_pos height_pos walk.transform depth_eq compression_eq
    exact ⟨bitmap, describes, bind_of_ok (onSource_parses parses left)⟩

section

variable {plan : WalkPlan} {body : BitmapBody plan.level} {bitmap : Bitmap}
  (options : plan.options = Options.safe) (describes : body.front.Describes bitmap)

include options describes

/-- A walk for the header ends at a bitmap. -/
theorem handleBitmap_headersOnly (headersOnly : plan.headersOnly = true) (walk : Walk Cursor) :
    handleBitmap plan bitmap walk = .ok false { walk with firstBitmap := some bitmap } := by
  refine handleBitmap_eq_ok.mpr ⟨?_, .takenDown headersOnly⟩
  rw [options]
  exact describes.bitmapFault?_eq

/-- **Another walk decodes the bitmap** and goes on. -/
theorem handleBitmap_shows (headersOnly : plan.headersOnly = false)
    {loaded : Option (PaletteBody plan.level)} (complete : (⟨body, loaded⟩ : Picture _).IsComplete)
    {walk : Walk Cursor} (palette : walk.palette = (⟨body, loaded⟩ : Picture _).palette)
    (sound : walk.paletteError = none) (silent : walk.stop.Silent) {more : List UInt8}
    (left : walk.source.rest = body.raster ++ more) :
    ∃ frame source stop, handleBitmap plan bitmap walk = .ok true { walk with
        source, stop, palette := plan.level.emptyPalette, paletteError := none
        frames := walk.frames.push frame }
      ∧ (⟨body, loaded⟩ : Picture _).ShownBy frame ∧ source.bytes = walk.source.bytes
      ∧ stop.Silent := by
  obtain ⟨frame, source, stop, decoded, shown, bytes, silent'⟩ :=
    decodeBitmap_shows complete describes palette sound silent left
  refine ⟨frame, source, stop, ?_, shown, bytes, silent'⟩
  have fault : bitmapFault? plan.options bitmap = none := by
    rw [options]
    exact describes.bitmapFault?_eq
  have handled : Handled plan bitmap walk plan.options.allFrames _ := .delivered headersOnly decoded
  rw [options] at handled
  exact handleBitmap_eq_ok.mpr ⟨fault, handled⟩

end

end Walk

end WpgRaster
