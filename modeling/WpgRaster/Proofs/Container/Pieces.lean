import WpgRaster.Proofs.Container.Mirroring
import WpgRaster.Proofs.Pixel.Recoloring

/-!
# Files in pieces

A partial read may deliver less than it was asked for. A raster is gathered from as
many of them as it takes, but the entries of a palette are read only once, and what
was not delivered is taken for zeros. So a source that delivers small pieces is
never taken for another file: the same records and the same embedded files are
found, and there are as many frames, with as many rows. But palettes lose colours,
and the frames are the same if and only if their colormaps are
(`Decoder.decode_of_pieces`).
-/

namespace WpgRaster

/-- **Frames that differ in their colours only**, and not even in these if their
colormaps are the same. -/
structure Frame.Recolored (frame frame' : Frame) : Prop where
  /-- They are of the same bitmap. -/
  bitmap : frame.bitmap = frame'.bitmap
  /-- As much of it came from the file. -/
  status : frame.status = frame'.status
  /-- The images have the same measures. -/
  pixels : frame.pixels.SameMeasures frame'.pixels
  /-- The colormaps have the same shape. -/
  colormap : Option.Rel Palette.SameShape frame.colormap frame'.colormap
  /-- With the same colormap, all is the same. -/
  eq_of_colormap : frame.colormap = frame'.colormap → frame = frame'

/-- Frames may differ in their colours. -/
def Tolerance.colors : Tolerance where
  palettes palette palette' := palette.SameShape palette' ∧ 2 ≤ palette.capacity
  frames := Frame.Recolored

/-- The colormaps of the frames that were delivered. -/
def colormapsOf : Except WpgError (Array Frame) → List (Option Palette)
  | .ok frames => frames.toList.map Frame.colormap
  | .error _ => []

/-- **Only the colormaps tell the frames apart.** -/
theorem DeliveredAlike.eq_iff_of_recolored {delivered delivered' : Except WpgError (Array Frame)}
    (results : DeliveredAlike Eq Frame.Recolored delivered delivered') :
    delivered = delivered' ↔ colormapsOf delivered = colormapsOf delivered' := by
  refine ⟨congrArg colormapsOf, fun colormaps => ?_⟩
  cases results with
  | @ok frames frames' recolored =>
    change frames.toList.map Frame.colormap = frames'.toList.map Frame.colormap at colormaps
    have each : ∀ list list' : List Frame, List.Forall₂ Frame.Recolored list list' →
        list.map Frame.colormap = list'.map Frame.colormap → list = list' := by
      intro list list' recolored
      induction recolored with
      | nil => exact fun _ => rfl
      | cons first _ ih =>
        intro same
        obtain ⟨same, rest⟩ := List.cons.inj same
        rw [first.eq_of_colormap same, ih rest]
    exact congrArg Except.ok (Array.toList_inj.mp (each _ _ recolored colormaps))
  | error alike =>
    cases alike with
    | refl => rfl
    | source same => rw [same]

namespace Walk

variable {σ : Type} [ByteSource σ]

/-- Whatever the entries are read from, they are loaded into an empty palette. -/
theorem loadEntries_of_taken {level : Level} {start count : Nat} {walk : Walk σ} {bytes : Bytes}
    {source : σ}
    (taken : (ByteSource.takeUpTo (count * entryStride level) : SourceM σ Bytes) walk.source
      = .ok bytes source) :
    loadEntries level start count walk =
      match level.emptyPalette.load start count
        (bytes ++ Array.replicate (count * entryStride level - bytes.size) 0)
        (entryStride level) with
      | .ok palette => .ok () { walk with source, palette, paletteError := none }
      | .error err => .error (.raster err) { walk with source } := by
  have required : require (ByteSource.takeUpTo (count * entryStride level)) walk
      = .ok bytes { walk with source } := by
    unfold require onSource EStateM.adaptExcept
    rw [taken]
  unfold loadEntries
  dsimp only
  rw [bind_of_ok required]
  cases level.emptyPalette.load start count
    (bytes ++ Array.replicate (count * entryStride level - bytes.size) 0)
    (entryStride level) <;> rfl

end Walk

namespace Mirrors

variable {σ : Type} [ByteSource σ] {alike : SourceError → SourceError → Prop} {file : Bytes}
  {rel : σ → Cursor → Prop} (mirrors : Mirrors alike file rel)

include mirrors

/-- **Palettes keep their shape** if their entries come in pieces. -/
theorem entries_of_pieces (level : Level) (start count : Nat) :
    Compares (Walk.scanning .colors (HoldsFile file rel) fun _ => False)
      (Walk.Paired .colors rel) (fun _ => Walk.Paired .colors (HoldsFile file rel))
      (Walk.loadEntries level start count) (Walk.loadEntries level start count) where
  compared walk walk' paired := by
    have related := paired.source
    obtain ⟨got, source, taken, behind, few, there, -⟩ :=
      mirrors.takeUpTo (count * Walk.entryStride level) _ _ related
    have taken' : (ByteSource.takeUpTo (count * Walk.entryStride level) : SourceM Cursor Bytes)
        walk'.source = .ok (walk'.source.peek _) (walk'.source.advance _) := rfl
    rw [Walk.loadEntries_of_taken taken, Walk.loadEntries_of_taken taken']
    -- what was not delivered is filled up
    have size : ((walk'.source.peek got) ++ Array.replicate (count * Walk.entryStride level
          - (walk'.source.peek got).size) (0 : UInt8)).size
        = ((walk'.source.peek (count * Walk.entryStride level)) ++ Array.replicate
          (count * Walk.entryStride level
            - (walk'.source.peek (count * Walk.entryStride level)).size) (0 : UInt8)).size := by
      simp only [Array.size_append, Array.size_replicate, Cursor.size_peek]
      omega
    have away : ∀ count, HoldsFile file rel source (walk'.source.advance count) := fun _ =>
      (mirrors.holds behind).of_bytes rfl
    generalize walk'.source.peek got ++ Array.replicate (count * Walk.entryStride level
        - (walk'.source.peek got).size) (0 : UInt8) = data,
      walk'.source.peek (count * Walk.entryStride level) ++ Array.replicate
        (count * Walk.entryStride level
          - (walk'.source.peek (count * Walk.entryStride level)).size) (0 : UInt8) = data' at size ⊢
    have loaded := (Palette.SameShape.refl level.emptyPalette).load start count
      (Walk.entryStride level) size
    generalize ran : level.emptyPalette.load start count data _ = result,
      level.emptyPalette.load start count data' _ = result' at loaded ⊢
    cases loaded with
    | ok shape =>
      have room : 2 ≤ level.emptyPalette.capacity := by cases level <;> decide
      rw [← Palette.capacity_load ran] at room
      exact .ok { paired.withSource (away _) with palette := ⟨shape, room⟩, paletteError := rfl }
    | error => exact .error rfl (paired.withSource (away _))
  stays _ beyond := beyond.elim

/-- **Bitmaps are decoded alike whatever their colours are.** -/
theorem prepared_of_pieces (level : Level) (bitmap : Bitmap) {palette palette' : Palette}
    (same : palette.SameShape palette') (room : 2 ≤ palette.capacity) :
    SameOutcome (Walk.RastersAlike .colors rel (HoldsFile file rel) (fun _ => False) bitmap)
      (bitmap.prepare level palette) (bitmap.prepare level palette') := by
  unfold Bitmap.prepare
  have colormaps := Colormap.make_sameShape same room level bitmap.depth
  refine colormaps.bind fun colormap colormap' shape => ?_
  have space : (bitmap.format colormap').colorSpace = (bitmap.format colormap).colorSpace := rfl
  rw [space]
  refine (SameOutcome.refl (fun _ => rfl) _).bind fun space _ same => ?_
  cases same
  refine (SameOutcome.refl (fun _ => rfl) _).bind fun blank _ same => ?_
  cases same
  refine .ok fun source cursor stop related => .inl ?_
  have reads := mirrors.tracks.simulates
  have shape' : Option.Rel Palette.SameShape (bitmap.format colormap).palette colormap' := shape
  obtain ⟨result, behind, asked, measures⟩ :=
    FrameFormat.decode_recolored reads shape' related blank stop
  refine ⟨result, mirrors.holds behind, asked, fun status => ⟨rfl, rfl, measures, shape, ?_⟩⟩
  intro (colors : colormap = colormap')
  cases colors
  have same := FrameFormat.decode_simulates reads (.refl PixelBuffer) (bitmap.format colormap)
    related (Eq.refl blank) stop
  dsimp only
  rw [same.sink]

/-- **A source that delivers pieces takes the place of the cursor**, up to colours. -/
theorem opensAlike_of_pieces :
    Decoder.OpensAlike .colors rel (HoldsFile file rel) (fun _ => False) alike (fun _ => False)
      file.size :=
  mirrors.opensAlike (fun level start count _ => mirrors.entries_of_pieces level start count)
    (fun level => ⟨.refl _, by cases level <;> decide⟩)
    fun level bitmap _ _ same => mirrors.prepared_of_pieces level bitmap same.1 same.2

end Mirrors

namespace Decoder

/-- **A file in pieces** is decoded into the same frames but for their colours. -/
theorem decode_of_pieces {σ : Type} [ByteSource σ] {file : Bytes} {rel : σ → Cursor → Prop}
    (mirrors : Mirrors Eq file rel) {source : σ} (start : rel source (.ofBytes file))
    (options : Options) :
    let pieces : Decoder σ := { source, options }
    let whole : Decoder Cursor := { source := .ofBytes file, options }
    pieces.decode.2.embedded = whole.decode.2.embedded
      ∧ DeliveredAlike Eq Frame.Recolored pieces.decode.1 whole.decode.1
      ∧ (pieces.decode.1 = whole.decode.1
        ↔ colormapsOf pieces.decode.1 = colormapsOf whole.decode.1) := by
  intro pieces whole
  have opens := mirrors.opensAlike_of_pieces
  obtain ⟨results, behind⟩ := opens.perform (.ofSources (mirrors.holds start) options) .decode
  exact ⟨behind.embedded, results, results.eq_iff_of_recolored⟩

set_option maxRecDepth 4000 in
/-- A file without a palette is decoded alike byte by byte. -/
theorem decode_of_pieces_oneRow :
    let pieces : Decoder FaultyCursor :=
      { source := { cursor := .ofBytes Bytes.oneRow, chunk := some 1 } }
    let whole : Decoder Cursor := { source := .ofBytes Bytes.oneRow }
    Mirrors Eq Bytes.oneRow (FaultyCursor.Delivers (some 1) Bytes.oneRow)
      ∧ whole.decode.1.toOption.map Array.size = some 1 ∧ pieces.decode.1 = whole.decode.1 := by
  intro pieces whole
  have mirrors : Mirrors Eq Bytes.oneRow (FaultyCursor.Delivers (some 1) Bytes.oneRow) :=
    FaultyCursor.mirrors nofun
  have delivered : whole.decode.1.toOption.map Array.size = some 1
      ∧ colormapsOf pieces.decode.1 = colormapsOf whole.decode.1 := by decide +kernel
  exact ⟨mirrors, delivered.1, (decode_of_pieces mirrors ⟨rfl, rfl⟩ {}).2.2.mpr delivered.2⟩

set_option maxRecDepth 4000 in
/-- **Byte by byte, a palette is lost**: of its four colours red is left, and the others
are black. So the source delivers another frame than the cursor does, although it
mirrors the cursor. -/
theorem decode_of_pieces_coloredRow :
    let source : FaultyCursor := { cursor := .ofBytes Bytes.coloredRow, chunk := some 1 }
    let pieces : Decoder FaultyCursor := { source }
    let whole : Decoder Cursor := { source := .ofBytes Bytes.coloredRow }
    (∃ rel, Mirrors Eq Bytes.coloredRow rel ∧ rel source (.ofBytes Bytes.coloredRow))
      ∧ imagesOf pieces.decode.1 = [[255, 0, 0, 0, 0, 0, 0, 0, 0, 0, 0, 0]]
      ∧ imagesOf whole.decode.1 = [[255, 0, 0, 0, 255, 0, 0, 0, 255, 255, 255, 255]]
      ∧ pieces.decode.1 ≠ whole.decode.1 := by
  intro source pieces whole
  have mirrors : Mirrors Eq Bytes.coloredRow (FaultyCursor.Delivers (some 1) Bytes.coloredRow) :=
    FaultyCursor.mirrors nofun
  have lost : imagesOf pieces.decode.1 = [[255, 0, 0, 0, 0, 0, 0, 0, 0, 0, 0, 0]] := by
    decide +kernel
  have kept : imagesOf whole.decode.1
      = [[255, 0, 0, 0, 255, 0, 0, 0, 255, 255, 255, 255]] := by
    decide +kernel
  have differ : imagesOf pieces.decode.1 ≠ imagesOf whole.decode.1 := by
    rw [lost, kept]
    decide
  exact ⟨⟨_, mirrors, rfl, rfl⟩, lost, kept, fun same => differ (congrArg imagesOf same)⟩

end Decoder

end WpgRaster
