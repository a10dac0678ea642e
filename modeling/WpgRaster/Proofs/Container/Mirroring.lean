import WpgRaster.Proofs.Container.PairedDecoders
import WpgRaster.Proofs.Source.Mirrors

/-!
# Files behind sources that mirror a cursor

A file behind a source that mirrors a cursor is opened and scanned as with the
cursor (`Mirrors.opensAlike`). What is left to be shown of the source is what comes
of palettes, which are read in one partial read each. If the source is whole, then
nothing else comes of them, so that it takes the place of the cursor for good
(`Mirrors.opensAlike_of_whole`).

The sources that the standard library has are whole. So a file is decoded alike
from a cursor and from byte streams, with a buffer or without one
(`Decoder.performAll_of_stream`).
-/

namespace WpgRaster

variable {σ : Type} [ByteSource σ] {alike : SourceError → SourceError → Prop} {file : Bytes}
  {rel : σ → Cursor → Prop}

namespace Mirrors

variable (mirrors : Mirrors alike file rel)

include mirrors

/-- **A file behind a source that mirrors a cursor** is opened as with the cursor, and
walked over alike if palettes and bitmaps make no difference. -/
theorem opensAlike {tolerance : Tolerance}
    (entries : ∀ level start count, count ≠ 0 →
      Compares (Walk.scanning tolerance (HoldsFile file rel) fun _ => False)
        (Walk.Paired tolerance rel) (fun _ => Walk.Paired tolerance (HoldsFile file rel))
        (Walk.loadEntries level start count) (Walk.loadEntries level start count))
    (empty : ∀ level : Level, tolerance.palettes level.emptyPalette level.emptyPalette)
    (prepared : ∀ level bitmap palette palette', tolerance.palettes palette palette' →
      SameOutcome (Walk.RastersAlike tolerance rel (HoldsFile file rel) (fun _ => False) bitmap)
        (bitmap.prepare level palette) (bitmap.prepare level palette')) :
    Decoder.OpensAlike tolerance rel (HoldsFile file rel) (fun _ => False) alike (fun _ => False)
      file.size where
  likeness := mirrors.likeness
  weaker _ _ := mirrors.holds
  seek offset source cursor inside holds := by
    obtain ⟨source', moved, moved', there⟩ := mirrors.seek_of_holds holds (Nat.le_of_lt inside)
    exact ⟨source', _, moved, moved', .inl there⟩
  entries := entries
  empty := empty
  soon _ _ _ := id
  prepared := prepared
  start source cursor holds := by
    obtain ⟨source', moved, moved', there⟩ := mirrors.seek_of_holds holds (Nat.zero_le _)
    exact ⟨source', _, moved, moved', there⟩
  take count := (mirrors.take count).weakenFailed fun _ _ => mirrors.holds
  length :=
    { compared := fun source cursor related => by
        have results := mirrors.length.compared source cursor related
        generalize ran' : ByteSource.length cursor = result' at results
        generalize ByteSource.length source = result at results ⊢
        cases results with
        | @ok length _ cursor' behind =>
          have small := ByteSource.lt_of_length_ok ran'
          rw [ByteSource.length_eq small] at ran'
          cases ran'
          exact .ok ⟨mirrors.holds behind, Nat.le_of_eq (by rw [mirrors.bytes _ _ behind])⟩
        | error same behind => exact .error same (mirrors.holds behind)
        | fatal failed => exact failed.elim
        | late beyond => exact beyond.elim
      stays := fun _ beyond => beyond.elim }

/-- From a whole source, palettes are loaded as from the cursor. -/
theorem entries_of_whole (whole : Whole rel) (level : Level) (start count : Nat) :
    Compares (Walk.scanning {} (HoldsFile file rel) fun _ => False) (Walk.Paired {} rel)
      (fun _ => Walk.Paired {} (HoldsFile file rel)) (Walk.loadEntries level start count)
      (Walk.loadEntries level start count) := by
  have taken : Matches (.until (fun _ => False) rel) rel
      (ByteSource.takeUpTo (count * Walk.entryStride level) : SourceM σ Bytes)
      (ByteSource.takeUpTo (count * Walk.entryStride level)) := (whole _).compares
  have holds : ∀ source cursor, rel source cursor → HoldsFile file rel source cursor :=
    fun _ _ => mirrors.holds
  exact Walk.loadEntries_compares level start count
    ((taken.weaken fun _ => holds).weakenFailed holds)

/-- With the same colormap, rasters are decoded alike. -/
theorem rastersAlike (bitmap : Bitmap) (setUp : Option Palette × PixelBuffer) :
    Walk.RastersAlike {} rel (HoldsFile file rel) (fun _ => False) bitmap setUp setUp := by
  intro source cursor stop related
  have same := FrameFormat.decode_simulates mirrors.tracks.simulates (.refl PixelBuffer)
    (bitmap.format setUp.1) related (Eq.refl setUp.2) stop
  exact .inl ⟨same.result, mirrors.holds same.source, same.stop, fun status => by rw [same.sink]⟩

/-- **A whole source that mirrors a cursor takes its place.** -/
theorem opensAlike_of_whole (whole : Whole rel) :
    Decoder.OpensAlike {} rel (HoldsFile file rel) (fun _ => False) alike (fun _ => False)
      file.size :=
  mirrors.opensAlike (fun level start count _ => mirrors.entries_of_whole whole level start count)
    (fun _ => rfl) fun level bitmap palette palette' same => by
      cases same
      exact .refl (mirrors.rastersAlike bitmap) _

end Mirrors

/-! ## Byte streams -/

/-- An error, unless it comes of the source alone. -/
def WpgError.uncaused : WpgError → Option WpgError
  | .source _ => none
  | err => some err

/-- Results that are alike, with the same frames, are the same unless the source failed. -/
theorem DeliveredAlike.eq_of_uncaused {delivered delivered' : Except WpgError (Array Frame)}
    (results : DeliveredAlike alike Eq delivered delivered')
    (named : ∀ err, delivered' ≠ .error (.source err)) : delivered = delivered' := by
  cases results with
  | ok same =>
    rw [List.forall₂_eq_eq_eq] at same
    rw [Array.toList_inj.mp same]
  | error same =>
    cases same with
    | refl => rfl
    | source => exact absurd rfl (named _)

/-- Results that are alike, with the same frames, are the same but for the causes. -/
theorem DeliveredAlike.mapError_eq {delivered delivered' : Except WpgError (Array Frame)}
    (results : DeliveredAlike alike Eq delivered delivered') :
    delivered.mapError WpgError.uncaused = delivered'.mapError WpgError.uncaused := by
  cases results with
  | ok same =>
    rw [List.forall₂_eq_eq_eq] at same
    rw [Array.toList_inj.mp same]
  | error same => cases same <;> rfl

namespace Decoder

/-- **A file is decoded alike from every kind of source.** -/
theorem performAll_of_stream {file : Bytes} (short : file.size ≤ 8192) (options : Options)
    {buffering : Buffering} (bounded : buffering ≠ .bufferedUnbounded) (calls : List Call) :
    let stream := performAll { source := ByteStream.ofBytes file buffering, options } calls
    let cursor := performAll { source := Cursor.ofBytes file, options } calls
    stream.header = cursor.header ∧ stream.dimensions = cursor.dimensions
      ∧ stream.colorSpace = cursor.colorSpace ∧ stream.embedded = cursor.embedded
      ∧ ∀ call, (stream.answer call).mapError WpgError.uncaused
          = (cursor.answer call).mapError WpgError.uncaused := by
  intro stream cursor
  have small : file.size < Size.signedLimit := by
    have : 8192 < Size.signedLimit := by decide
    omega
  have mirrors := ByteStream.mirrors small
  have opens := mirrors.opensAlike_of_whole ByteStream.whole
  have stands : ByteStream.Stands file (.ofBytes file buffering) (.ofBytes file) :=
    ⟨rfl, rfl, Nat.zero_le _, bounded⟩
  have paired : Paired (HoldsFile file (ByteStream.Stands file)) file.size stream cursor :=
    opens.performAll (.ofSources (mirrors.holds stands) options) calls
  refine ⟨paired.header, paired.dimensions, paired.colorSpace, paired.embedded, fun call => ?_⟩
  exact (opens.perform paired call).1.mapError_eq

set_option maxRecDepth 4000 in
/-- A file with one bitmap is decoded through a buffer. -/
theorem performAll_of_stream_oneRow :
    let stream := performAll { source := ByteStream.ofBytes Bytes.oneRow .buffered } [.headers]
    let cursor := performAll { source := Cursor.ofBytes Bytes.oneRow } [.headers]
    Bytes.oneRow.size ≤ 8192 ∧ stream.dimensions = some (8, 1)
      ∧ (cursor.answer .decode).toOption.map Array.size = some 1
      ∧ (stream.answer .decode).mapError WpgError.uncaused
        = (cursor.answer .decode).mapError WpgError.uncaused := by
  intro stream cursor
  have short : Bytes.oneRow.size ≤ 8192 := by decide
  have found : cursor.dimensions = some (8, 1)
      ∧ (cursor.answer .decode).toOption.map Array.size = some 1 := by decide +kernel
  obtain ⟨-, dimensions, -, -, answers⟩ :=
    @performAll_of_stream Bytes.oneRow short {} .buffered nofun [.headers]
  exact ⟨short, dimensions.trans found.1, found.2, answers .decode⟩

end Decoder

end WpgRaster
