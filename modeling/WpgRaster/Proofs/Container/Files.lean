import WpgRaster.Proofs.Container.Headers
import WpgRaster.Proofs.Container.Pieces
import WpgRaster.Proofs.Container.Walks

/-!
# Decoding files

The header of a file is read as it was written (`Decoder.readHeader_eq`).
Behind it the records are walked over twice: once up to the first bitmap,
and once to decode them. So what becomes of a file is the list of its
pictures (`WpgFile.decode_shows`).

Files may have any length, but a decoder looks at the first
`Decoder.maxFileSize` bytes only, one byte less than 4 GiB. A bitmap of level
one that does not end in that part of the file is not found, and neither is a
bitmap of level two that does not begin there, nor any bitmap behind it. They
are missing among the frames, without an error. If no bitmap is within reach,
then the file counts as one that has none.

This is said of every source that has the bytes of the file and delivers what
it is asked for. A palette is read at once, so that a source that delivers it
in pieces shows other colours.
-/

namespace WpgRaster

/-! ## The header -/

namespace WpgFile

variable {level : Level} (file : WpgFile level)

/-- What the header says. -/
def headerRead : Header :=
  { fileId := 0x435057FF
    dataOffset := file.dataOffset.toUInt32
    productType := (0x1600 + file.variant.toNat).toUInt16
    fileType := level.fileType
    majorVersion := file.majorVersion
    minorVersion := file.minorVersion
    encryptKey := 0 }

/-- The product type is the product, above its variant. -/
theorem toNat_productType :
    file.headerRead.productType.toNat = 0x1600 + file.variant.toNat := by
  have small := file.variant.toNat_lt
  exact UInt16.toNat_ofNat_of_lt' (show 0x1600 + file.variant.toNat < 0x10000 by omega)

theorem littleEndianBytes_productType :
    littleEndianBytes 2 file.headerRead.productType.toNat = [file.variant, 0x16] := by
  have small := file.variant.toNat_lt
  have low : (0x1600 + file.variant.toNat) % 256 = file.variant.toNat := by omega
  have high : (0x1600 + file.variant.toNat) / 256 % 256 = 0x16 := by omega
  rw [toNat_productType, littleEndianBytes, littleEndianBytes, littleEndianBytes, low, high,
    Nat.toUInt8_eq, UInt8.ofNat_toNat]
  rfl

/-- The header is written as what it says. -/
theorem header_eq (near : file.dataOffset < 0x100000000) : file.header = file.headerRead.bytes := by
  have offset : file.headerRead.dataOffset.toNat = file.dataOffset :=
    UInt32.toNat_ofNat_of_lt' near
  have known : Header.isMagic file.headerRead.fileId = true := rfl
  unfold header Header.bytes Header.restBytes Header.tail
  rw [Header.littleEndianBytes_of_isMagic known, offset, littleEndianBytes_productType]
  simp only [List.append_assoc]
  rfl

theorem level?_headerRead : file.headerRead.level? = some level := by
  cases level <;> rfl

theorem fault?_headerRead : file.headerRead.fault? = none := by
  have product : file.headerRead.productType.toNat / 256 = Header.product := by
    have small := file.variant.toNat_lt
    rw [toNat_productType]
    show _ = 0x16
    omega
  have key : file.headerRead.encryptKey = 0 := rfl
  unfold Header.fault?
  rw [if_neg (not_not_intro product), if_neg (not_not_intro key), level?_headerRead]
  rfl

/-! ## The walk -/

/-- The plan of a walk over the file. -/
def plan (headersOnly : Bool) : WalkPlan :=
  { options := Options.safe
    level
    start := file.dataOffset
    fileSize := min file.bytes.length Decoder.maxFileSize
    headersOnly }

/-- Behind the gap begin the records. -/
theorem recordsAt (headersOnly : Bool)
    (ends : ∀ record ∈ file.records.getLast?, record.body.bytes ≠ []) :
    RecordsAt (file.plan headersOnly) file.bytes.toArray file.dataOffset file.records where
  left := by
    have front : (file.header ++ file.gap).length = file.dataOffset := by
      rw [List.length_append, length_header]
      rfl
    rw [← front]
    exact List.drop_left
  fileSize := by
    rw [List.size_toArray]
    rfl
  start := Nat.le_refl _
  ends := ends

end WpgFile

namespace Decoder

variable {level : Level} {file : WpgFile level} {decoder : Decoder Cursor}

/-- **The header of a file is what was written**, wherever the source stood. -/
theorem readHeader_eq (stored : decoder.source.bytes = file.bytes.toArray)
    (near : file.dataOffset < 0x100000000) :
    readHeader decoder = .ok file.headerRead (decoder.moveTo 16) := by
  refine readHeader_of_prefix ?_ rfl file.fault?_headerRead
  rw [stored, ← WpgFile.header_eq file near]
  unfold WpgFile.bytes
  rw [List.append_assoc]
  exact List.prefix_append ..

/-! ## Walking over the file -/

/-- **A decoder that knows the header of a file.** -/
structure Knows (file : WpgFile level) (decoder : Decoder Cursor) : Prop where
  /-- It decodes the file. -/
  stored : decoder.source.bytes = file.bytes.toArray
  /-- There was room for the offset of the first record. -/
  near : file.dataOffset < 0x100000000
  /-- It knows the header. -/
  header : decoder.header = some file.headerRead
  /-- It knows how much of the file is looked at. -/
  fileSize : decoder.fileSize = min file.bytes.length maxFileSize
  /-- It accepts what is accepted by default. -/
  options : decoder.options = Options.safe

namespace Knows

variable (knows : decoder.Knows file)

include knows

/-- The walk begins at the first record. -/
theorem walk_of_ok {headersOnly : Bool} {stop : Stop} {walk' : Walk Cursor}
    (ran : Walk.run (file.plan headersOnly) (Walk.make level decoder.source stop)
      = .ok () walk') :
    decoder.walk headersOnly stop = ((.ok walk'.frames, walk'.stop), decoder.after walk') := by
  have offset : file.headerRead.dataOffset.toNat = file.dataOffset :=
    UInt32.toNat_ofNat_of_lt' knows.near
  unfold walk
  rw [knows.header]
  dsimp only
  rw [WpgFile.level?_headerRead]
  dsimp only
  rw [knows.options, knows.fileSize, offset]
  change Walk.run ⟨Options.safe, level, file.dataOffset, min file.bytes.length maxFileSize,
    headersOnly⟩ _ = _ at ran
  rw [ran]

/-- It has shown nothing by then. -/
theorem between_make (headersOnly : Bool) :
    Walk.Between (file.plan headersOnly) file.bytes.toArray [] none
      (Walk.make level decoder.source .never) where
  bytes := knows.stored
  silent _ := rfl
  palette := rfl
  sound := rfl
  frames := .nil

variable (ends : ∀ record ∈ file.records.getLast?, record.body.bytes ≠ [])

include ends

/-- **The walk for the header** goes well, and the header stays known. -/
theorem walk_headersOnly :
    ∃ frames stop decoder', decoder.walk true .never = ((.ok frames, stop), decoder')
      ∧ decoder'.Knows file := by
  have walked : ∃ walk', Walk.run (file.plan true) (Walk.make level decoder.source .never)
        = .ok () walk' ∧ walk'.source.bytes = file.bytes.toArray :=
    Walk.steps_headersOnly rfl rfl (file.recordsAt true ends) (Nat.le_refl _)
      (knows.between_make true)
  obtain ⟨walk', ran, bytes⟩ := walked
  exact ⟨walk'.frames, walk'.stop, decoder.after walk', knows.walk_of_ok ran,
    bytes, knows.near, knows.header, knows.fileSize, knows.options⟩

/-- **The walk for the bitmaps** shows the pictures within reach. -/
theorem walk_shows (complete : ∀ picture ∈ file.reachedPictures, picture.IsComplete) :
    ∃ frames stop decoder', decoder.walk false .never = ((.ok frames, stop), decoder')
      ∧ List.Forall₂ Picture.ShownBy file.reachedPictures frames.toList := by
  have here := file.recordsAt false ends
  have reached : picturesFrom none
        (reachedFrom (file.plan false).fileSize file.dataOffset file.records)
      = file.reachedPictures := congrArg (picturesFrom none) here.reachedFrom_eq
  rw [← reached] at complete ⊢
  have walked : ∃ walk', Walk.run (file.plan false) (Walk.make level decoder.source .never)
        = .ok () walk' ∧ walk'.source.bytes = file.bytes.toArray
        ∧ List.Forall₂ Picture.ShownBy (picturesFrom none
          (reachedFrom (file.plan false).fileSize file.dataOffset file.records))
          walk'.frames.toList :=
    Walk.steps_shows rfl rfl here (Nat.le_refl _) (knows.between_make false) complete
  obtain ⟨walk', ran, -, shown⟩ := walked
  exact ⟨walk'.frames, walk'.stop, decoder.after walk', knows.walk_of_ok ran, shown⟩

end Knows

/-- **The header of a file** is known once it is needed. -/
theorem decodeHeaders_eq {source : Cursor} (stored : source.bytes = file.bytes.toArray)
    (near : file.dataOffset < 0x100000000) (small : file.bytes.length < Size.signedLimit)
    (ends : ∀ record ∈ file.records.getLast?, record.body.bytes ≠ []) :
    ∃ decoder', decodeHeaders { source } = .ok () decoder' ∧ decoder'.Knows file := by
  have size : source.bytes.size = file.bytes.length := by rw [stored, List.size_toArray]
  rw [← size] at small
  have read : readHeader { source } = .ok file.headerRead (moveTo { source } 16) :=
    readHeader_eq stored near
  have measured : ByteSource.length (moveTo { source } 16).source
      = .ok source.bytes.size (moveTo { source } 16).source := ByteSource.length_eq small
  have knows : Knows file
      (told { source } (moveTo { source } 16).source file.headerRead source.bytes.size) :=
    ⟨stored, near, rfl, congrArg (min · maxFileSize) size, rfl⟩
  obtain ⟨frames, stop, decoder', walked, knows'⟩ := knows.walk_headersOnly ends
  exact ⟨_, decodeHeaders_of_walk rfl read measured walked,
    knows'.stored, knows'.near, knows'.header, knows'.fileSize, knows'.options⟩

/-- **From a cursor, a file is decoded to its pictures within reach.** -/
theorem decode_of_stored {source : Cursor} (stored : source.bytes = file.bytes.toArray)
    (near : file.dataOffset < 0x100000000) (small : file.bytes.length < Size.signedLimit)
    (ends : ∀ record ∈ file.records.getLast?, record.body.bytes ≠ [])
    (complete : ∀ picture ∈ file.reachedPictures, picture.IsComplete) :
    ∃ frames : Array Frame, List.Forall₂ Picture.ShownBy file.reachedPictures frames.toList
      ∧ (decode { source }).1 = if frames.isEmpty then .error .noImageData else .ok frames := by
  obtain ⟨decoder, decoded, knows⟩ := decodeHeaders_eq stored near small ends
  obtain ⟨frames, stop, decoder', walked, shown⟩ := knows.walk_shows ends complete
  refine ⟨frames, shown, ?_⟩
  unfold decode decodeWithStop
  rw [decoded]
  dsimp only
  rw [walked]
  dsimp only
  cases frames.isEmpty <;> rfl

/-- If all of its pictures are out of reach, then it has no image. -/
theorem decode_of_hidden {source : Cursor} (stored : source.bytes = file.bytes.toArray)
    (near : file.dataOffset < 0x100000000) (small : file.bytes.length < Size.signedLimit)
    (ends : ∀ record ∈ file.records.getLast?, record.body.bytes ≠ [])
    (hidden : file.reachedPictures = []) : (decode { source }).1 = .error .noImageData := by
  obtain ⟨frames, shown, decoded⟩ :=
    decode_of_stored stored near small ends (by rw [hidden]; nofun)
  rw [hidden] at shown
  have empty : frames = #[] := Array.toList_inj.mp (List.forall₂_nil_left_iff.mp shown)
  rw [decoded, empty]
  rfl

end Decoder

/-! ## Decoding -/

/-- **A file is decoded to its pictures within reach**: there is one frame for
every bitmap of them, in the order of the file, and it shows what its own
raster shows under the last palette since the bitmap before. If there is no
bitmap among them, then there is no image. All records of a file are within
reach if it is not longer than what is looked at. -/
theorem WpgFile.decode_shows {σ : Type} [ByteSource σ] {alike : SourceError → SourceError → Prop}
    {rel : σ → Cursor → Prop} {level : Level} (file : WpgFile level)
    (mirrors : Mirrors alike file.bytes.toArray rel) (whole : Whole rel) {source : σ}
    (start : rel source (.ofBytes file.bytes.toArray))
    (near : file.dataOffset < 0x100000000) (small : file.bytes.length < Size.signedLimit)
    (ends : ∀ record ∈ file.records.getLast?, record.body.bytes ≠ [])
    (complete : ∀ picture ∈ file.reachedPictures, picture.IsComplete) :
    (file.reachedPictures ≠ [] → ∃ frames, (Decoder.decode { source }).1 = .ok frames
        ∧ List.Forall₂ Picture.ShownBy file.reachedPictures frames.toList)
      ∧ (file.reachedPictures = [] → (Decoder.decode { source }).1 = .error .noImageData)
      ∧ (file.bytes.length ≤ Decoder.maxFileSize → file.reachedPictures = file.pictures) := by
  obtain ⟨frames, shown, decoded⟩ :=
    Decoder.decode_of_stored (show (Cursor.ofBytes file.bytes.toArray).bytes = _ from rfl) near
      small ends complete
  have count : file.reachedPictures.length = frames.size := shown.length_eq
  have same : (Decoder.decode { source }).1
      = if frames.isEmpty then .error .noImageData else .ok frames := by
    have opens := mirrors.opensAlike_of_whole whole
    have results : DeliveredAlike alike Eq (Decoder.decode { source }).1
        (Decoder.decode { source := Cursor.ofBytes file.bytes.toArray }).1 :=
      (opens.perform (.ofSources (mirrors.holds start) {}) .decode).1
    rw [decoded] at results
    refine results.eq_of_uncaused fun err => ?_
    cases frames.isEmpty <;> nofun
  refine ⟨fun drawn => ⟨frames, ?_, shown⟩, fun none => ?_, fun short =>
    congrArg (picturesFrom none) (file.reachedRecords_eq_self short)⟩
  · have some := List.length_pos_iff.mpr drawn
    rw [same, if_neg (by rw [Array.isEmpty, decide_eq_true_iff]; omega)]
  · rw [none, List.length_nil] at count
    rw [same, if_pos (by rw [Array.isEmpty, decide_eq_true_iff]; omega)]

/-- A file of level two: a record that is passed over, a palette, a bitmap
of three pixels that takes it, and a gray bitmap. -/
def WpgFile.twoBitmaps : WpgFile .two where
  variant := 1
  majorVersion := 2
  minorVersion := 0
  gap := [0, 0]
  records :=
    [{ mark := .two 0 (.byte 0 (by decide))
       size := .byte 5 (by decide)
       body := .other 0x01 [0, 0, 0, 0, 0] (by decide) (by decide)
       size_eq := rfl },
     { mark := .two 7 (.word 300 (by decide))
       size := .word 20 (by decide)
       body := .palette
         { start := 0
           entries := [#v[0, 0, 0, 255], #v[255, 0, 0, 255], #v[0, 255, 0, 255], #v[0, 0, 255, 255]]
           unused := []
           few := by decide
           fits := fun _ => by decide
           nonempty := fun _ => by decide }
       size_eq := rfl },
     { mark := .two 0 (.double 0x8001 2 (by decide))
       size := .double 0x8000 7 (by decide)
       body := .bitmap
         { front := .coded 3 1 2 0 2 .none rfl rfl
           raster := [0x1B]
           width_pos := by decide
           width_le := by decide
           height_pos := by decide
           height_le := by decide
           supported := by decide }
       size_eq := rfl },
     { mark := .two 0 (.byte 0 (by decide))
       size := .byte 8 (by decide)
       body := .bitmap
         { front := .coded 9 1 1 1 1 .second rfl rfl
           raster := [0xFE, 0]
           width_pos := by decide
           width_le := by decide
           height_pos := by decide
           height_le := by decide
           supported := by decide }
       size_eq := rfl }]

/-- Its two bitmaps become two frames. -/
theorem WpgFile.decode_shows_twoBitmaps :
    let bytes := twoBitmaps.bytes.toArray
    (Mirrors Eq bytes (Cursor.Itself bytes) ∧ Whole (Cursor.Itself bytes)
        ∧ Cursor.Itself bytes (.ofBytes bytes) (.ofBytes bytes))
      ∧ twoBitmaps.dataOffset < 0x100000000 ∧ twoBitmaps.bytes.length < Size.signedLimit
      ∧ (∀ record ∈ twoBitmaps.records.getLast?, record.body.bytes ≠ [])
      ∧ (∀ picture ∈ twoBitmaps.reachedPictures, picture.IsComplete)
      ∧ (∃ frames, (Decoder.decode { source := Cursor.ofBytes bytes }).1 = .ok frames
        ∧ List.Forall₂ Picture.ShownBy twoBitmaps.pictures frames.toList)
      ∧ twoBitmaps.pictures.map (fun picture => picture.loaded.isSome) = [true, false] := by
  intro bytes
  have short : twoBitmaps.bytes.length ≤ Decoder.maxFileSize := by decide
  have near : twoBitmaps.dataOffset < 0x100000000 := by decide
  have small : twoBitmaps.bytes.length < Size.signedLimit := by decide
  have ends : ∀ record ∈ twoBitmaps.records.getLast?, record.body.bytes ≠ [] := by
    rintro _ ⟨⟩
    decide
  have complete : ∀ picture ∈ twoBitmaps.reachedPictures, picture.IsComplete :=
    List.forall_mem_cons.mpr ⟨.of_hasColormap rfl rfl,
      List.forall_mem_cons.mpr ⟨.of_hasColormap rfl rfl, nofun⟩⟩
  obtain ⟨shown, -, all⟩ :=
    decode_shows twoBitmaps Cursor.mirrors Cursor.whole ⟨rfl, rfl⟩ near small ends complete
  have drawn : twoBitmaps.reachedPictures ≠ [] := nofun
  rw [all short] at shown drawn
  exact ⟨⟨Cursor.mirrors, Cursor.whole, rfl, rfl⟩, near, small, ends, complete, shown drawn, rfl⟩

/-- A file of level two: one pixel behind a gap. -/
def WpgFile.pixelBehind (gap : Nat) : WpgFile .two where
  variant := 1
  majorVersion := 2
  minorVersion := 0
  gap := List.replicate gap 0
  records :=
    [{ mark := .two 0 (.byte 0 (by decide))
       size := .byte 7 (by decide)
       body := .bitmap
         { front := .coded 1 1 1 0 1 .none rfl rfl
           raster := [0x80]
           width_pos := by decide
           width_le := by decide
           height_pos := by decide
           height_le := by decide
           supported := by decide }
       size_eq := rfl }]

theorem WpgFile.dataOffset_pixelBehind (gap : Nat) : (pixelBehind gap).dataOffset = 16 + gap :=
  congrArg (16 + ·) List.length_replicate

/-- A file of level one: a palette of red, green, blue and white, and a bitmap of
four pixels, one of each of the colours. -/
def WpgFile.fourColors : WpgFile .one where
  variant := 1
  majorVersion := 0
  minorVersion := 0
  gap := []
  records :=
    [{ mark := .one
       size := .byte 16 (by decide)
       body := .palette
         { start := 0
           entries := [#v[255, 0, 0], #v[0, 255, 0], #v[0, 0, 255], #v[255, 255, 255]]
           unused := []
           few := by decide
           fits := fun _ => by decide
           nonempty := nofun }
       size_eq := rfl },
     { mark := .one
       size := .byte 12 (by decide)
       body := .bitmap
         { front := .plain 4 1 2 0 0
           raster := [1, 0x1B]
           width_pos := by decide
           width_le := by decide
           height_pos := by decide
           height_le := by decide
           supported := by decide }
       size_eq := rfl }]

/-- **Pictures that are not shown.** A bitmap behind a gap of nearly 4 GiB is out
of reach, and a file without another one counts as a file without a bitmap. And
if a palette comes byte by byte, then its bitmap is shown in other colours. -/
theorem WpgFile.decode_hides_or_recolors :
    let file := pixelBehind 0xFFFFFFEF
    let bytes := fourColors.bytes.toArray
    let pieces : FaultyCursor := { cursor := .ofBytes bytes, chunk := some 1 }
    (file.dataOffset = 0xFFFFFFFF
        ∧ (∀ record ∈ file.records.getLast?, record.body.bytes ≠ [])
        ∧ file.pictures.length = 1 ∧ (∀ picture ∈ file.pictures, picture.IsComplete)
        ∧ (Decoder.decode { source := Cursor.ofBytes file.bytes.toArray }).1
          = .error .noImageData)
      ∧ (∃ rel, Mirrors Eq bytes rel ∧ rel pieces (.ofBytes bytes))
      ∧ (∀ record ∈ fourColors.records.getLast?, record.body.bytes ≠ [])
      ∧ fourColors.pictures.length = 1 ∧ (∀ picture ∈ fourColors.pictures, picture.IsComplete)
      ∧ ∃ frames, (Decoder.decode { source := pieces }).1 = .ok frames
        ∧ ¬ List.Forall₂ Picture.ShownBy fourColors.pictures frames.toList := by
  intro file bytes pieces
  constructor
  · have far : file.dataOffset = 0xFFFFFFFF := dataOffset_pixelBehind 0xFFFFFFEF
    have ends : ∀ record ∈ file.records.getLast?, record.body.bytes ≠ [] := by
      rintro _ ⟨⟩
      nofun
    have small : file.bytes.length < Size.signedLimit := by
      have behind : (file.records.flatMap Record.bytes).length = 11 := rfl
      rw [length_bytes, far, behind]
      decide
    have hidden : file.reachedPictures = [] :=
      congrArg (picturesFrom none) (reachedFrom_of_le (Nat.le_of_eq far.symm) _)
    have near : file.dataOffset < 0x100000000 := by
      rw [far]
      decide
    exact ⟨far, ends, rfl, List.forall_mem_cons.mpr ⟨.of_hasColormap rfl rfl, nofun⟩,
      Decoder.decode_of_hidden rfl near small ends hidden⟩
  · have mirrors : Mirrors Eq bytes (FaultyCursor.Delivers (some 1) bytes) :=
      FaultyCursor.mirrors nofun
    have lost : colormapsOf (Decoder.decode { source := pieces }).1
        = [some ⟨#[.ofBytes 255 0 0 255, .black, .black, .black], 256⟩] := by decide +kernel
    refine ⟨⟨_, mirrors, rfl, rfl⟩, ?_, rfl,
      List.forall_mem_cons.mpr ⟨.of_hasColormap rfl rfl, nofun⟩, ?_⟩
    · rintro _ ⟨⟩
      nofun
    cases decoded : (Decoder.decode { source := pieces }).1 with
    | error err =>
      rw [decoded] at lost
      cases lost
    | ok frames =>
      refine ⟨frames, rfl, fun shown => ?_⟩
      obtain ⟨frame, rest, first, -, delivered⟩ := List.forall₂_cons_left_iff.mp shown
      rw [decoded] at lost
      change frames.toList.map Frame.colormap = _ at lost
      rw [delivered] at lost
      have made : Colormap.make .one (some _) 2 = .ok frame.colormap := first.colormap
      rw [(List.cons.inj lost).1] at made
      exact absurd made (by decide)

end WpgRaster
