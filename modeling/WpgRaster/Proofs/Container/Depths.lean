import WpgRaster.Proofs.Container.Colormaps
import WpgRaster.Proofs.Container.Repetition
import WpgRaster.Proofs.Container.WellFormed

/-!
# Depths that are not supported

The depth of a bitmap is looked at three times before its raster is read: a bitmap of more than 24
bits is no bitmap of the file, a colormap is made for one of less than 16 bits, and only then its
colour space is asked for, which just the supported depths have. Each of the first and the last
say that the depth is not supported. The colormap comes between them, and at level one a palette
has 256 colours at most. So a bitmap of nine to fifteen bits fails for a palette that has no room,
whatever was loaded for it, and not for its depth (`Decoder.decode_unsupportedDepth`).
-/

namespace WpgRaster

/-! ## Colormaps without room -/

namespace PaletteRecord

variable {level : Level} {records : List PaletteRecord}

/-- **Records without faults hand a palette over**, which is not larger than its level allows. -/
theorem handed_of_sound (sound : ∀ record ∈ records, record.fault? level = none) :
    ∃ palette, handed level records = .ok palette ∧ palette.capacity = level.paletteCapacity
      ∧ palette.count ≤ level.paletteCapacity := by
  have pending : pending? level records = none := by
    unfold pending?
    refine Option.bind_eq_none_iff.mpr fun last among => sound last ?_
    have among := List.mem_of_getLast? among
    unfold decisive at among
    cases level with
    | one => exact (List.mem_filter.mp among).1
    | two => exact among
  refine ⟨loaded level records, ?_, ?_⟩
  · unfold handed
    rw [pending]
  unfold loaded
  cases ends : records.getLast? with
  | none => exact ⟨rfl, Nat.zero_le _⟩
  | some last =>
    have fault := sound last (List.mem_of_getLast? ends)
    dsimp only
    unfold fault? at fault
    unfold palette
    split
    · exact ⟨rfl, Nat.zero_le _⟩
    · next some =>
      rw [if_neg some] at fault
      refine ⟨rfl, ?_⟩
      show (Palette.write _ _ _ _ _).size ≤ _
      rw [Palette.size_write, Array.size_replicate]
      exact fits_of_fault?_eq_none level fault

end PaletteRecord

namespace Colormap

/-- **A palette of level one has no room for more than 256 colours.** -/
theorem make_of_deep {loaded : Palette} {depth : Nat} (deep : 9 ≤ depth) (shallow : depth < 16)
    (capacity : loaded.capacity = 256) (few : loaded.count ≤ 256) :
    make .one (some loaded) depth = .error (.paletteOverflow 0 (Size.values depth) 256) := by
  have many : 512 ≤ Size.values depth := Size.values_le deep
  obtain ⟨palette, based, capacity, few⟩ : ∃ palette,
      base .one (some loaded) (Size.values depth) = .ok palette ∧ palette.capacity = 256
        ∧ palette.count ≤ 256 := by
    by_cases empty : loaded.isEmpty = true
    · have size : defaultColors.size = 256 := by decide +kernel
      have count : (defaultColors.extract 0 (Size.values depth)).size = 256 := by
        rw [Array.size_extract, size]
        omega
      refine ⟨_, if_pos empty, count, ?_⟩
      show ((defaultColors.extract 0 (Size.values depth)).map _).size ≤ 256
      exact Nat.le_of_eq (Array.size_map.trans count)
    · exact ⟨loaded, if_neg empty, capacity, few⟩
  have full : palette.resize (Size.values depth)
      = .error (.paletteOverflow 0 (Size.values depth) 256) := by
    unfold Palette.resize
    rw [capacity, if_pos (by omega)]
  unfold make
  rw [if_neg (by omega)]
  dsimp only
  rw [based]
  show (if palette.count < Size.values depth then palette.resize (Size.values depth) >>= _
    else .ok palette >>= _) = _
  rw [if_pos (by omega), full]
  rfl

end Colormap

namespace Bitmap

variable {bitmap : Bitmap} {loaded : Palette}

/-- **Why a bitmap of a depth that is not supported cannot be decoded** at level one. -/
def depthFault (depth : Nat) : RasterError :=
  if 9 ≤ depth ∧ depth < 16 then .paletteOverflow 0 (Size.values depth) 256
  else .unsupportedDepth depth

theorem prepare_of_unsupported (unsupported : bitmap.depth ∉ supportedDepths)
    (capacity : loaded.capacity = 256) (few : loaded.count ≤ 256) :
    bitmap.prepare .one loaded = .error (depthFault bitmap.depth) := by
  unfold prepare depthFault
  by_cases deep : 9 ≤ bitmap.depth ∧ bitmap.depth < 16
  · rw [Colormap.make_of_deep deep.1 deep.2 capacity few, if_pos deep]
    rfl
  · obtain ⟨colormap, made⟩ : ∃ colormap,
        Colormap.make .one (some loaded) bitmap.depth = .ok colormap := by
      by_cases none : 16 ≤ bitmap.depth ∨ bitmap.depth = 0
      · exact ⟨_, if_pos none⟩
      · have room : ∀ palette ∈ some loaded, palette.isEmpty = false →
            Size.values bitmap.depth ≤ palette.capacity := by
          rintro _ ⟨⟩ -
          rw [capacity]
          exact Size.values_le (show bitmap.depth ≤ 8 by omega)
        obtain ⟨palette, made, -⟩ :=
          Colormap.make_shows .one (show 1 ≤ bitmap.depth by omega) (by omega) room
        exact ⟨_, made⟩
    have unknown : (bitmap.format colormap).colorSpace = .error (.unsupportedDepth bitmap.depth) :=
      colorSpaceOf_of_unsupported unsupported
    rw [made, if_neg deep]
    show (bitmap.format colormap).colorSpace >>= _ = _
    rw [unknown]
    rfl

end Bitmap

/-! ## The first bitmap of a file -/

namespace Walk

variable {σ : Type} [ByteSource σ]

/-- **The first bitmap that a walk comes by**, with the palette records in front of it. -/
def arrival? (plan : WalkPlan) :
    (fuel offset : Nat) → List PaletteRecord → Walk σ → Option (Handover σ)
  | 0, _, _, _ => none
  | fuel + 1, offset, records, walk =>
    if plan.fileSize ≤ offset then none
    else match scan plan offset walk with
      | .ok (.passed next) mid =>
        arrival? plan fuel next (records ++ (paletteAt? plan offset walk).toList) mid
      | .ok (.bitmap bitmap _) mid => some ⟨plan, records, bitmap, mid⟩
      | _ => none

variable [LawfulByteSource σ]

/-- **A walk does at its first bitmap what is to be done with it**, be it for the header alone or
not, and it fails as that does. It comes there knowing what the palette records on the way say. -/
structure Arrives (plan : WalkPlan) (fuel offset : Nat) (walk : Walk σ) (handover : Handover σ) :
    Prop where
  /-- It goes by the plan. -/
  plan_eq : handover.plan = plan
  /-- It knows the palette records on the way. -/
  since : Since plan.level handover.palettes handover.walk
  /-- If it fails there, then it fails. -/
  fails : ∀ headersOnly err last,
    handleBitmap { plan with headersOnly } handover.bitmap handover.walk = .error err last →
      steps { plan with headersOnly } fuel offset walk = .error err last
  /-- If it ends there, then it ends well. -/
  ends : ∀ headersOnly last,
    handleBitmap { plan with headersOnly } handover.bitmap handover.walk = .ok false last →
      steps { plan with headersOnly } fuel offset walk = .ok () last

theorem arrives_of_arrival? {plan : WalkPlan} {fuel offset : Nat} {records : List PaletteRecord}
    {walk : Walk σ} {handover : Handover σ} (since : Since plan.level records walk)
    (found : arrival? plan fuel offset records walk = some handover) :
    Arrives plan fuel offset walk handover := by
  induction fuel generalizing offset records walk with
  | zero => cases found
  | succ fuel ih =>
    unfold arrival? at found
    split at found
    · cases found
    next inside =>
    have inside := Nat.lt_of_not_le inside
    split at found
    · next next mid scanned =>
      have arrives := ih (since.of_passed scanned) found
      have passes : ∀ headersOnly, steps { plan with headersOnly } (fuel + 1) offset walk
          = steps { plan with headersOnly } fuel next mid := fun headersOnly =>
        steps_of_passed inside (show scan { plan with headersOnly } offset walk = _ from scanned)
      refine ⟨arrives.plan_eq, arrives.since, fun headersOnly err last failed => ?_,
        fun headersOnly last handled => ?_⟩
      · rw [passes]
        exact arrives.fails headersOnly err last failed
      · rw [passes]
        exact arrives.ends headersOnly last handled
    · next bitmap next mid scanned =>
      cases found
      have comes : ∀ headersOnly, steps { plan with headersOnly } (fuel + 1) offset walk = _ :=
        fun headersOnly =>
          steps_of_bitmap inside (show scan { plan with headersOnly } offset walk = _ from scanned)
      refine ⟨rfl, since.of_bitmap scanned, fun headersOnly err last failed => ?_,
        fun headersOnly last handled => ?_⟩
      · rw [comes, failed]
      · rw [comes, handled]
    · cases found

end Walk

namespace Decoder

variable {σ : Type} [ByteSource σ]

/-- **The first bitmap of a file**, with the palette records in front of it, as a decoder comes by
it that reads the header. Nothing is said yet of its depth and its size. -/
def arrival? (decoder : Decoder σ) : Option (Handover σ) :=
  match readHeader decoder with
  | .error _ _ => none
  | .ok header mid =>
    match (ByteSource.length mid.source : EStateM.Result SourceError σ Nat) with
    | .error _ _ => none
    | .ok size source =>
      ((decoder.told source header size).plan? false).bind fun plan =>
        Walk.arrival? plan (plan.fileSize - plan.start) plan.start []
          (Walk.make plan.level source .never)

/-- What it takes to come by a first bitmap. -/
theorem exists_of_arrival? {decoder : Decoder σ} {handover : Handover σ}
    (found : decoder.arrival? = some handover) :
    ∃ header mid size source plan, readHeader decoder = .ok header mid
      ∧ ByteSource.length mid.source = .ok size source
      ∧ (decoder.told source header size).plan? false = some plan
      ∧ Walk.arrival? plan (plan.fileSize - plan.start) plan.start []
          (Walk.make plan.level source .never) = some handover := by
  unfold arrival? at found
  split at found
  · cases found
  next header mid read =>
  split at found
  · cases found
  next size source measured =>
  obtain ⟨plan, planned, found⟩ := Option.bind_eq_some_iff.mp found
  exact ⟨header, mid, size, source, plan, read, measured, planned, found⟩

variable [LawfulByteSource σ] {decoder : Decoder σ} {handover : Handover σ}

omit [LawfulByteSource σ] in
/-- A walk that fails tells the decoder why. -/
theorem walk_of_run_error {headersOnly : Bool} {plan : WalkPlan} {stop : Stop} {err : WpgError}
    {last : Walk σ} (planned : decoder.plan? headersOnly = some plan)
    (run : Walk.run plan (Walk.make plan.level decoder.source stop) = .error err last) :
    decoder.walk headersOnly stop = ((.error err, last.stop), decoder.after last) := by
  rw [walk_eq planned, run]

/-- **A file whose header is read is walked over once more**, as from where its first record was
found. -/
theorem decode_eq_walk_told {mid walked : Decoder σ} {header : Header} {size : Nat} {source : σ}
    {frames : Array Frame} {stop : Stop} {plan : WalkPlan}
    (unread : decoder.headersDecoded = false) (read : readHeader decoder = .ok header mid)
    (measured : ByteSource.length mid.source = .ok size source)
    (went : (decoder.told source header size).walk true .never = ((.ok frames, stop), walked))
    (planned : (decoder.told source header size).plan? false = some plan) :
    decoder.decode.1 = ((decoder.told source header size).walk false .never).1.1 >>= delivered := by
  have opened := decodeHeaders_of_walk unread read measured went
  generalize decoder.told source header size = told at went planned ⊢
  have same := sameKnowledge_walk told true .never
  rw [went] at same
  have knows : SameKnowledge { told with headersDecoded := true }
      { walked with headersDecoded := true } :=
    ⟨same.file, same.options, same.header, same.fileSize, rfl⟩
  have finds : ({ told with headersDecoded := true } : Decoder σ).plan? false = some plan := planned
  unfold decode
  rw [decodeWithStop_eq_walk opened, (knows.walk_eq finds .never).1, walk_eq finds,
    walk_eq planned]
  dsimp only
  cases Walk.run plan (Walk.make plan.level told.source .never) <;> rfl

/-- **What a decoder knows of its first bitmap**, and when this one fails the file. -/
structure Meets (decoder : Decoder σ) (handover : Handover σ) : Prop where
  /-- It is decoded with the options of the decoder. -/
  options : handover.plan.options = decoder.options
  /-- What is known of palettes is what the records in front of it leave. -/
  since : Walk.Since handover.plan.level handover.palettes handover.walk
  /-- What is said against it fails the file. -/
  fault : ∀ err, Walk.bitmapFault? decoder.options handover.bitmap = some err →
    decoder.decode.1 = .error err
  /-- Otherwise it fails the file if it cannot be decoded, and that is not tolerated. -/
  rejected : ∀ err last, Walk.bitmapFault? decoder.options handover.bitmap = none →
    Walk.decodeBitmap handover.plan handover.bitmap handover.walk = .error err last →
    decoder.options.rejects err = true → decoder.decode.1 = .error (.raster err)

theorem meets_of_arrival? (unread : decoder.headersDecoded = false)
    (found : decoder.arrival? = some handover) : decoder.Meets handover := by
  obtain ⟨header, mid, size, source, plan, read, measured, planned, found⟩ :=
    exists_of_arrival? found
  have options : plan.options = (decoder.told source header size).options :=
    options_of_plan? planned
  change plan.options = decoder.options at options
  have decodes := headersOnly_of_plan? planned
  have planned' := plan?_headersOnly planned true
  have arrives := Walk.arrives_of_arrival? (Walk.since_nil rfl rfl) found
  obtain rfl := arrives.plan_eq
  refine ⟨options, arrives.since, fun err fault => ?_, fun err last sound failed rejects => ?_⟩
  · -- the walk for the header fails
    rw [← options] at fault
    have run : Walk.run { handover.plan with headersOnly := true }
        (Walk.make handover.plan.level source .never) = .error err handover.walk :=
      arrives.fails true err _ (Walk.handleBitmap_of_fault fault)
    have went : (decoder.told source header size).walk true .never = ((.error err, _), _) :=
      walk_of_run_error planned' run
    unfold decode decodeWithStop
    rw [decodeHeaders_of_unread unread, read]
    dsimp only
    rw [measured]
    dsimp only
    rw [went]
  · -- the walk for the header ends here, and the next one fails
    rw [← options] at sound rejects
    have run : Walk.run { handover.plan with headersOnly := true }
        (Walk.make handover.plan.level source .never) = .ok () _ :=
      arrives.ends true _ (Walk.handleBitmap_of_headersOnly rfl sound)
    have run' : Walk.run { handover.plan with headersOnly := false }
        (Walk.make handover.plan.level source .never) = .error (.raster err) last :=
      arrives.fails false _ _ (Walk.handleBitmap_of_rejected rfl sound failed rejects)
    have went : (decoder.told source header size).walk true .never = ((.ok _, _), _) :=
      walk_of_run_ok planned' run
    have same : { handover.plan with headersOnly := false } = handover.plan := by rw [← decodes]
    rw [same] at run'
    have went' : (decoder.told source header size).walk false .never
        = ((.error (.raster err), _), _) := walk_of_run_error planned run'
    rw [decode_eq_walk_told unread read measured went planned, went']
    rfl

/-- **Why a strict decoder fails for the depth of the first bitmap.** Take a file of level one whose
first bitmap has a depth that is not supported and a size that is accepted, behind any records, of
which those of palettes have no fault. If the bitmap has nine to fifteen bits, then a strict decoder
says that a palette of level one has no room for as many colours, whatever palette was loaded. For
any other depth it says that the depth is not supported. -/
theorem decode_unsupportedDepth (unread : decoder.headersDecoded = false)
    (strict : decoder.options.isStrict = true) (found : decoder.arrival? = some handover)
    (one : handover.plan.level = .one)
    (sound : ∀ record ∈ handover.palettes, record.fault? .one = none)
    (wide : handover.bitmap.width ≤ decoder.options.maxWidth)
    (high : handover.bitmap.height ≤ decoder.options.maxHeight)
    (unsupported : handover.bitmap.depth ∉ Bitmap.supportedDepths) :
    (9 ≤ handover.bitmap.depth ∧ handover.bitmap.depth < 16 →
        decoder.decode.1
          = .error (.raster (.paletteOverflow 0 (Size.values handover.bitmap.depth) 256)))
      ∧ (¬ (9 ≤ handover.bitmap.depth ∧ handover.bitmap.depth < 16) →
        decoder.decode.1 = .error (.raster (.unsupportedDepth handover.bitmap.depth))) := by
  have meets := meets_of_arrival? unread found
  by_cases beyond : 24 < handover.bitmap.depth
  · -- the bitmap is none of the file
    refine ⟨fun deep => by omega, fun _ => meets.fault _ ?_⟩
    exact if_pos beyond
  · obtain ⟨palette, handed, capacity, few⟩ := PaletteRecord.handed_of_sound sound
    have fault : Walk.bitmapFault? decoder.options handover.bitmap = none := by
      unfold Walk.bitmapFault?
      rw [if_neg beyond, if_neg (Nat.not_lt.mpr wide), if_neg (Nat.not_lt.mpr high)]
    have failed : Walk.decodeBitmap handover.plan handover.bitmap handover.walk
        = .error (Bitmap.depthFault handover.bitmap.depth) (handover.walk.unload .one) := by
      rw [meets.since.decodeBitmap_eq, one, handed]
      show Walk.decodeBitmap _ _ _ = _
      rw [Walk.decodeBitmap_eq, one, Bitmap.prepare_of_unsupported unsupported capacity few]
      rfl
    have decoded := meets.rejected _ _ fault failed (Options.rejects_of_isStrict strict _)
    exact ⟨fun deep => decoded.trans (by rw [Bitmap.depthFault, if_pos deep]),
      fun other => decoded.trans (by rw [Bitmap.depthFault, if_neg other])⟩

/-- A file with a palette of four colours and a bitmap of eight pixels of some depth. -/
def deepRow (depth : UInt8) : Decoder Cursor where
  source := .ofBytes (Bytes.plainHeader ++ Bytes.colorRecord
    ++ #[0x0B, 12, 8, 0, 1, 0, depth, 0, 0, 0, 0, 0, 1, 0])
  options := .strict

set_option maxRecDepth 4000 in
/-- The depth of three bits is not supported. -/
theorem decode_unsupportedDepth_threeBits :
    (deepRow 3).decode.1 = .error (.raster (.unsupportedDepth 3)) := by
  have shape : (deepRow 3).arrival?.map (fun handover => (handover.plan.level,
      handover.palettes.map fun record => (record.fault? .one).isSome, handover.bitmap.width,
      handover.bitmap.height, handover.bitmap.depth)) = some (.one, [false], 8, 1, 3) := by
    decide +kernel
  obtain ⟨handover, found, shape⟩ := Option.map_eq_some_iff.mp shape
  simp only [Prod.mk.injEq] at shape
  obtain ⟨one, faults, width, height, depth⟩ := shape
  have sound : ∀ record ∈ handover.palettes, record.fault? .one = none := by
    intro record among
    have fault := List.mem_map_of_mem (f := fun record => (record.fault? .one).isSome) among
    rw [faults] at fault
    exact Option.not_isSome_iff_eq_none.mp (by rw [List.mem_singleton.mp fault]; decide)
  have reported := (decode_unsupportedDepth rfl rfl found one sound (by rw [width]; decide)
    (by rw [height]; decide) (by rw [depth]; decide)).2 (by rw [depth]; decide)
  rwa [depth] at reported

set_option maxRecDepth 4000 in
/-- **A bitmap of nine bits**, whose depth is not what is reported. -/
theorem decode_unsupportedDepth_nineBits :
    (deepRow 9).arrival?.map (fun handover => (handover.plan.level,
        handover.palettes.map fun record => (record.fault? .one).isSome, handover.bitmap.width,
        handover.bitmap.height, handover.bitmap.depth)) = some (.one, [false], 8, 1, 9)
      ∧ (match (deepRow 9).decode.1 with
        | .ok _ => none
        | .error err => some err) = some (.raster (.paletteOverflow 0 512 256))
      ∧ (RasterError.paletteOverflow 0 512 256 : RasterError) ≠ .unsupportedDepth 9 := by
  decide +kernel

end Decoder

end WpgRaster
