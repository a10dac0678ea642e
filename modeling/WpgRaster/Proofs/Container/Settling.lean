import WpgRaster.Proofs.Container.Passing

/-!
# What becomes of a bitmap

A bitmap is set up with the palette that is loaded (`Bitmap.prepare`), and
then its raster is decoded. Whatever becomes of it, the palette is unloaded and
the file is as it was (`Walk.behind_decodeBitmap`), and if it becomes a frame,
then the frame has the size and the colour space of the bitmap
(`Walk.decodeBitmap_ok`).

There are three ways to handle a bitmap without failing: to take it down, to
deliver its frame, and to reject it (`Walk.Handled`).
-/

namespace WpgRaster

/-- A strict decoder lets every error of a bitmap fail the file. -/
theorem Options.rejects_of_isStrict {options : Options} (strict : options.isStrict = true)
    (err : RasterError) : options.rejects err = true := by
  unfold rejects
  split
  all_goals first | rfl | exact strict

/-! ## Setting up -/

/-- **What a bitmap is decoded with**: its colormap, made of the palette that is
loaded, and a black image. -/
def Bitmap.prepare (bitmap : Bitmap) (level : Level) (loaded : Palette) :
    Except RasterError (Option Palette × PixelBuffer) := do
  let colormap ← Colormap.make level (some loaded) bitmap.depth
  let space ← (bitmap.format colormap).colorSpace
  let blank ← PixelBuffer.make bitmap.width bitmap.height space
  return (colormap, blank)

namespace Bitmap

/-- There is a colormap, a colour space and an image of this space. -/
theorem exists_of_prepare_ok {bitmap : Bitmap} {level : Level} {loaded : Palette}
    {colormap : Option Palette} {blank : PixelBuffer}
    (prepared : bitmap.prepare level loaded = .ok (colormap, blank)) :
    ∃ space, Colormap.make level (some loaded) bitmap.depth = .ok colormap
      ∧ (bitmap.format colormap).colorSpace = .ok space
      ∧ PixelBuffer.make bitmap.width bitmap.height space = .ok blank := by
  obtain ⟨colormap', made, prepared⟩ := exists_of_except_bind prepared
  obtain ⟨space, known, prepared⟩ := exists_of_except_bind prepared
  obtain ⟨image, room, prepared⟩ := exists_of_except_bind prepared
  cases prepared
  exact ⟨space, made, known, room⟩

/-- The image has the size and the colour space of the bitmap. -/
theorem prepare_ok {bitmap : Bitmap} {level : Level} {loaded : Palette}
    {colormap : Option Palette} {blank : PixelBuffer}
    (prepared : bitmap.prepare level loaded = .ok (colormap, blank)) :
    blank.width = bitmap.width ∧ blank.height = bitmap.height
      ∧ bitmap.colorSpace? = some blank.colorSpace := by
  obtain ⟨space, -, known, made⟩ := exists_of_prepare_ok prepared
  obtain ⟨width, height, rfl⟩ := PixelBuffer.measures_of_make made
  exact ⟨width, height, congrArg Except.toOption known⟩

end Bitmap

namespace Walk

variable {σ : Type}

/-- A walk without a palette. -/
def unload (level : Level) (walk : Walk σ) : Walk σ :=
  { walk with palette := level.emptyPalette, paletteError := none }

variable [ByteSource σ] {plan : WalkPlan} {bitmap : Bitmap}

/-- **Decoding a bitmap**: a palette that could not be loaded fails it, and so
does whatever is wrong with it; otherwise its raster is decoded where it
lies. -/
theorem decodeBitmap_eq (plan : WalkPlan) (bitmap : Bitmap) (walk : Walk σ) :
    decodeBitmap plan bitmap walk =
      match walk.paletteError, bitmap.prepare plan.level walk.palette with
      | some err, _ => .error err (walk.unload plan.level)
      | none, .error err => .error err (walk.unload plan.level)
      | none, .ok (colormap, blank) =>
        let decoded := (bitmap.format colormap).decode walk.source blank walk.stop
        let walk' := { walk.unload plan.level with source := decoded.source, stop := decoded.stop }
        match FrameStatus.ofResult plan.options decoded.result with
        | .error err => .error err walk'
        | .ok status => .ok ⟨bitmap, decoded.sink, colormap, status⟩ walk' := by
  unfold decodeBitmap
  cases failed : walk.paletteError with
  | some err =>
    have taken : takePalette plan.level walk = .error err (walk.unload plan.level) := by
      unfold takePalette
      rw [failed]
      rfl
    exact bind_of_error taken
  | none =>
    have taken : takePalette plan.level walk = .ok walk.palette (walk.unload plan.level) := by
      unfold takePalette
      rw [failed]
      rfl
    rw [bind_of_ok taken, ofExcept_bind]
    unfold Bitmap.prepare
    cases Colormap.make plan.level (some walk.palette) bitmap.depth with
    | error err => rfl
    | ok colormap =>
      dsimp only [bind, Except.bind]
      show (ofExcept (bitmap.format colormap).colorSpace >>= _ : EStateM ..) _ = _
      rw [ofExcept_bind]
      cases (bitmap.format colormap).colorSpace with
      | error err => rfl
      | ok space =>
        dsimp only
        show (ofExcept (PixelBuffer.make bitmap.width bitmap.height space) >>= _ : EStateM ..) _ = _
        rw [ofExcept_bind]
        cases PixelBuffer.make bitmap.width bitmap.height space with
        | error err => rfl
        | ok blank =>
          dsimp only
          show (ofExcept (FrameStatus.ofResult plan.options _) >>= _ : EStateM ..) _ = _
          rw [ofExcept_bind]
          dsimp only [unload, pure, Except.pure]
          cases FrameStatus.ofResult plan.options
            ((bitmap.format colormap).decode walk.source blank walk.stop).result <;> rfl

/-- **A bitmap takes the palette with it**, whatever becomes of it; the raster
is read, and nothing else changes. -/
theorem behind_decodeBitmap [LawfulByteSource σ] (plan : WalkPlan) (bitmap : Bitmap)
    (walk : Walk σ) :
    ∃ source stop, behind (decodeBitmap plan bitmap walk)
        = { walk.unload plan.level with source, stop }
      ∧ SameFile walk.source source ∧ stop.answer = walk.stop.answer := by
  rw [decodeBitmap_eq]
  cases walk.paletteError with
  | some err => exact ⟨walk.source, walk.stop, rfl, .refl walk.source, rfl⟩
  | none =>
    cases bitmap.prepare plan.level walk.palette with
    | error err => exact ⟨walk.source, walk.stop, rfl, .refl walk.source, rfl⟩
    | ok prepared =>
      obtain ⟨colormap, blank⟩ := prepared
      dsimp only
      refine ⟨_, _, ?_, FrameFormat.decode_sameFile (bitmap.format colormap) walk.source blank
        walk.stop, FrameFormat.answer_decode (bitmap.format colormap) walk.source blank walk.stop⟩
      split <;> rfl

/-- **A bitmap that becomes a frame**: its palette could be loaded, it was set up, and
its raster was decoded into the image. -/
theorem exists_of_decodeBitmap_ok {walk walk' : Walk σ} {frame : Frame}
    (decoded : decodeBitmap plan bitmap walk = .ok frame walk') :
    walk.paletteError = none ∧ ∃ colormap blank status,
      bitmap.prepare plan.level walk.palette = .ok (colormap, blank)
        ∧ FrameStatus.ofResult plan.options
            ((bitmap.format colormap).decode walk.source blank walk.stop).result = .ok status
        ∧ frame = ⟨bitmap, ((bitmap.format colormap).decode walk.source blank walk.stop).sink,
            colormap, status⟩ := by
  rw [decodeBitmap_eq] at decoded
  cases failed : walk.paletteError with
  | some err =>
    rw [failed] at decoded
    cases decoded
  | none =>
    refine ⟨rfl, ?_⟩
    cases prepared : bitmap.prepare plan.level walk.palette with
    | error err =>
      rw [failed, prepared] at decoded
      cases decoded
    | ok setUp =>
      obtain ⟨colormap, blank⟩ := setUp
      rw [failed, prepared] at decoded
      dsimp only at decoded
      split at decoded
      · cases decoded
      · next status kept =>
        cases decoded
        exact ⟨colormap, blank, status, rfl, kept, rfl⟩

/-- **The frame of a bitmap** has its size and its colour space. -/
theorem decodeBitmap_ok {walk walk' : Walk σ} {frame : Frame}
    (decoded : decodeBitmap plan bitmap walk = .ok frame walk') :
    frame.bitmap = bitmap ∧ frame.pixels.width = bitmap.width
      ∧ frame.pixels.height = bitmap.height
      ∧ bitmap.colorSpace? = some frame.pixels.colorSpace := by
  obtain ⟨-, colormap, blank, status, prepared, -, rfl⟩ := exists_of_decodeBitmap_ok decoded
  obtain ⟨width, height, space⟩ := Bitmap.prepare_ok prepared
  obtain ⟨width', height', space'⟩ := FrameFormat.decode_measures (bitmap.format colormap)
    walk.source blank walk.stop
  exact ⟨rfl, width'.trans width, height'.trans height,
    space.trans (congrArg some space'.symm)⟩

/-! ## Handling -/

/-- **The ways to handle a bitmap**, each with the answer whether the walk goes
on, and the walk behind it. -/
inductive Handled (plan : WalkPlan) (bitmap : Bitmap) (walk : Walk σ) : Bool → Walk σ → Prop
  /-- It is taken down as the first one, and that is all. -/
  | takenDown : plan.headersOnly = true →
    Handled plan bitmap walk false { walk with firstBitmap := some bitmap }
  /-- Its frame is delivered. -/
  | delivered {frame : Frame} {walk' : Walk σ} : plan.headersOnly = false →
    decodeBitmap plan bitmap walk = .ok frame walk' →
    Handled plan bitmap walk plan.options.allFrames
      { walk' with frames := walk'.frames.push frame }
  /-- It is rejected for an error that does not fail the file. -/
  | rejected {err : RasterError} {walk' : Walk σ} : plan.headersOnly = false →
    decodeBitmap plan bitmap walk = .error err walk' → plan.options.rejects err = false →
    Handled plan bitmap walk plan.options.allFrames walk'

/-- **Handling a bitmap**: it is looked at, and then taken down or decoded. -/
theorem handleBitmap_eq (plan : WalkPlan) (bitmap : Bitmap) (walk : Walk σ) :
    handleBitmap plan bitmap walk =
      match bitmapFault? plan.options bitmap with
      | some err => .error err walk
      | none =>
        if plan.headersOnly then .ok false { walk with firstBitmap := some bitmap }
        else match decodeBitmap plan bitmap walk with
          | .ok frame walk =>
            .ok plan.options.allFrames { walk with frames := walk.frames.push frame }
          | .error err walk =>
            if plan.options.rejects err then .error (.raster err) walk
            else .ok plan.options.allFrames walk := by
  obtain ⟨options, level, start, fileSize, headersOnly⟩ := plan
  unfold handleBitmap
  cases bitmapFault? options bitmap with
  | some err => rfl
  | none => cases headersOnly <;> rfl

section

variable {walk : Walk σ}

/-- What is said against a bitmap fails the walk. -/
theorem handleBitmap_of_fault {err : WpgError}
    (fault : bitmapFault? plan.options bitmap = some err) :
    handleBitmap plan bitmap walk = .error err walk := by
  rw [handleBitmap_eq, fault]

/-- If the header alone is wanted, then the walk ends. -/
theorem handleBitmap_of_headersOnly (header : plan.headersOnly = true)
    (sound : bitmapFault? plan.options bitmap = none) :
    handleBitmap plan bitmap walk = .ok false { walk with firstBitmap := some bitmap } := by
  rw [handleBitmap_eq, sound]
  exact if_pos header

/-- An error that is not tolerated fails the walk. -/
theorem handleBitmap_of_rejected {err : RasterError} {last : Walk σ}
    (decodes : plan.headersOnly = false) (sound : bitmapFault? plan.options bitmap = none)
    (failed : decodeBitmap plan bitmap walk = .error err last)
    (rejects : plan.options.rejects err = true) :
    handleBitmap plan bitmap walk = .error (.raster err) last := by
  rw [handleBitmap_eq, sound, decodes, failed]
  exact if_pos rejects

end

/-- **There are no other ways**, and nothing was said against the bitmap. -/
theorem handleBitmap_eq_ok {more : Bool} {walk walk' : Walk σ} :
    handleBitmap plan bitmap walk = .ok more walk'
      ↔ bitmapFault? plan.options bitmap = none ∧ Handled plan bitmap walk more walk' := by
  rw [handleBitmap_eq]
  constructor
  · intro ran
    cases fault : bitmapFault? plan.options bitmap with
    | some err =>
      rw [fault] at ran
      cases ran
    | none =>
      rw [fault] at ran
      refine ⟨rfl, ?_⟩
      dsimp only at ran
      split at ran
      · next header =>
        cases ran
        exact .takenDown header
      · next header =>
        have header := eq_false_of_ne_true header
        cases decoded : decodeBitmap plan bitmap walk with
        | ok frame walk₁ =>
          rw [decoded] at ran
          cases ran
          exact .delivered header decoded
        | error err walk₁ =>
          rw [decoded] at ran
          dsimp only at ran
          split at ran
          · cases ran
          · next tolerated =>
            cases ran
            exact .rejected header decoded (eq_false_of_ne_true tolerated)
  · rintro ⟨fault, handled⟩
    rw [fault]
    dsimp only
    cases handled with
    | takenDown header => rw [if_pos header]
    | delivered header decoded => rw [header, if_neg Bool.false_ne_true, decoded]
    | rejected header decoded tolerated =>
      rw [header, if_neg Bool.false_ne_true, decoded]
      dsimp only
      rw [tolerated, if_neg Bool.false_ne_true]

/-- **A walk that proceeds**: over the same file, with more frames and embedded
files behind those that were there. -/
structure Proceeds (walk walk' : Walk σ) : Prop where
  /-- The file is the same. -/
  file : SameFile walk.source walk'.source
  /-- What the stop would answer is the same. -/
  answer : walk'.stop.answer = walk.stop.answer
  /-- The frames are still there. -/
  frames : walk.frames.toList <+: walk'.frames.toList
  /-- So are the embedded files. -/
  embedded : walk.embedded.toList <+: walk'.embedded.toList

instance : IsPreorder (Walk σ) Proceeds where
  refl walk := ⟨.refl walk.source, rfl, List.prefix_rfl, List.prefix_rfl⟩
  trans _ _ _ first second :=
    { file := first.file.trans second.file
      answer := second.answer.trans first.answer
      frames := first.frames.trans second.frames
      embedded := first.embedded.trans second.embedded }

/-- Scanning a record is no step back. -/
theorem Passes.proceeds {walk walk' : Walk σ} (passes : Passes walk walk') :
    Proceeds walk walk' where
  file := passes.file
  answer := passes.stop ▸ rfl
  frames := passes.frames ▸ List.prefix_rfl
  embedded := passes.embedded

section

variable [LawfulByteSource σ]

/-- Decoding a bitmap concerns neither the frames nor the embedded files. -/
theorem decodeBitmap_proceeds {walk walk' : Walk σ}
    (ran : behind (decodeBitmap plan bitmap walk) = walk') :
    Proceeds walk walk' ∧ walk'.frames = walk.frames ∧ walk'.embedded = walk.embedded
      ∧ walk'.firstBitmap = walk.firstBitmap := by
  obtain ⟨source, stop, left, file, answer⟩ := behind_decodeBitmap plan bitmap walk
  rw [← ran, left]
  exact ⟨⟨file, answer, List.prefix_rfl, List.prefix_rfl⟩, rfl, rfl, rfl⟩

/-- **Handling a bitmap** adds its frame at most. Unless the header is all that
is wanted, it is not taken down. -/
theorem handleBitmap_proceeds (plan : WalkPlan) (bitmap : Bitmap) :
    Upholds (fun walk walk' => Proceeds walk walk' ∧ walk'.embedded = walk.embedded
        ∧ (plan.headersOnly = false → walk'.firstBitmap = walk.firstBitmap))
      (handleBitmap plan bitmap : WalkM σ Bool) := by
  intro walk
  rw [handleBitmap_eq]
  cases bitmapFault? plan.options bitmap with
  | some err => exact ⟨refl_of Proceeds walk, rfl, fun _ => rfl⟩
  | none =>
    dsimp only
    split
    · next header =>
      refine ⟨⟨.refl walk.source, rfl, List.prefix_rfl, List.prefix_rfl⟩, rfl, fun decodes => ?_⟩
      rw [header] at decodes
      cases decodes
    · cases decoded : decodeBitmap plan bitmap walk with
      | ok frame walk₁ =>
        have left : behind (decodeBitmap plan bitmap walk) = walk₁ := congrArg behind decoded
        obtain ⟨proceeds, frames, embedded, firstBitmap⟩ := decodeBitmap_proceeds left
        refine ⟨⟨proceeds.file, proceeds.answer, ?_, proceeds.embedded⟩, embedded,
          fun _ => firstBitmap⟩
        show walk.frames.toList <+: (walk₁.frames.push frame).toList
        rw [Array.toList_push, frames]
        exact List.prefix_append ..
      | error err walk₁ =>
        have left : behind (decodeBitmap plan bitmap walk) = walk₁ := congrArg behind decoded
        obtain ⟨proceeds, -, embedded, firstBitmap⟩ := decodeBitmap_proceeds left
        dsimp only
        split <;> exact ⟨proceeds, embedded, fun _ => firstBitmap⟩

/-- **The frames of a bitmap**, at most one: none if it cannot be decoded. -/
def framesOf (plan : WalkPlan) (bitmap : Bitmap) (walk : Walk σ) : List Frame :=
  match decodeBitmap plan bitmap walk with
  | .ok frame _ => [frame]
  | .error _ _ => []

omit [LawfulByteSource σ] in
/-- A bitmap has one frame, or it cannot be decoded and has none. -/
theorem framesOf_cases (plan : WalkPlan) (bitmap : Bitmap) (walk : Walk σ) :
    (∃ frame, framesOf plan bitmap walk = [frame])
      ∨ framesOf plan bitmap walk = []
        ∧ ∃ err walk', decodeBitmap plan bitmap walk = .error err walk' := by
  unfold framesOf
  cases decodeBitmap plan bitmap walk with
  | ok frame walk' => exact .inl ⟨frame, rfl⟩
  | error err walk' => exact .inr ⟨rfl, err, walk', rfl⟩

/-- **What a bitmap adds are its frames**, and whether the walk goes on is up to
the options. -/
theorem Handled.frames_eq {walk walk' : Walk σ} {more : Bool}
    (handled : Handled plan bitmap walk more walk') (decodes : plan.headersOnly = false) :
    more = plan.options.allFrames
      ∧ walk'.frames.toList = walk.frames.toList ++ framesOf plan bitmap walk := by
  cases handled with
  | takenDown header =>
    rw [decodes] at header
    cases header
  | @delivered frame walk₁ _ decoded =>
    have left : behind (decodeBitmap plan bitmap walk) = walk₁ := congrArg behind decoded
    obtain ⟨-, frames, -⟩ := decodeBitmap_proceeds left
    refine ⟨rfl, ?_⟩
    unfold framesOf
    rw [decoded, Array.toList_push, frames]
  | rejected _ decoded _ =>
    have left : behind (decodeBitmap plan bitmap walk) = walk' := congrArg behind decoded
    obtain ⟨-, frames, -⟩ := decodeBitmap_proceeds left
    refine ⟨rfl, ?_⟩
    unfold framesOf
    rw [decoded, List.append_nil, frames]

/-- **A bitmap unloads the palette**, and forgets what was wrong with it. -/
theorem Handled.unloads {walk walk' : Walk σ} {more : Bool}
    (handled : Handled plan bitmap walk more walk') (decodes : plan.headersOnly = false) :
    walk'.palette = plan.level.emptyPalette ∧ walk'.paletteError = none := by
  obtain ⟨source, stop, unloaded, -⟩ := behind_decodeBitmap plan bitmap walk
  cases handled with
  | takenDown header =>
    rw [decodes] at header
    cases header
  | delivered _ decoded =>
    rw [decoded] at unloaded
    cases unloaded
    exact ⟨rfl, rfl⟩
  | rejected _ decoded _ =>
    rw [decoded] at unloaded
    cases unloaded
    exact ⟨rfl, rfl⟩

omit [LawfulByteSource σ] in
/-- If damage fails the file, then a bitmap that is not taken down becomes a
frame. -/
theorem Handled.exists_frame {walk walk' : Walk σ} {more : Bool}
    (handled : Handled plan bitmap walk more walk') (decodes : plan.headersOnly = false)
    (strict : plan.options.isStrict = true) :
    ∃ frame walk₁, decodeBitmap plan bitmap walk = .ok frame walk₁ := by
  cases handled with
  | takenDown header =>
    rw [decodes] at header
    cases header
  | delivered _ decoded => exact ⟨_, _, decoded⟩
  | @rejected err _ _ _ tolerated =>
    rw [Options.rejects_of_isStrict strict] at tolerated
    cases tolerated

end

end Walk

end WpgRaster
