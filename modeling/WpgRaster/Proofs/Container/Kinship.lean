import Mathlib.Data.List.Forall2
import WpgRaster.Proofs.Container.Visits
import WpgRaster.Proofs.Source.Alignment

/-!
# Walks that are akin

Two walks are *akin* if their files agree from an offset on, the same palette
is loaded in both of them, and what the one has delivered beyond some older
frames is what the other one has delivered (`Walk.Akin`). The precision and the
transform may differ, and so may the orientation of bitmaps of level two, which
is that of the transform.

If walks that are akin take a step from the same offset, one that the files
agree on, then they are akin behind it (`Walk.step_akin`): what stands there is
read from the same position in both of them, and a raster, wherever it leaves
the source, is followed by a record that is sought by its offset.
-/

namespace WpgRaster

/-- **Bitmaps that are the same up to the orientation**, which may differ at
level two. -/
structure Bitmap.Resembles (level : Level) (bitmap bitmap' : Bitmap) : Prop where
  /-- Everything but the orientation is the same. -/
  eq : bitmap' = { bitmap with orientation := bitmap'.orientation }
  /-- At level one it is the same as well. -/
  oriented : level = .one → bitmap' = bitmap

/-- **Frames that are the same up to the orientation**, which may differ at
level two. -/
structure Frame.Resembles (level : Level) (frame frame' : Frame) : Prop where
  /-- Pixels, colormap and status are the same. -/
  eq : frame' = { frame with bitmap := frame'.bitmap }
  /-- The bitmaps resemble each other. -/
  bitmap : frame.bitmap.Resembles level frame'.bitmap

/-- **Finds that are the same** up to the orientation of a bitmap. -/
inductive Found.Resembles (level : Level) : Found → Found → Prop
  /-- Nothing was found. -/
  | ended : Found.Resembles level .ended .ended
  /-- A record without a bitmap. -/
  | passed {next : Nat} : Found.Resembles level (.passed next) (.passed next)
  /-- A bitmap. -/
  | bitmap {bitmap bitmap' : Bitmap} {next : Nat} : bitmap.Resembles level bitmap' →
    Found.Resembles level (.bitmap bitmap next) (.bitmap bitmap' next)

theorem Bitmap.Resembles.refl (level : Level) (bitmap : Bitmap) : bitmap.Resembles level bitmap :=
  ⟨rfl, fun _ => rfl⟩

/-- Bitmaps that resemble each other are set up alike. -/
theorem Bitmap.Resembles.prepare_eq {level : Level} {bitmap bitmap' : Bitmap}
    (same : bitmap.Resembles level bitmap') (loaded : Palette) :
    bitmap'.prepare level loaded = bitmap.prepare level loaded := by
  rw [same.eq]
  rfl

/-- At level one such frames are the same. -/
theorem Frame.Resembles.eq_of_one {frames frames' : List Frame}
    (same : List.Forall₂ (Frame.Resembles .one) frames frames') : frames' = frames := by
  have equal : List.Forall₂ (· = ·) frames frames' :=
    same.imp fun frame frame' same => by rw [same.eq, same.bitmap.oriented rfl]
  exact (List.forall₂_eq_eq_eq ▸ equal : frames = frames').symm

namespace Walk

/-- **Walks that are akin**, beyond some older frames of the first one. -/
structure Akin (rel : Cursor → Cursor → Prop) (level : Level) (older : List Frame)
    (walk walk' : Walk Cursor) : Prop where
  /-- Their sources are related. -/
  source : rel walk.source walk'.source
  /-- Nobody stops the first one. -/
  silent : walk.stop.Silent
  /-- Nor the second one. -/
  silent' : walk'.stop.Silent
  /-- The same palette is loaded. -/
  palette : walk'.palette = walk.palette
  /-- Palettes could be loaded alike. -/
  paletteError : walk'.paletteError = walk.paletteError
  /-- The newer frames resemble each other. -/
  frames : ∃ newer, walk.frames.toList = older ++ newer
    ∧ List.Forall₂ (Frame.Resembles level) newer walk'.frames.toList

variable {first : Nat} {level : Level} {older : List Frame} {walk walk' : Walk Cursor}

/-- Only sources, palettes, stops and frames matter. -/
theorem Akin.of_eq {rel rel' : Cursor → Cursor → Prop} (akin : Akin rel level older walk walk')
    {moved moved' : Walk Cursor} (source : rel' moved.source moved'.source)
    (same : moved.stop = walk.stop ∧ moved.palette = walk.palette
      ∧ moved.paletteError = walk.paletteError ∧ moved.frames = walk.frames)
    (same' : moved'.stop = walk'.stop ∧ moved'.palette = walk'.palette
      ∧ moved'.paletteError = walk'.paletteError ∧ moved'.frames = walk'.frames) :
    Akin rel' level older moved moved' where
  source := source
  silent := same.1 ▸ akin.silent
  silent' := same'.1 ▸ akin.silent'
  palette := by rw [same.2.1, same'.2.1, akin.palette]
  paletteError := by rw [same.2.2.1, same'.2.2.1, akin.paletteError]
  frames := by rw [same.2.2.2, same'.2.2.2]; exact akin.frames

/-- Walks at the same position are akin in the weaker sense. -/
theorem Akin.agree (akin : Akin (Cursor.Aligned first) level older walk walk') :
    Akin (Cursor.Agree first) level older walk walk' :=
  akin.of_eq akin.source.toAgree ⟨rfl, rfl, rfl, rfl⟩ ⟨rfl, rfl, rfl, rfl⟩

/-! ## Reads -/

section

variable {α : Type}

theorem onSource_akin {step : EStateM WpgError Cursor α}
    (alike : Simulates (Cursor.Aligned first) step step) :
    Simulates (Akin (Cursor.Aligned first) level older) (onSource step) (onSource step) := by
  intro walk walk' akin
  have results := alike _ _ akin.source
  unfold onSource
  generalize step walk.source = result, step walk'.source = result' at results
  cases results with
  | ok related => exact .ok (akin.of_eq related ⟨rfl, rfl, rfl, rfl⟩ ⟨rfl, rfl, rfl, rfl⟩)
  | error related => exact .error (akin.of_eq related ⟨rfl, rfl, rfl, rfl⟩ ⟨rfl, rfl, rfl, rfl⟩)

theorem read_akin {step : Cursor → α × Cursor}
    (alike : ReadsCompare (fun _ => False) (Cursor.Aligned first) step step) :
    Simulates (Akin (Cursor.Aligned first) level older) (read step) (read step) :=
  onSource_akin (Compares.simulates alike.steps)

theorem require_akin {step : SourceM Cursor α}
    (alike : Simulates (Cursor.Aligned first) step step) :
    Simulates (Akin (Cursor.Aligned first) level older) (require step) (require step) := by
  refine onSource_akin fun cursor cursor' aligned => ?_
  have results := alike _ _ aligned
  unfold EStateM.adaptExcept
  generalize step cursor = result, step cursor' = result' at results
  cases results with
  | ok related => exact .ok related
  | error related => exact .error related

theorem attempt_akin {step : SourceM Cursor α}
    (alike : Simulates (Cursor.Aligned first) step step) :
    Simulates (Akin (Cursor.Aligned first) level older) (attempt step) (attempt step) := by
  intro walk walk' akin
  have results := alike _ _ akin.source
  unfold attempt
  generalize step walk.source = result, step walk'.source = result' at results
  cases results with
  | ok related => exact .ok (akin.of_eq related ⟨rfl, rfl, rfl, rfl⟩ ⟨rfl, rfl, rfl, rfl⟩)
  | error related => exact .ok (akin.of_eq related ⟨rfl, rfl, rfl, rfl⟩ ⟨rfl, rfl, rfl, rfl⟩)

theorem atEnd_akin :
    Simulates (Akin (Cursor.Aligned first) level older) (atEnd : WalkM Cursor Bool) atEnd := by
  intro walk walk' akin
  unfold atEnd
  rw [akin.source.atEnd_eq]
  split
  · exact .ok akin
  · exact .error akin

/-- A change that does the same to the palettes of both walks, and concerns
neither their sources nor their frames. -/
theorem modify_akin {rel : Cursor → Cursor → Prop} {change : Walk Cursor → Walk Cursor}
    (alike : ∀ walk walk', Akin rel level older walk walk' →
      Akin rel level older (change walk) (change walk')) :
    Simulates (Akin rel level older) (modify change : WalkM Cursor Unit) (modify change) :=
  fun walk walk' akin => .ok (alike walk walk' akin)

theorem note_akin {rel : Cursor → Cursor → Prop} (type : UInt8) (body length skip : Nat) :
    Simulates (Akin rel level older) (note type body length skip : WalkM Cursor Unit)
      (note type body length skip) := by
  unfold note
  split
  · exact modify_akin fun _ _ akin =>
      akin.of_eq akin.source ⟨rfl, rfl, rfl, rfl⟩ ⟨rfl, rfl, rfl, rfl⟩
  · exact .pure ()

end

theorem loadEntries_akin (start count : Nat) :
    Simulates (Akin (Cursor.Aligned first) level older) (loadEntries level start count)
      (loadEntries level start count) := by
  refine (require_akin (Cursor.takeUpTo_alike _)).bind fun bytes => ?_
  dsimp only
  split
  · exact modify_akin fun _ _ akin =>
      ⟨akin.source, akin.silent, akin.silent', rfl, rfl, akin.frames⟩
  · exact .throw _

/-- **Palettes are read alike.** -/
theorem readPalette_akin (length : Nat) :
    Simulates (Akin (Cursor.Aligned first) level older) (readPalette level length)
      (readPalette level length) := by
  have unloads : Simulates (Akin (Cursor.Aligned first) level older)
      (modify fun walk => { walk with palette := level.emptyPalette } : WalkM Cursor Unit)
      (modify fun walk => { walk with palette := level.emptyPalette }) :=
    modify_akin fun _ _ akin =>
      ⟨akin.source, akin.silent, akin.silent', rfl, akin.paletteError, akin.frames⟩
  have fails : ∀ err, Simulates (Akin (Cursor.Aligned first) level older)
      (modify fun walk => { walk with paletteError := some err } : WalkM Cursor Unit)
      (modify fun walk => { walk with paletteError := some err }) := fun err =>
    modify_akin fun _ _ akin =>
      ⟨akin.source, akin.silent, akin.silent', akin.palette, rfl, akin.frames⟩
  refine (read_akin Cursor.aligned_likeness.u16LE).bind fun start => ?_
  refine (read_akin Cursor.aligned_likeness.u16LE).bind fun count => ?_
  dsimp only
  split
  · split
    · exact (fails _).bind fun _ => unloads
    · exact unloads
  · split
    · exact fails _
    · exact loadEntries_akin _ _

/-! ## Fronts -/

/-- **What stands in front of a body is read alike**, from an offset that the
files agree on. The second walk begins where they do. -/
theorem front_akin {plan : WalkPlan} {offset : Nat} (start : plan.start ≤ first)
    (le : first ≤ offset) (akin : Akin (Cursor.Agree first) level older walk walk') :
    Corresponds (Akin (Cursor.Aligned first) level older) (front plan offset walk)
      (front { plan with start := first } offset walk') := by
  have sought : ∀ walk : Walk Cursor, require (ByteSource.seek (.start offset)) walk
      = .ok offset { walk with source := ⟨walk.source.bytes, offset⟩ } := fun _ => rfl
  have there : Akin (Cursor.Aligned first) level older
      { walk with source := ⟨walk.source.bytes, offset⟩ }
      { walk' with source := ⟨walk'.source.bytes, offset⟩ } :=
    akin.of_eq (akin.source.aligned le) ⟨rfl, rfl, rfl, rfl⟩ ⟨rfl, rfl, rfl, rfl⟩
  have next : Simulates (Akin (Cursor.Aligned first) level older)
      (attempt ByteSource.next : WalkM Cursor (Option UInt8)) (attempt ByteSource.next) :=
    attempt_akin Cursor.next_alike
  have number : Simulates (Akin (Cursor.Aligned first) level older)
      (read VarInt.read : WalkM Cursor VarInt) (read VarInt.read) :=
    onSource_akin (Compares.simulates Cursor.aligned_likeness.varInt)
  unfold front
  cases plan.level with
  | one =>
    dsimp only
    unfold frontOne
    rw [bind_of_ok (sought walk), bind_of_ok (sought walk')]
    refine next.bind (fun type? => ?_) _ _ there
    split
    · refine number.bind fun length => ?_
      dsimp only
      split
      · exact fun _ _ akin => .error akin
      · refine atEnd_akin.bind fun ended => ?_
        split
        · exact .pure none
        · intro walk walk' akin
          have body : position walk = .ok walk.source.position walk := rfl
          have body' : position walk' = .ok walk.source.position walk' := by
            rw [← akin.source.position]
            rfl
          have inside := akin.source.le
          rw [bind_of_ok body, bind_of_ok body']
          by_cases long : plan.fileSize < walk.source.position + length.value
          · rw [if_pos (.inl long), if_pos (.inl long)]
            exact .ok akin
          · rw [if_neg (by omega), if_neg (by omega)]
            exact .ok akin
    · exact .pure none
  | two =>
    dsimp only
    unfold frontTwo
    rw [bind_of_ok (sought walk), bind_of_ok (sought walk')]
    refine next.bind (fun class? => ?_) _ _ there
    split
    · refine next.bind fun type? => ?_
      split
      · refine number.bind fun _ => number.bind fun length => atEnd_akin.bind fun ended => ?_
        split
        · exact .pure none
        · intro walk walk' akin
          have body : position walk = .ok walk.source.position walk := rfl
          have body' : position walk' = .ok walk.source.position walk' := by
            rw [← akin.source.position]
            rfl
          rw [bind_of_ok body, bind_of_ok body']
          exact .ok akin
      · exact .pure none
    · exact .pure none

end Walk

/-! ## Bitmaps -/

namespace Bitmap

/-- A transform turns a bitmap, and does nothing else to it. -/
theorem readCoded_eq (transform other : Transform) :
    (readCoded transform : EStateM WpgError Cursor (Option Bitmap)) = (do
      let bitmap? ← readCoded other
      return bitmap?.map fun bitmap => { bitmap with orientation := transform.orientation }) := by
  unfold readCoded
  simp only [bind_assoc]
  refine bind_congr fun size => bind_congr fun depthCode => bind_congr fun compressionCode => ?_
  split <;> rfl

end Bitmap

namespace Walk

variable {first : Nat} {level : Level} {older : List Frame} {walk walk' : Walk Cursor}

/-- **A step that finds bitmaps alike**, in walks that are akin. If there is one,
then its raster begins at the same position. -/
def FindsAlike (first : Nat) (level : Level) (older : List Frame)
    (step : WalkM Cursor (Option Bitmap)) : Prop :=
  ∀ walk walk' bitmap? mid, Akin (Cursor.Aligned first) level older walk walk' →
    step walk = .ok bitmap? mid →
    ∃ bitmap?' mid', step walk' = .ok bitmap?' mid'
      ∧ Option.Rel (Bitmap.Resembles level) bitmap? bitmap?'
      ∧ Akin (Cursor.Agree first) level older mid mid'
      ∧ (bitmap?.isSome → Akin (Cursor.Aligned first) level older mid mid')

/-- A step that simulates itself finds the same bitmap. -/
theorem FindsAlike.of_simulates {step : WalkM Cursor (Option Bitmap)}
    (alike : Simulates (Akin (Cursor.Aligned first) level older) step step) :
    FindsAlike first level older step := by
  intro walk walk' bitmap? mid akin ran
  have results := alike walk walk' akin
  rw [ran] at results
  generalize ran' : step walk' = result' at results
  cases results with
  | @ok _ _ mid' akin' =>
    refine ⟨bitmap?, mid', rfl, ?_, akin'.agree, fun _ => akin'⟩
    cases bitmap? with
    | none => exact .none
    | some bitmap => exact .some (.refl level bitmap)

theorem inspectOne_findsAlike (front : RecordFront) :
    FindsAlike first .one older (inspectOne front) := by
  have plain : Simulates (Cursor.Aligned first) Bitmap.readPlain Bitmap.readPlain :=
    Compares.simulates (Cursor.aligned_likeness.readPlain (fun _ => rfl) fun _ _ => id)
  have placed : Simulates (Cursor.Aligned first) Bitmap.readPlaced Bitmap.readPlaced :=
    Compares.simulates (Cursor.aligned_likeness.readPlaced (fun _ => rfl) fun _ _ => id)
  refine .of_simulates ?_
  unfold inspectOne
  split
  · exact (onSource_akin plain).bind fun _ => .pure _
  · exact (onSource_akin placed).bind fun _ => .pure _
  · exact (readPalette_akin _).bind fun _ => .pure _
  · exact (note_akin _ _ _ _).bind fun _ => .pure _
  · exact (note_akin _ _ _ _).bind fun _ => .pure _
  · exact .pure _

/-- Bitmaps of level two are turned by the transforms of their walks. -/
theorem readCoded_findsAlike : FindsAlike first .two older (do
    onSource (Bitmap.readCoded (← get).transform)) := by
  intro walk walk' bitmap? mid akin ran
  change onSource (Bitmap.readCoded walk.transform) walk = _ at ran
  show ∃ bitmap?' mid', onSource (Bitmap.readCoded walk'.transform) walk' = _ ∧ _
  unfold onSource at ran ⊢
  have coded : Simulates (Cursor.Aligned first) (Bitmap.readCoded walk.transform)
      (Bitmap.readCoded walk.transform) :=
    Compares.simulates (Cursor.aligned_likeness.readCoded (fun _ => rfl) (fun _ _ => id) _)
  have results := coded _ _ akin.source
  generalize Bitmap.readCoded walk.transform walk.source = result at results ran
  generalize read : Bitmap.readCoded walk.transform walk'.source = result' at results
  cases results with
  | error _ => cases ran
  | @ok _ source source' aligned =>
    cases ran
    rw [Bitmap.readCoded_eq walk'.transform walk.transform, bind_of_ok read]
    have akin' : Akin (Cursor.Aligned first) .two older { walk with source }
        { walk' with source := source' } :=
      akin.of_eq aligned ⟨rfl, rfl, rfl, rfl⟩ ⟨rfl, rfl, rfl, rfl⟩
    refine ⟨_, _, rfl, ?_, akin'.agree, fun _ => akin'⟩
    cases bitmap? with
    | none => exact .none
    | some bitmap => exact .some ⟨rfl, nofun⟩

theorem inspectTwo_findsAlike (front : RecordFront) :
    FindsAlike first .two older (inspectTwo front) := by
  have word : Simulates (Akin (Cursor.Aligned first) .two older)
      (read ByteSource.u16LE : WalkM Cursor UInt16) (read ByteSource.u16LE) :=
    read_akin Cursor.aligned_likeness.u16LE
  unfold inspectTwo
  split
  · have byte : Simulates (Akin (Cursor.Aligned first) .two older)
        (read ByteSource.nextOrZero : WalkM Cursor UInt8) (read ByteSource.nextOrZero) :=
      read_akin Cursor.aligned_likeness.nextOrZero
    refine .of_simulates (word.bind fun _ => word.bind fun _ => byte.bind fun precision =>
      .bind ?_ fun _ => .pure _)
    exact modify_akin fun _ _ akin =>
      akin.of_eq akin.source ⟨rfl, rfl, rfl, rfl⟩ ⟨rfl, rfl, rfl, rfl⟩
  · exact .of_simulates ((readPalette_akin _).bind fun _ => .pure _)
  · exact readCoded_findsAlike
  · exact .of_simulates (word.bind fun _ => (note_akin _ _ _ _).bind fun _ => .pure _)
  · -- what a transform says depends on the precision, and so does where it ends
    intro walk walk' bitmap? mid akin ran
    cases ran
    have bytes : ∀ walk : Walk Cursor, (Transform.read walk.precision walk.source).2.bytes
        = walk.source.bytes := fun walk =>
      Cursor.sameFile_iff.mp (Transform.read_sameFile walk.precision walk.source)
    exact ⟨none, _, rfl, .none, akin.of_eq (akin.source.toAgree.of_bytes (bytes walk) (bytes walk'))
      ⟨rfl, rfl, rfl, rfl⟩ ⟨rfl, rfl, rfl, rfl⟩, nofun⟩
  · exact .of_simulates (.pure _)

/-- **What a record holds is found alike.** -/
theorem inspect_findsAlike (level : Level) (front : RecordFront) :
    FindsAlike first level older (inspect level front) := by
  cases level with
  | one => exact inspectOne_findsAlike front
  | two => exact inspectTwo_findsAlike front

/-! ## Decoding -/

section

variable {plan : WalkPlan} {bitmap bitmap' : Bitmap}

/-- **A bitmap is decoded alike** in walks that are akin. -/
theorem decodeBitmap_alike (same : bitmap.Resembles plan.level bitmap')
    (akin : Akin (Cursor.Aligned first) plan.level older walk walk') :
    (∃ frame mid frame' mid', decodeBitmap plan bitmap walk = .ok frame mid
        ∧ decodeBitmap plan bitmap' walk' = .ok frame' mid' ∧ frame.Resembles plan.level frame')
      ∨ ∃ err mid mid', decodeBitmap plan bitmap walk = .error err mid
        ∧ decodeBitmap plan bitmap' walk' = .error err mid' := by
  rw [decodeBitmap_eq, decodeBitmap_eq, akin.palette, akin.paletteError, same.prepare_eq]
  cases walk.paletteError with
  | some err => exact .inr ⟨err, _, _, rfl, rfl⟩
  | none =>
    cases bitmap.prepare plan.level walk.palette with
    | error err => exact .inr ⟨err, _, _, rfl, rfl⟩
    | ok prepared =>
      obtain ⟨colormap, blank⟩ := prepared
      have format : bitmap'.format colormap = bitmap.format colormap := by
        rw [same.eq]
        rfl
      obtain ⟨result, sink⟩ := FrameFormat.decode_of_rest_eq akin.silent akin.silent'
        akin.source.rest_eq
      dsimp only
      rw [format, result, sink]
      cases FrameStatus.ofResult plan.options
          ((bitmap.format colormap).decode walk.source blank walk.stop).result with
      | error err => exact .inr ⟨err, _, _, rfl, rfl⟩
      | ok status => exact .inl ⟨_, _, _, _, rfl, rfl, rfl, same⟩

/-- Behind a bitmap, no palette is loaded in either walk. -/
theorem decodeBitmap_akin (bitmap bitmap' : Bitmap)
    (akin : Akin (Cursor.Aligned first) plan.level older walk walk') {mid mid' : Walk Cursor}
    (left : behind (decodeBitmap plan bitmap walk) = mid)
    (left' : behind (decodeBitmap plan bitmap' walk') = mid') :
    Akin (Cursor.Agree first) plan.level older mid mid' := by
  obtain ⟨source, stop, unloaded, file, answer⟩ := behind_decodeBitmap plan bitmap walk
  obtain ⟨source', stop', unloaded', file', answer'⟩ := behind_decodeBitmap plan bitmap' walk'
  rw [← left, ← left', unloaded, unloaded']
  exact
    { source := akin.source.toAgree.of_bytes (Cursor.sameFile_iff.mp file)
        (Cursor.sameFile_iff.mp file')
      silent := fun asked => by rw [answer]; exact akin.silent asked
      silent' := fun asked => by rw [answer']; exact akin.silent' asked
      palette := rfl
      paletteError := rfl
      frames := akin.frames }

/-- A further frame of either walk. -/
theorem Akin.push {frame frame' : Frame} (akin : Akin (Cursor.Agree first) level older walk walk')
    (same : frame.Resembles level frame') :
    Akin (Cursor.Agree first) level older { walk with frames := walk.frames.push frame }
      { walk' with frames := walk'.frames.push frame' } where
  source := akin.source
  silent := akin.silent
  silent' := akin.silent'
  palette := akin.palette
  paletteError := akin.paletteError
  frames := by
    obtain ⟨newer, frames, alike⟩ := akin.frames
    refine ⟨newer ++ [frame], ?_, ?_⟩
    · rw [Array.toList_push, frames, List.append_assoc]
    · rw [Array.toList_push]
      exact List.rel_append alike (.cons same .nil)

/-- **A bitmap is handled alike** in walks that are akin, and it may then stand
anywhere. -/
theorem handleBitmap_akin (decodes : plan.headersOnly = false)
    (same : bitmap.Resembles plan.level bitmap')
    (akin : Akin (Cursor.Aligned first) plan.level older walk walk') {more : Bool}
    {mid : Walk Cursor} (handled : handleBitmap plan bitmap walk = .ok more mid) :
    ∃ mid', handleBitmap plan bitmap' walk' = .ok more mid'
      ∧ Akin (Cursor.Agree first) plan.level older mid mid' := by
  have fault : bitmapFault? plan.options bitmap' = bitmapFault? plan.options bitmap := by
    rw [same.eq]
    rfl
  obtain ⟨sound, handled⟩ := handleBitmap_eq_ok.mp handled
  rw [← fault] at sound
  obtain ⟨frame, mid₁, frame', mid₁', decoded, decoded', resembles⟩
    | ⟨err, mid₁, mid₁', failed, failed'⟩ := decodeBitmap_alike same akin
  · have akin' : Akin (Cursor.Agree first) plan.level older mid₁ mid₁' :=
      decodeBitmap_akin bitmap bitmap' akin (congrArg behind decoded) (congrArg behind decoded')
    cases handled with
    | takenDown header =>
      rw [decodes] at header
      cases header
    | delivered _ ran =>
      rw [decoded] at ran
      cases ran
      exact ⟨_, handleBitmap_eq_ok.mpr ⟨sound, .delivered decodes decoded'⟩, akin'.push resembles⟩
    | rejected _ ran _ =>
      rw [decoded] at ran
      cases ran
  · have akin' : Akin (Cursor.Agree first) plan.level older mid₁ mid₁' :=
      decodeBitmap_akin bitmap bitmap' akin (congrArg behind failed) (congrArg behind failed')
    cases handled with
    | takenDown header =>
      rw [decodes] at header
      cases header
    | delivered _ ran =>
      rw [failed] at ran
      cases ran
    | rejected _ ran tolerated =>
      rw [failed] at ran
      cases ran
      exact ⟨_, handleBitmap_eq_ok.mpr ⟨sound, .rejected decodes failed' tolerated⟩, akin'⟩

/-- **A record is scanned alike** in walks that are akin. -/
theorem scan_akin {offset : Nat} (start : plan.start ≤ first) (le : first ≤ offset)
    (akin : Akin (Cursor.Agree first) plan.level older walk walk') {found : Found}
    {mid : Walk Cursor} (scanned : scan plan offset walk = .ok found mid) :
    ∃ found' mid', scan { plan with start := first } offset walk' = .ok found' mid'
      ∧ found.Resembles plan.level found' ∧ Akin (Cursor.Agree first) plan.level older mid mid'
      ∧ (found.bitmap?.isSome → Akin (Cursor.Aligned first) plan.level older mid mid') := by
  obtain ⟨front?, mid₁, read, scanned⟩ := exists_of_bind_ok scanned
  have fronts := front_akin start le akin
  rw [read] at fronts
  generalize read' : front { plan with start := first } offset walk' = result' at fronts
  cases fronts with
  | @ok _ _ mid₁' akin₁ =>
    unfold scan
    rw [bind_of_ok read']
    cases front? with
    | none =>
      cases scanned
      exact ⟨_, _, rfl, .ended, akin₁.agree, nofun⟩
    | some front =>
      obtain ⟨bitmap?, mid₂, inspected, scanned⟩ := exists_of_bind_ok scanned
      cases scanned
      obtain ⟨bitmap?', mid₂', inspected', same, agree, aligned⟩ :=
        inspect_findsAlike plan.level front _ _ _ _ akin₁ inspected
      dsimp only
      rw [bind_of_ok inspected']
      refine ⟨_, _, rfl, ?_, agree, ?_⟩
      · cases same with
        | none => exact .passed
        | some same => exact .bitmap same
      · cases bitmap? with
        | none => exact nofun
        | some bitmap => exact fun _ => aligned rfl

/-- **A step is taken alike** in walks that are akin. -/
theorem step_akin {offset : Nat} (decodes : plan.headersOnly = false) (start : plan.start ≤ first)
    (le : first ≤ offset) (akin : Akin (Cursor.Agree first) plan.level older walk walk')
    {next? : Option Nat} {mid : Walk Cursor} (stepped : step plan offset walk = .ok next? mid) :
    ∃ mid', step { plan with start := first } offset walk' = .ok next? mid'
      ∧ Akin (Cursor.Agree first) plan.level older mid mid' := by
  rw [step_eq_scan] at stepped
  obtain ⟨found, mid₁, scanned, settled⟩ := exists_of_bind_ok stepped
  obtain ⟨found', mid₁', scanned', same, agree, aligned⟩ := scan_akin start le akin scanned
  rw [step_eq_scan, bind_of_ok scanned']
  cases same with
  | ended =>
    cases settled
    exact ⟨_, rfl, agree⟩
  | passed =>
    cases settled
    exact ⟨_, rfl, agree⟩
  | bitmap resembles =>
    obtain ⟨more, handled, rfl⟩ := settle_bitmap_ok settled
    obtain ⟨mid', handled', akin'⟩ := handleBitmap_akin decodes resembles (aligned rfl) handled
    exact ⟨mid', settle_bitmap_of_ok handled', akin'⟩

end

end Walk

end WpgRaster
