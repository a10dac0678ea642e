import WpgRaster.Proofs.Container.PairedScans

/-!
# Whole walks over files that are alike

A bitmap that was scanned is decoded. If rasters are decoded alike as well
(`Walk.WalksAlike`), then paired walks stay paired from record to record
(`Walk.WalksAlike.steps`), up to where the first source fails for good or the
second one was too late: whether it ever is, is seen at the records that the
second walk scans (`Walk.OnTime`).
-/

namespace WpgRaster

/-- An error of a file that comes of a fatal error of the source. -/
def WpgError.Fatal (fatal : SourceError → Prop) (err : WpgError) : Prop :=
  ∃ cause, (err = .source cause ∨ err = .raster (.source cause)) ∧ fatal cause

namespace Walk

variable {σ τ : Type}

section

variable [ByteSource σ] [ByteSource τ]

/-- **Rasters that are decoded alike** with either of two colormaps into either of two
images, from sources at the same place, or the first source fails for good. -/
def RastersAlike (tolerance : Tolerance) (here away : σ → τ → Prop) (fatal : SourceError → Prop)
    (bitmap : Bitmap) (setUp setUp' : Option Palette × PixelBuffer) : Prop :=
  ∀ source source' stop, here source source' →
    let decoded := (bitmap.format setUp.1).decode source setUp.2 stop
    let decoded' := (bitmap.format setUp'.1).decode source' setUp'.2 stop
    (decoded.result = decoded'.result ∧ away decoded.source decoded'.source
        ∧ decoded.stop = decoded'.stop
        ∧ ∀ status, tolerance.frames ⟨bitmap, decoded.sink, setUp.1, status⟩
            ⟨bitmap, decoded'.sink, setUp'.1, status⟩)
      ∨ ∃ err, decoded.result = .error err ∧ err.Fatal fatal

/-- **Sources that are walked over alike**, in files of some size. -/
structure WalksAlike (tolerance : Tolerance) (here away : σ → τ → Prop) (late : τ → Prop)
    (fatal : SourceError → Prop) (size : Nat) : Prop
    extends ScansAlike tolerance here away late size where
  /-- Sources that are related are not too late. -/
  soon : ∀ s t, away s t → ¬ late t
  /-- Bitmaps are decoded alike. -/
  prepared : ∀ level bitmap palette palette', tolerance.palettes palette palette' →
    SameOutcome (RastersAlike tolerance here away fatal bitmap) (bitmap.prepare level palette)
      (bitmap.prepare level palette')

end

/-- The terms on which bitmaps are handled: the first source may fail for good. -/
def handling (tolerance : Tolerance) (away : σ → τ → Prop) (fatal : SourceError → Prop) :
    Terms WpgError (Walk σ) (Walk τ) where
  failed := Paired tolerance away
  fatal := WpgError.Fatal fatal

/-! ## Bitmaps -/

/-- **What becomes of a bitmap in paired walks.** -/
inductive DecodedAlike (tolerance : Tolerance) (away : σ → τ → Prop)
    (fatal : SourceError → Prop) :
    EStateM.Result RasterError (Walk σ) Frame → EStateM.Result RasterError (Walk τ) Frame → Prop
  /-- Both have a frame. -/
  | ok {frame frame' : Frame} {walk : Walk σ} {walk' : Walk τ} :
    tolerance.frames frame frame' → Paired tolerance away walk walk' →
    DecodedAlike tolerance away fatal (.ok frame walk) (.ok frame' walk')
  /-- Neither has. -/
  | error {err : RasterError} {walk : Walk σ} {walk' : Walk τ} : Paired tolerance away walk walk' →
    DecodedAlike tolerance away fatal (.error err walk) (.error err walk')
  /-- The first source failed for good. -/
  | fatal {err : RasterError} {walk : Walk σ} {result : EStateM.Result RasterError (Walk τ) Frame} :
    err.Fatal fatal → DecodedAlike tolerance away fatal (.error err walk) result

variable {tolerance : Tolerance} {here away : σ → τ → Prop} {late : τ → Prop}
  {fatal : SourceError → Prop} {size : Nat}

/-- A bitmap takes the palettes with it. -/
theorem Paired.unload {walk : Walk σ} {walk' : Walk τ} (paired : Paired tolerance away walk walk')
    {level : Level} (empty : tolerance.palettes level.emptyPalette level.emptyPalette) :
    Paired tolerance away (walk.unload level) (walk'.unload level) :=
  { paired with palette := empty, paletteError := rfl }

theorem Paired.push {walk : Walk σ} {walk' : Walk τ} (paired : Paired tolerance away walk walk')
    {frame frame' : Frame} (alike : tolerance.frames frame frame') :
    Paired tolerance away { walk with frames := walk.frames.push frame }
      { walk' with frames := walk'.frames.push frame' } where
  __ := paired
  frames := by
    rw [Array.toList_push, Array.toList_push]
    exact List.rel_append paired.frames (.cons alike .nil)

namespace WalksAlike

variable [ByteSource σ] [ByteSource τ] (walks : WalksAlike tolerance here away late fatal size)

include walks

/-- **Bitmaps are decoded alike** in paired walks. -/
theorem decodeBitmap (plan : WalkPlan) (bitmap : Bitmap) {walk : Walk σ} {walk' : Walk τ}
    (paired : Paired tolerance here walk walk') :
    DecodedAlike tolerance away fatal (Walk.decodeBitmap plan bitmap walk)
      (Walk.decodeBitmap plan bitmap walk') := by
  have unloaded := (paired.mono walks.weaker).unload (walks.empty plan.level)
  have prepared := walks.prepared plan.level bitmap _ _ paired.palette
  rw [decodeBitmap_eq, decodeBitmap_eq, ← paired.paletteError]
  cases walk.paletteError with
  | some err => exact .error unloaded
  | none =>
    generalize bitmap.prepare plan.level walk.palette = result,
      bitmap.prepare plan.level walk'.palette = result' at prepared
    cases prepared with
    | error => exact .error unloaded
    | ok rasters =>
      dsimp only
      obtain ⟨same, source, stop, frames⟩ | ⟨err, failed, lost⟩ :=
        rasters walk.source walk'.source walk.stop paired.source
      · rw [← paired.stop, ← same, ← stop]
        cases FrameStatus.ofResult plan.options _ with
        | error err => exact .error { unloaded with source, stop := rfl }
        | ok status => exact .ok (frames status) { unloaded with source, stop := rfl }
      · -- a failure of the source is no abort
        obtain ⟨cause, rfl, lost⟩ := lost
        rw [failed]
        exact .fatal ⟨cause, rfl, lost⟩

/-- **Bitmaps are handled alike.** -/
theorem handleBitmap (plan : WalkPlan) (bitmap : Bitmap) {walk : Walk σ} {walk' : Walk τ}
    (paired : Paired tolerance here walk walk') :
    Compared (handling tolerance away fatal) (fun _ => Paired tolerance away)
      (Walk.handleBitmap plan bitmap walk) (Walk.handleBitmap plan bitmap walk') := by
  have weaker := paired.mono walks.weaker
  rw [handleBitmap_eq, handleBitmap_eq]
  cases bitmapFault? plan.options bitmap with
  | some err => exact .error rfl weaker
  | none =>
    dsimp only
    split
    · exact .ok { weaker with firstBitmap := rfl }
    · have decoded := walks.decodeBitmap plan bitmap paired
      generalize Walk.decodeBitmap plan bitmap walk = result,
        Walk.decodeBitmap plan bitmap walk' = result' at decoded
      cases decoded with
      | ok alike behind => exact .ok (behind.push alike)
      | error behind =>
        dsimp only
        split
        · exact .error rfl behind
        · exact .ok behind
      | fatal lost =>
        obtain ⟨cause, rfl, lost⟩ := lost
        exact .fatal ⟨cause, .inr rfl, lost⟩

/-! ## Records -/

/-- **Records that were scanned alike are settled alike.** -/
theorem settle (plan : WalkPlan) {found : Found} {walk : Walk σ} {walk' : Walk τ}
    (scanned : Scanned tolerance here away found.bitmap?.isSome walk walk') :
    Compared (handling tolerance away fatal) (fun _ => Paired tolerance away)
      (Walk.settle plan found walk) (Walk.settle plan found walk') := by
  cases found with
  | ended => exact .ok scanned.toPaired
  | passed next => exact .ok scanned.toPaired
  | bitmap bitmap next =>
    refine (walks.handleBitmap plan bitmap (scanned.here rfl)).bind fun more => ?_
    exact .ite (fun _ => .pure _) fun _ => .pure _

/-- **A step is taken alike**, if the second source is not too late. -/
theorem step {plan : WalkPlan} {offset : Nat} (inside : offset < size) {walk : Walk σ}
    {walk' : Walk τ} (paired : Paired tolerance away walk walk')
    (onTime : ¬ late (behind (scan plan offset walk')).source) :
    Compared (handling tolerance away fatal) (fun _ => Paired tolerance away)
      (Walk.step plan offset walk) (Walk.step plan offset walk') := by
  have scanned : Compared (scanning tolerance away late) _ (scan plan offset walk)
      (scan plan offset walk') := walks.scan inside paired
  rw [step_eq_scan, step_eq_scan]
  generalize ran : scan plan offset walk = result, ran' : scan plan offset walk' = result'
    at scanned onTime
  cases scanned with
  | ok scanned =>
    rw [bind_of_ok ran, bind_of_ok ran']
    exact walks.settle plan scanned
  | error same behind =>
    cases same
    rw [bind_of_error ran, bind_of_error ran']
    exact .error rfl behind
  | fatal failed => exact failed.elim
  | late beyond => exact absurd beyond onTime

end WalksAlike

/-! ## Whole walks -/

/-- **Walks whose source is not too late** when a record was scanned, unless it was
too late before. -/
def OnTime [ByteSource τ] (late : τ → Prop) (plan : WalkPlan) : (fuel offset : Nat) → Walk τ → Prop
  | 0, _, _ => True
  | fuel + 1, offset, walk =>
    ¬ late walk.source → offset < plan.fileSize →
      ¬ late (behind (scan plan offset walk)).source
        ∧ ∀ next walk', Walk.step plan offset walk = .ok (some next) walk' →
          OnTime late plan fuel next walk'

/-- If it is never too late, then every walk is on time. -/
theorem onTime_of_never [ByteSource τ] (never : ∀ source, ¬ late source) (plan : WalkPlan)
    (fuel offset : Nat) (walk : Walk τ) : OnTime late plan fuel offset walk := by
  induction fuel generalizing offset walk with
  | zero => trivial
  | succ fuel ih => exact fun _ _ => ⟨never _, fun next walk' _ => ih next walk'⟩

namespace WalksAlike

variable [ByteSource σ] [ByteSource τ] (walks : WalksAlike tolerance here away late fatal size)

include walks

/-- **Paired walks stay paired** over all records, as long as the second one is on
time. -/
theorem steps {plan : WalkPlan} (sized : plan.fileSize ≤ size) {fuel offset : Nat} {walk : Walk σ}
    {walk' : Walk τ} (paired : Paired tolerance away walk walk')
    (onTime : OnTime late plan fuel offset walk') :
    Compared (handling tolerance away fatal) (fun _ => Paired tolerance away)
      (Walk.steps plan fuel offset walk) (Walk.steps plan fuel offset walk') := by
  induction fuel generalizing offset walk walk' with
  | zero => exact .ok paired
  | succ fuel ih =>
    unfold Walk.steps
    by_cases beyond : plan.fileSize ≤ offset
    · rw [if_pos beyond, if_pos beyond]
      exact .ok paired
    rw [if_neg beyond, if_neg beyond]
    have inside := Nat.lt_of_not_le beyond
    obtain ⟨soon, later⟩ := onTime (walks.soon _ _ paired.source) inside
    have stepped := walks.step (Nat.lt_of_lt_of_le inside sized) paired soon
    generalize ran : Walk.step plan offset walk = result,
      ran' : Walk.step plan offset walk' = result' at stepped
    cases stepped with
    | @ok next? _ _ behind =>
      rw [bind_of_ok ran, bind_of_ok ran']
      cases next? with
      | none => exact .ok behind
      | some next => exact ih behind (later next _ ran')
    | error same behind =>
      rw [bind_of_error ran, bind_of_error ran']
      exact .error same behind
    | fatal failed =>
      rw [bind_of_error ran]
      exact .fatal failed
    | late beyond => exact beyond.elim

end WalksAlike

end Walk

end WpgRaster
