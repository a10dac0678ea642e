import WpgRaster.Proofs.Container.Headers
import WpgRaster.Proofs.Simulation

/-!
# What the header has to do with the options

A walk for the header ends at the first bitmap, before anything is decoded. All
it asks of the options is how large a bitmap may be. So options that differ in
how many frames are wanted, or in what becomes of damage, lead to the same
header (`Decoder.decodeHeaders_withOptions`).
-/

namespace WpgRaster

/-- **Options with the same limits** let bitmaps of the same size pass. -/
structure Options.SameLimits (options options' : Options) : Prop where
  /-- A bitmap may be as wide. -/
  width : options.maxWidth = options'.maxWidth
  /-- It may be as high. -/
  height : options.maxHeight = options'.maxHeight

variable {σ : Type}

namespace Walk

/-- The limits are all that is asked of the options before a bitmap is decoded. -/
theorem bitmapFault?_of_sameLimits {options options' : Options}
    (limits : options.SameLimits options') (bitmap : Bitmap) :
    bitmapFault? options bitmap = bitmapFault? options' bitmap := by
  unfold bitmapFault?
  rw [limits.width, limits.height]

variable [ByteSource σ] {plan : WalkPlan} {options : Options}

theorem settle_withOptions (header : plan.headersOnly = true)
    (limits : plan.options.SameLimits options) (found : Found) :
    (settle { plan with options } found : WalkM σ (Option Nat)) = settle plan found := by
  cases found with
  | ended => rfl
  | passed next => rfl
  | bitmap bitmap next =>
    have handled : (handleBitmap { plan with options } bitmap : WalkM σ Bool)
        = handleBitmap plan bitmap := by
      funext walk
      have header' : ({ plan with options } : WalkPlan).headersOnly = true := header
      rw [handleBitmap_eq, handleBitmap_eq, bitmapFault?_of_sameLimits limits, if_pos header,
        if_pos header']
    unfold settle
    dsimp only
    rw [handled]

/-- **A walk for the header** is the same under options with the same limits. -/
theorem steps_withOptions (header : plan.headersOnly = true)
    (limits : plan.options.SameLimits options) (fuel offset : Nat) :
    (steps { plan with options } fuel offset : WalkM σ Unit) = steps plan fuel offset := by
  induction fuel generalizing offset with
  | zero => rfl
  | succ fuel ih =>
    have stepped : (step { plan with options } offset : WalkM σ (Option Nat))
        = step plan offset := by
      rw [step_eq_scan, step_eq_scan]
      exact congrArg _ (funext (settle_withOptions header limits))
    unfold steps
    rw [stepped]
    simp only [ih]

end Walk

namespace Decoder

/-- A decoder with other options. -/
def withOptions (decoder : Decoder σ) (options : Options) : Decoder σ := { decoder with options }

/-- The plan of a walk has the options of its decoder. -/
theorem plan?_withOptions {decoder : Decoder σ} {headersOnly : Bool} {plan : WalkPlan}
    (planned : decoder.plan? headersOnly = some plan) (options : Options) :
    (decoder.withOptions options).plan? headersOnly = some { plan with options } := by
  obtain ⟨header, known, level, levelled, rfl⟩ := plan?_eq_some.mp planned
  exact plan?_eq_some.mpr ⟨header, known, level, levelled, rfl⟩

variable [ByteSource σ] {options : Options}

theorem walk_withOptions {decoder walked : Decoder σ} {frames : Array Frame} {stop stop' : Stop}
    (limits : decoder.options.SameLimits options)
    (went : decoder.walk true stop = ((.ok frames, stop'), walked)) :
    (decoder.withOptions options).walk true stop
      = ((.ok frames, stop'), walked.withOptions options) := by
  obtain ⟨plan, last, planned, run, rfl, rfl, rfl⟩ := exists_of_walk_ok went
  rw [← options_of_plan? planned] at limits
  have same : (Walk.run { plan with options } : WalkM σ Unit) = Walk.run plan :=
    Walk.steps_withOptions (headersOnly_of_plan? planned) limits _ _
  exact walk_of_run_ok (plan?_withOptions planned options) ((congrFun same _).trans run)

variable [LawfulByteSource σ]

/-- To read a header changes no options. -/
theorem options_of_decodeHeaders_ok {decoder known : Decoder σ}
    (unread : decoder.headersDecoded = false) (ran : decodeHeaders decoder = .ok () known) :
    known.options = decoder.options := by
  obtain ⟨plan, foreknows, options, -⟩ := foreknows_of_ok unread ran
  exact (options_of_plan? foreknows.planned).symm.trans options

/-- **The header depends on the limits alone**, of all that the options say. -/
theorem decodeHeaders_withOptions {decoder known : Decoder σ}
    (limits : decoder.options.SameLimits options) (unread : decoder.headersDecoded = false)
    (ran : decodeHeaders decoder = .ok () known) :
    decodeHeaders (decoder.withOptions options) = .ok () (known.withOptions options) := by
  obtain ⟨header, mid, size, source, frames, stop, walked, read, length, went, rfl⟩ :=
    exists_of_decodeHeaders_ok unread ran
  have read' : readHeader (decoder.withOptions options)
      = .ok header { decoder.withOptions options with source := mid.source } :=
    readHeader_of_sameFile (.refl decoder.source) read
  have limits' : (decoder.told source header size).options.SameLimits options := limits
  have unread' : (decoder.withOptions options).headersDecoded = false := unread
  exact decodeHeaders_of_walk unread' read' length (walk_withOptions limits' went)

end Decoder

end WpgRaster
