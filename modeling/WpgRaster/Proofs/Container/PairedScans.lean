import Mathlib.Data.List.Forall2
import WpgRaster.Proofs.Container.Settling
import WpgRaster.Proofs.Source.Likeness

/-!
# Walks over files that are alike

Two walks over sources that are alike are compared record by record. They are
*paired* if their sources are related, and everything else is the same up to
what is tolerated of palettes and of frames (`Walk.Paired`).

Sources are related in two ways: `here` if they stand at the same place, so that
they are read alike, and `away` if they have the same file at least, which is
enough for the next record, since it is sought. Scanning a record leads from the
second relation to the first one, if a bitmap is found
(`Walk.ScansAlike.scan`).
-/

namespace WpgRaster

/-- **What walks may differ in.** -/
structure Tolerance where
  /-- How the palettes are related. -/
  palettes : Palette → Palette → Prop := Eq
  /-- How the frames are. -/
  frames : Frame → Frame → Prop := Eq

namespace Walk

variable {σ τ α : Type}

/-- **Walks that are paired.** -/
structure Paired (tolerance : Tolerance) (rel : σ → τ → Prop) (walk : Walk σ) (walk' : Walk τ) :
    Prop where
  /-- Their sources are related. -/
  source : rel walk.source walk'.source
  /-- The stop is the same. -/
  stop : walk.stop = walk'.stop
  /-- The palettes are the same as far as it matters. -/
  palette : tolerance.palettes walk.palette walk'.palette
  /-- Palettes could be loaded alike. -/
  paletteError : walk.paletteError = walk'.paletteError
  /-- The transform is the same. -/
  transform : walk.transform = walk'.transform
  /-- So is the precision. -/
  precision : walk.precision = walk'.precision
  /-- The same embedded files were noted. -/
  embedded : walk.embedded = walk'.embedded
  /-- The first bitmap is the same, if there is one. -/
  firstBitmap : walk.firstBitmap = walk'.firstBitmap
  /-- The frames are the same as far as it matters. -/
  frames : List.Forall₂ tolerance.frames walk.frames.toList walk'.frames.toList

variable {tolerance : Tolerance} {rel here away : σ → τ → Prop} {late : τ → Prop}

/-- Sources may be moved. -/
theorem Paired.withSource {walk : Walk σ} {walk' : Walk τ}
    (paired : Paired tolerance rel walk walk') {source : σ} {source' : τ}
    (related : away source source') :
    Paired tolerance away { walk with source } { walk' with source := source' } :=
  { paired with source := related }

theorem Paired.mono {walk : Walk σ} {walk' : Walk τ} (paired : Paired tolerance here walk walk')
    (weaker : ∀ s t, here s t → away s t) : Paired tolerance away walk walk' :=
  { paired with source := weaker _ _ paired.source }

/-- The terms on which records are scanned: nothing fails for good, but the second
source may go too far. -/
def scanning (tolerance : Tolerance) (away : σ → τ → Prop) (late : τ → Prop) :
    Terms WpgError (Walk σ) (Walk τ) where
  failed := Paired tolerance away
  late walk := late walk.source

/-- **Walks behind a record**, which stand at the same place if it has a bitmap. -/
structure Scanned (tolerance : Tolerance) (here away : σ → τ → Prop) (isBitmap : Bool)
    (walk : Walk σ) (walk' : Walk τ) : Prop extends Paired tolerance away walk walk' where
  /-- The raster begins at the same place. -/
  here : isBitmap = true → Paired tolerance here walk walk'

/-! ## Reads -/

section

variable (weaker : ∀ s t, here s t → away s t)

theorem onSource_compares {post : α → σ → τ → Prop} {step : EStateM WpgError σ α}
    {step' : EStateM WpgError τ α}
    (steps : Compares { failed := away, late } here post step step') :
    Compares (scanning tolerance away late) (Paired tolerance here)
      (fun a => Paired tolerance (post a)) (onSource step) (onSource step') where
  compared walk walk' paired := by
    have results := steps.compared _ _ paired.source
    unfold onSource
    generalize step walk.source = result, step' walk'.source = result' at results
    cases results with
    | ok related => exact .ok (paired.withSource related)
    | error same related => exact .error same (paired.withSource related)
    | fatal failed => exact failed.elim
    | late beyond =>
      refine .late ?_
      cases result' <;> exact beyond
  stays walk' beyond := by
    have there := steps.stays _ beyond
    show late _
    unfold onSource
    generalize step' walk'.source = result' at there ⊢
    cases result' <;> exact there

theorem read_compares {step : σ → α × σ} {step' : τ → α × τ}
    (reads : ReadsCompare late here step step') :
    Matches (scanning tolerance away late) (Paired tolerance here) (read step) (read step') :=
  onSource_compares reads.steps

/-- An attempt is a read whose answer says whether it failed. -/
theorem attempt_eq_read (step : SourceM σ α) :
    (attempt step : WalkM σ (Option α)) = read (answered step) := by
  funext walk
  show _ = EStateM.Result.ok (answered step walk.source).1
    { walk with source := (answered step walk.source).2 }
  unfold attempt answered
  cases step walk.source <;> rfl

theorem attempt_compares {step : SourceM σ α} {step' : SourceM τ α}
    (reads : ReadsCompare late here (answered step) (answered step')) :
    Matches (scanning tolerance away late) (Paired tolerance here) (attempt step)
      (attempt step') := by
  rw [attempt_eq_read, attempt_eq_read]
  exact read_compares reads

/-- A change that leaves the sources alone. -/
theorem modify_compares {pre post : Walk σ → Walk τ → Prop} {change : Walk σ → Walk σ}
    {change' : Walk τ → Walk τ} (alike : ∀ walk walk', pre walk walk' →
      post (change walk) (change' walk'))
    (same : ∀ walk', (change' walk').source = walk'.source) :
    Compares (scanning tolerance away late) pre (fun _ => post) (modify change : WalkM σ Unit)
      (modify change') where
  compared walk walk' related := .ok (alike walk walk' related)
  stays walk' beyond := by
    show late (change' walk').source
    rw [same]
    exact beyond

/-- What is done with a part of a walk that is the same in both. -/
theorem get_compares {γ : Type} {pre : Walk σ → Walk τ → Prop}
    {post : α → Walk σ → Walk τ → Prop} (part : Walk σ → γ) (part' : Walk τ → γ)
    (next : γ → WalkM σ α) (next' : γ → WalkM τ α)
    (same : ∀ walk walk', pre walk walk' → part walk = part' walk')
    (nexts : ∀ c, Compares (scanning tolerance away late) pre post (next c) (next' c)) :
    Compares (scanning tolerance away late) pre post (do next (part (← get)))
      (do next' (part' (← get))) where
  compared walk walk' related := by
    show Compared _ _ (next (part walk) walk) (next' (part' walk') walk')
    rw [← same walk walk' related]
    exact (nexts _).compared _ _ related
  stays walk' beyond := (nexts (part' walk')).stays walk' beyond

/-- A step of the sources whose failure fails the file. -/
theorem require_compares {post : α → σ → τ → Prop} {step : SourceM σ α} {step' : SourceM τ α}
    (steps : Compares { failed := away, late } here post step step') :
    Compares (scanning tolerance away late) (Paired tolerance here)
      (fun a => Paired tolerance (post a)) (require step) (require step') :=
  onSource_compares
    { compared := fun s t related => by
        have results := steps.compared s t related
        unfold EStateM.adaptExcept
        generalize step s = result, step' t = result' at results
        cases results with
        | ok behind => exact .ok behind
        | error same behind => exact .error (congrArg WpgError.source same) behind
        | fatal failed => exact failed.elim
        | late beyond =>
          refine .late ?_
          cases result' <;> exact beyond
      stays := fun t beyond => by
        have there := steps.stays t beyond
        unfold EStateM.adaptExcept
        generalize step' t = result' at there ⊢
        cases result' <;> exact there }

theorem note_compares (type : UInt8) (body length skip : Nat) :
    Matches (scanning tolerance away late) (Paired tolerance here)
      (note type body length skip) (note type body length skip) := by
  unfold note
  split
  · exact modify_compares (fun _ _ paired => { paired with embedded := by rw [paired.embedded] })
      fun _ => rfl
  · exact .pure ()

variable [ByteSource σ] [ByteSource τ]

omit weaker in
/-- **Palettes are loaded alike** if the same bytes are delivered. -/
theorem loadEntries_compares (level : Level) (start count : Nat)
    (taken : Compares { failed := away, late } here (fun _ => away)
      (ByteSource.takeUpTo (count * entryStride level) : SourceM σ Bytes)
      (ByteSource.takeUpTo (count * entryStride level))) :
    Compares (scanning {} away late) (Paired {} here) (fun _ => Paired {} away)
      (loadEntries level start count) (loadEntries level start count) := by
  unfold loadEntries
  refine (require_compares taken).bind fun bytes => ?_
  dsimp only
  split
  · exact modify_compares (fun _ _ paired => { paired with palette := rfl, paletteError := rfl })
      fun _ => rfl
  · exact .throw rfl fun _ _ => id

variable (likeness : Likeness late here)

include likeness weaker

theorem atEnd_compares :
    Matches (scanning tolerance away late) (Paired tolerance here) atEnd atEnd where
  compared walk walk' paired := by
    unfold atEnd
    rw [likeness.atEnd _ _ paired.source]
    split
    · exact .ok paired
    · exact .error rfl (paired.mono weaker)
  stays walk' beyond := by
    show late _
    unfold atEnd
    split <;> exact beyond

omit weaker in
theorem position_compares :
    Matches (scanning tolerance away late) (Paired tolerance here) position position :=
  get_compares (fun walk => ByteSource.position walk.source)
    (fun walk => ByteSource.position walk.source) _ _
    (fun _ _ paired => likeness.position _ _ paired.source) fun _ => .pure _

end

variable [ByteSource σ] [ByteSource τ]

/-- **Sources over which records are scanned alike**, in files of some size. -/
structure ScansAlike (tolerance : Tolerance) (here away : σ → τ → Prop) (late : τ → Prop)
    (size : Nat) : Prop where
  /-- At the same place, they are alike. -/
  likeness : Likeness late here
  /-- Then they have the same file as well. -/
  weaker : ∀ s t, here s t → away s t
  /-- In the same file, they can be moved to the same place. -/
  seek : ∀ offset s t, offset < size → away s t → ∃ s' t',
    ByteSource.seek (.start offset) s = .ok offset s'
      ∧ ByteSource.seek (.start offset) t = .ok offset t' ∧ (here s' t' ∨ late t')
  /-- Palettes are loaded alike, but may leave the sources at different places. -/
  entries : ∀ level start count, count ≠ 0 → Compares (scanning tolerance away late)
    (Paired tolerance here) (fun _ => Paired tolerance away) (loadEntries level start count)
    (loadEntries level start count)
  /-- The palettes without colours are related. -/
  empty : ∀ level : Level, tolerance.palettes level.emptyPalette level.emptyPalette

namespace ScansAlike

variable {size : Nat} (scans : ScansAlike tolerance here away late size)

include scans

/-- **Palette records compare.** -/
theorem readPalette (level : Level) (length : Nat) :
    Compares (scanning tolerance away late) (Paired tolerance here)
      (fun _ => Paired tolerance away) (Walk.readPalette level length)
      (Walk.readPalette level length) := by
  have number : Matches (scanning tolerance away late) (Paired tolerance here)
      (read ByteSource.u16LE) (read ByteSource.u16LE) := read_compares scans.likeness.u16LE
  have unloads : Compares (scanning tolerance away late) (Paired tolerance here)
      (fun _ => Paired tolerance away)
      (modify fun walk => { walk with palette := level.emptyPalette } : WalkM σ Unit)
      (modify fun walk => { walk with palette := level.emptyPalette }) :=
    modify_compares (fun _ _ paired =>
      { paired.mono scans.weaker with palette := scans.empty level }) fun _ => rfl
  have fails : ∀ err, Matches (scanning tolerance away late) (Paired tolerance here)
      (modify fun walk => { walk with paletteError := some err } : WalkM σ Unit)
      (modify fun walk => { walk with paletteError := some err }) := fun err =>
    modify_compares (fun _ _ paired => { paired with paletteError := rfl }) fun _ => rfl
  refine number.bind fun start => number.bind fun count => ?_
  dsimp only
  split
  · split
    · exact (fails _).bind fun _ => unloads
    · exact unloads
  · next some =>
    split
    · exact (fails _).weaken fun _ _ _ paired => paired.mono scans.weaker
    · exact scans.entries level _ _ some

/-- **What stands in front of a body compares**, wherever in the file the sources
stand before. -/
theorem front {plan : WalkPlan} {offset : Nat} (inside : offset < size) {walk : Walk σ}
    {walk' : Walk τ} (paired : Paired tolerance away walk walk') :
    Compared (scanning tolerance away late) (fun _ => Paired tolerance here)
      (Walk.front plan offset walk) (Walk.front plan offset walk') := by
  have sought : Compared (scanning tolerance away late) (fun _ => Paired tolerance here)
      (require (ByteSource.seek (.start offset)) walk)
      (require (ByteSource.seek (.start offset)) walk') := by
    obtain ⟨source, source', moved, moved', there⟩ := scans.seek offset _ _ inside paired.source
    unfold require onSource EStateM.adaptExcept
    rw [moved, moved']
    obtain there | beyond := there
    · exact .ok (paired.withSource there)
    · exact .late beyond
  have next : Matches (scanning tolerance away late) (Paired tolerance here)
      (attempt ByteSource.next) (attempt ByteSource.next) := attempt_compares scans.likeness.next
  have number : Matches (scanning tolerance away late) (Paired tolerance here)
      (read VarInt.read) (read VarInt.read) := onSource_compares scans.likeness.varInt
  have ended : Matches (scanning tolerance away late) (Paired tolerance here) atEnd atEnd :=
    atEnd_compares scans.weaker scans.likeness
  have body : Matches (scanning tolerance away late) (Paired tolerance here) position position :=
    position_compares scans.likeness
  unfold Walk.front
  cases plan.level with
  | one =>
    dsimp only
    unfold frontOne
    refine sought.bind fun _ => next.bind fun type? => ?_
    split
    · refine number.bind fun length => ?_
      dsimp only
      have tooLong : Matches (scanning tolerance away late) (Paired tolerance here)
          (throw (.improperRecord .tooLong) : WalkM σ PUnit) (throw (.improperRecord .tooLong)) :=
        .throw rfl fun _ _ paired => paired.mono scans.weaker
      refine .ite (fun _ => tooLong.bind fun _ => ?_) fun _ => ?_
      all_goals
        refine ended.bind fun ended => .ite (fun _ => .pure none) fun _ => ?_
        exact body.bind fun body => .ite (fun _ => .pure none) fun _ => .pure _
    · exact .pure none
  | two =>
    dsimp only
    unfold frontTwo
    refine sought.bind fun _ => next.bind fun class? => ?_
    split
    · refine next.bind fun type? => ?_
      split
      · refine number.bind fun _ => number.bind fun length => ended.bind fun ended => ?_
        exact .ite (fun _ => .pure none) fun _ => body.bind fun body => .pure _
      · exact .pure none
    · exact .pure none

/-- **The bodies of records compare.** -/
theorem inspect (level : Level) (front : RecordFront) :
    Compares (scanning tolerance away late) (Paired tolerance here)
      (fun bitmap? => Scanned tolerance here away bitmap?.isSome)
      (Walk.inspect level front) (Walk.inspect level front) := by
  have word : Matches (scanning tolerance away late) (Paired tolerance here)
      (read ByteSource.u16LE) (read ByteSource.u16LE) := read_compares scans.likeness.u16LE
  have described : ∀ (bitmap? : Option Bitmap) walk walk', Paired tolerance here walk walk' →
      Scanned tolerance here away bitmap?.isSome walk walk' := fun _ _ _ paired =>
    ⟨paired.mono scans.weaker, fun _ => paired⟩
  have nothing : Compares (scanning tolerance away late) (Paired tolerance here)
      (fun bitmap? : Option Bitmap => Scanned tolerance here away bitmap?.isSome)
      (pure none : WalkM σ (Option Bitmap)) (pure none) := .answer (described none)
  have palette : ∀ level, Compares (scanning tolerance away late) (Paired tolerance here)
      (fun bitmap? : Option Bitmap => Scanned tolerance here away bitmap?.isSome)
      (do Walk.readPalette level front.length; return none)
      (do Walk.readPalette level front.length; return none) := fun level =>
    (scans.readPalette level front.length).bind fun _ =>
      .answer fun _ _ paired => ⟨paired, nofun⟩
  have noted : ∀ type body length skip, Matches (scanning tolerance away late)
      (Paired tolerance here) (note type body length skip) (note type body length skip) :=
    note_compares
  have refl : ∀ err : WpgError, err = err := fun _ => rfl
  unfold Walk.inspect
  cases level with
  | one =>
    dsimp only
    unfold inspectOne
    split
    · exact (onSource_compares (scans.likeness.readPlain refl scans.weaker)).bind fun bitmap =>
        .answer (described (some bitmap))
    · exact (onSource_compares (scans.likeness.readPlaced refl scans.weaker)).bind fun bitmap =>
        .answer (described (some bitmap))
    · exact palette .one
    · exact (noted ..).bind fun _ => nothing
    · exact (noted ..).bind fun _ => nothing
    · exact nothing
  | two =>
    dsimp only
    unfold inspectTwo
    split
    · refine word.bind fun _ => word.bind fun _ => ?_
      refine (read_compares scans.likeness.nextOrZero).bind fun precision => ?_
      have sets : Matches (scanning tolerance away late) (Paired tolerance here)
          (modify fun walk => { walk with precision } : WalkM σ Unit)
          (modify fun walk => { walk with precision }) :=
        modify_compares (fun _ _ paired => { paired with precision := rfl }) fun _ => rfl
      exact sets.bind fun _ => nothing
    · exact palette .two
    · refine get_compares Walk.transform Walk.transform
        (fun transform => onSource (Bitmap.readCoded transform))
        (fun transform => onSource (Bitmap.readCoded transform))
        (fun _ _ paired => Paired.transform paired) fun transform => ?_
      exact (onSource_compares (scans.likeness.readCoded refl scans.weaker transform)).weaken
        described
    · exact word.bind fun skip => (noted ..).bind fun _ => nothing
    · have sets : ∀ transform, Matches (scanning tolerance away late) (Paired tolerance here)
          (modify fun walk => { walk with transform } : WalkM σ Unit)
          (modify fun walk => { walk with transform }) := fun transform =>
        modify_compares (fun _ _ paired => { paired with transform := rfl }) fun _ => rfl
      refine get_compares Walk.precision Walk.precision
        (fun precision => (do
          let transform ← read (Transform.read precision)
          modify fun walk => { walk with transform }
          return none : WalkM σ (Option Bitmap)))
        (fun precision => (do
          let transform ← read (Transform.read precision)
          modify fun walk => { walk with transform }
          return none : WalkM τ (Option Bitmap)))
        (fun _ _ paired => Paired.precision paired) fun precision => ?_
      exact (onSource_compares (scans.likeness.transform precision)).bind fun transform =>
        (sets transform).bind fun _ => nothing
    · exact nothing

/-- **A record is scanned alike**, wherever in the file the sources stand before. -/
theorem scan {plan : WalkPlan} {offset : Nat} (inside : offset < size) {walk : Walk σ}
    {walk' : Walk τ} (paired : Paired tolerance away walk walk') :
    Compared (scanning tolerance away late)
      (fun found => Scanned tolerance here away found.bitmap?.isSome)
      (Walk.scan plan offset walk) (Walk.scan plan offset walk') := by
  unfold Walk.scan
  refine (scans.front inside paired).bind fun front? => ?_
  split
  · refine (scans.inspect plan.level _).bind fun bitmap? => .answer ?_
    cases bitmap? <;> exact fun _ _ scanned => scanned
  · exact .answer fun _ _ paired => ⟨paired.mono scans.weaker, nofun⟩

end ScansAlike

end Walk

end WpgRaster
