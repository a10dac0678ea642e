import WpgRaster.Proofs.Container.Settling

/-!
# The visits of a walk

A walk visits one record after another. What it comes by, and what it adds to
the frames and to the embedded files on the way, is written down as a list
(`Walk.visits`). The *course* of a walk is the same as a relation between its
beginning, its visits and its end (`Walk.Course`), with one rule for every way
a step can turn out, so that what is true of the visits is shown by induction.

Nothing that is said about a bitmap before it is settled depends on the
options. So a walk with other options, or for the header alone, makes the same
visits up to the first bitmap (`Walk.Course.first`).
-/

namespace WpgRaster

/-- **A visit**: a record that a walk came by. -/
structure Visit where
  /-- Where the record begins. -/
  offset : Nat
  /-- What was found there. -/
  found : Found
  /-- The frames that were delivered for it, at most one. -/
  frames : List Frame
  /-- The embedded files that were noted, at most one. -/
  embedded : List EmbeddedFile
  deriving DecidableEq, Repr

namespace Visit

/-- The bitmap that was found. -/
def bitmap? (visit : Visit) : Option Bitmap := visit.found.bitmap?

/-- The offset of the next record, if a record was found. -/
def next? (visit : Visit) : Option Nat := visit.found.next?

end Visit

namespace Walk

variable {σ : Type} [ByteSource σ]

/-- What a walk finds at an offset, if nothing fails. -/
def foundAt (plan : WalkPlan) (offset : Nat) (walk : Walk σ) : Found :=
  match scan plan offset walk with
  | .ok found _ => found
  | .error _ _ => .ended

/-- The visit at an offset, of a walk that is known before and behind it. -/
def visit (plan : WalkPlan) (offset : Nat) (walk walk' : Walk σ) : Visit :=
  { offset
    found := foundAt plan offset walk
    frames := walk'.frames.toList.drop walk.frames.size
    embedded := walk'.embedded.toList.drop walk.embedded.size }

/-- **The visits of a walk** from an offset on, but at most `fuel` of them. -/
def visits (plan : WalkPlan) : (fuel offset : Nat) → Walk σ → List Visit
  | 0, _, _ => []
  | fuel + 1, offset, walk =>
    if plan.fileSize ≤ offset then []
    else match step plan offset walk with
      | .ok (some next) walk' => visit plan offset walk walk' :: visits plan fuel next walk'
      | .ok none walk' => [visit plan offset walk walk']
      | .error _ _ => []

/-- **The course of a walk** that goes well, from an offset on. -/
inductive Course (plan : WalkPlan) : (fuel offset : Nat) → Walk σ → List Visit → Walk σ → Prop
  /-- It has come by as many records as it may. -/
  | exhausted {offset : Nat} {walk : Walk σ} : Course plan 0 offset walk [] walk
  /-- The file has ended. -/
  | beyond {fuel offset : Nat} {walk : Walk σ} : plan.fileSize ≤ offset →
    Course plan (fuel + 1) offset walk [] walk
  /-- It ends at a record. -/
  | ended {fuel offset : Nat} {walk walk' : Walk σ} : offset < plan.fileSize →
    step plan offset walk = .ok none walk' →
    Course plan (fuel + 1) offset walk [visit plan offset walk walk'] walk'
  /-- It goes on to the next record. -/
  | next {fuel offset next : Nat} {walk walk' last : Walk σ} {later : List Visit} :
    offset < plan.fileSize → step plan offset walk = .ok (some next) walk' →
    Course plan fuel next walk' later last →
    Course plan (fuel + 1) offset walk (visit plan offset walk walk' :: later) last

section

variable {plan : WalkPlan} {fuel offset : Nat} {walk last : Walk σ} {found : List Visit}

/-- **Every walk that goes well has a course**, along its visits. -/
theorem course_of_steps (ran : steps plan fuel offset walk = .ok () last) :
    Course plan fuel offset walk (visits plan fuel offset walk) last := by
  induction fuel generalizing offset walk with
  | zero =>
    cases ran
    exact .exhausted
  | succ fuel ih =>
    unfold visits
    by_cases beyond : plan.fileSize ≤ offset
    · rw [if_pos beyond]
      rw [steps, if_pos beyond] at ran
      cases ran
      exact .beyond beyond
    · rw [if_neg beyond]
      rw [steps, if_neg beyond] at ran
      obtain ⟨next?, walk', stepped, ran⟩ := exists_of_bind_ok ran
      rw [stepped]
      cases next? with
      | none =>
        cases ran
        exact .ended (Nat.lt_of_not_le beyond) stepped
      | some next => exact .next (Nat.lt_of_not_le beyond) stepped (ih ran)

/-- **Every course is taken**, and its visits are those of the walk. -/
theorem Course.steps_eq (course : Course plan fuel offset walk found last) :
    steps plan fuel offset walk = .ok () last ∧ visits plan fuel offset walk = found := by
  induction course with
  | exhausted => exact ⟨rfl, rfl⟩
  | beyond beyond =>
    unfold steps visits
    rw [if_pos beyond, if_pos beyond]
    exact ⟨rfl, rfl⟩
  | ended inside stepped =>
    have inside := Nat.not_le.mpr inside
    unfold steps visits
    rw [if_neg inside, if_neg inside, bind_of_ok stepped, stepped]
    exact ⟨rfl, rfl⟩
  | next inside stepped _ ih =>
    have inside := Nat.not_le.mpr inside
    unfold steps visits
    rw [if_neg inside, if_neg inside, bind_of_ok stepped, stepped]
    exact ⟨ih.1, congrArg _ ih.2⟩

/-- What is found is what was scanned. -/
theorem foundAt_of_scan {found : Found} {walk' : Walk σ}
    (scanned : scan plan offset walk = .ok found walk') : foundAt plan offset walk = found := by
  unfold foundAt
  rw [scanned]

/-- A step that went well found something and settled it. -/
theorem step_ok {next? : Option Nat} {walk' : Walk σ}
    (stepped : step plan offset walk = .ok next? walk') :
    ∃ mid, scan plan offset walk = .ok (foundAt plan offset walk) mid
      ∧ settle plan (foundAt plan offset walk) mid = .ok next? walk' := by
  rw [step_eq_scan] at stepped
  obtain ⟨found, mid, scanned, settled⟩ := exists_of_bind_ok stepped
  rw [foundAt_of_scan scanned]
  exact ⟨mid, scanned, settled⟩

end

/-! ## What visits add up to -/

section

variable [LawfulByteSource σ] {plan : WalkPlan}

section

variable {rel : Walk σ → Walk σ → Prop} [IsPreorder (Walk σ) rel]

omit [LawfulByteSource σ] in
/-- A step upholds what scanning a record and handling a bitmap uphold. -/
theorem step_upholds (scans : ∀ offset, Upholds rel (scan plan offset : WalkM σ Found))
    (handles : ∀ bitmap, Upholds rel (handleBitmap plan bitmap : WalkM σ Bool)) (offset : Nat) :
    Upholds rel (step plan offset : WalkM σ (Option Nat)) := by
  rw [step_eq_scan]
  refine (scans offset).bind fun found => ?_
  cases found with
  | ended => exact .pure none
  | passed next => exact .pure (some next)
  | bitmap bitmap next =>
    refine (handles bitmap).bind fun more => ?_
    split <;> exact .pure _

omit [LawfulByteSource σ] in
/-- A walk upholds what each of its steps upholds. -/
theorem steps_upholds (each : ∀ offset, Upholds rel (step plan offset : WalkM σ (Option Nat)))
    (fuel offset : Nat) : Upholds rel (steps plan fuel offset : WalkM σ Unit) := by
  induction fuel generalizing offset with
  | zero => exact .pure ()
  | succ fuel ih =>
    unfold steps
    split
    · exact .pure ()
    · refine (each offset).bind fun next? => ?_
      split
      · exact ih _
      · exact .pure ()

end

theorem step_proceeds (plan : WalkPlan) (offset : Nat) :
    Upholds Proceeds (step plan offset : WalkM σ (Option Nat)) :=
  step_upholds (fun offset => (scan_passes plan offset).mono fun _ _ => Passes.proceeds)
    (fun bitmap => (handleBitmap_proceeds plan bitmap).mono fun _ _ => And.left) offset

/-- **A walk proceeds**, also if it fails. -/
theorem steps_proceeds (plan : WalkPlan) (fuel offset : Nat) :
    Upholds Proceeds (steps plan fuel offset : WalkM σ Unit) :=
  steps_upholds (step_proceeds plan) fuel offset

/-- Unless the header is all that is wanted, no bitmap is taken down, also if
the walk fails. -/
theorem steps_firstBitmap (decodes : plan.headersOnly = false) (fuel offset : Nat) :
    Upholds (fun walk walk' => walk'.firstBitmap = walk.firstBitmap)
      (steps plan fuel offset : WalkM σ Unit) := by
  have preorder : IsPreorder (Walk σ) fun walk walk' => walk'.firstBitmap = walk.firstBitmap :=
    { refl := fun _ => rfl, trans := fun _ _ _ first second => second.trans first }
  refine steps_upholds (step_upholds (fun offset => ?_) fun bitmap => ?_) fuel offset
  · exact (scan_passes plan offset).mono fun _ _ => Passes.firstBitmap
  · exact (handleBitmap_proceeds plan bitmap).mono fun _ _ handled => handled.2.2 decodes

variable {fuel offset : Nat} {walk walk' last : Walk σ} {found : List Visit}

omit [LawfulByteSource σ] in
/-- A visit says what a step added. -/
theorem visit_adds (plan : WalkPlan) (offset : Nat) (stepped : Proceeds walk walk') :
    walk'.frames.toList = walk.frames.toList ++ (visit plan offset walk walk').frames
      ∧ walk'.embedded.toList
        = walk.embedded.toList ++ (visit plan offset walk walk').embedded := by
  refine ⟨?_, ?_⟩
  · obtain ⟨more, frames⟩ := stepped.frames
    show _ = _ ++ walk'.frames.toList.drop walk.frames.size
    rw [← frames, ← Array.length_toList, List.drop_left]
  · obtain ⟨more, embedded⟩ := stepped.embedded
    show _ = _ ++ walk'.embedded.toList.drop walk.embedded.size
    rw [← embedded, ← Array.length_toList, List.drop_left]

/-- **The frames and the embedded files of a walk** are those of its visits. -/
theorem Course.adds (course : Course plan fuel offset walk found last) :
    last.frames.toList = walk.frames.toList ++ found.flatMap Visit.frames
      ∧ last.embedded.toList = walk.embedded.toList ++ found.flatMap Visit.embedded := by
  induction course with
  | exhausted => exact ⟨(List.append_nil _).symm, (List.append_nil _).symm⟩
  | beyond => exact ⟨(List.append_nil _).symm, (List.append_nil _).symm⟩
  | @ended fuel offset walk walk' _ stepped =>
    obtain ⟨frames, embedded⟩ := visit_adds plan offset
      ((step_proceeds plan _).of_ok stepped)
    rw [List.flatMap_singleton, List.flatMap_singleton]
    exact ⟨frames, embedded⟩
  | @next fuel offset next walk walk' last later _ stepped _ ih =>
    obtain ⟨frames, embedded⟩ := visit_adds plan offset
      ((step_proceeds plan _).of_ok stepped)
    rw [List.flatMap_cons, List.flatMap_cons, ← List.append_assoc, ← List.append_assoc, ← frames,
      ← embedded]
    exact ih

end

/-! ## Where a walk comes from does not matter -/

section

variable {plan : WalkPlan}

/-- A walk whose source is another one. -/
def withSource (walk : Walk σ) (source : σ) : Walk σ := { walk with source }

omit [ByteSource σ] in
/-- A step that does the same to another source. -/
theorem onSource_withSource {α : Type} {step : EStateM WpgError σ α} {walk : Walk σ} {source : σ}
    (same : step source = step walk.source) :
    onSource step (walk.withSource source) = onSource step walk := by
  unfold onSource withSource
  dsimp only
  rw [same]

/-- A record is sought by its offset, so nothing else matters of a source than
its file. -/
theorem scan_withSource (plan : WalkPlan) (offset : Nat) {walk : Walk σ} {source : σ}
    (same : SameFile walk.source source) :
    (scan plan offset (walk.withSource source) : EStateM.Result ..) = scan plan offset walk := by
  have sought : (require (ByteSource.seek (.start offset)) : WalkM σ Nat) (walk.withSource source)
      = require (ByteSource.seek (.start offset)) walk := by
    refine onSource_withSource ?_
    unfold EStateM.adaptExcept
    rw [same.seek_eq]
  unfold scan front
  cases plan.level with
  | one =>
    dsimp only
    unfold frontOne
    rw [bind_assoc, bind_assoc]
    exact bind_congr_left sought
  | two =>
    dsimp only
    unfold frontTwo
    rw [bind_assoc, bind_assoc]
    exact bind_congr_left sought

theorem step_withSource (plan : WalkPlan) (offset : Nat) {walk : Walk σ} {source : σ}
    (same : SameFile walk.source source) :
    step plan offset (walk.withSource source) = step plan offset walk := by
  rw [step_eq_scan]
  exact bind_congr_left (scan_withSource plan offset same)

theorem visit_withSource (plan : WalkPlan) (offset : Nat) {walk : Walk σ} {source : σ}
    (same : SameFile walk.source source) (walk' : Walk σ) :
    visit plan offset (walk.withSource source) walk' = visit plan offset walk walk' := by
  have found : foundAt plan offset (walk.withSource source) = foundAt plan offset walk := by
    unfold foundAt
    rw [scan_withSource plan offset same]
  unfold visit
  rw [found]
  rfl

/-- **A walk makes the same visits** from wherever in the file its source
comes. -/
theorem Course.withSource {fuel offset : Nat} {walk last : Walk σ} {found : List Visit}
    (course : Course plan fuel offset walk found last) {source : σ}
    (same : SameFile walk.source source) :
    ∃ source',
      Course plan fuel offset (walk.withSource source) found (last.withSource source') := by
  cases course with
  | exhausted => exact ⟨source, .exhausted⟩
  | beyond beyond => exact ⟨source, .beyond beyond⟩
  | ended inside stepped =>
    refine ⟨last.source, ?_⟩
    rw [← visit_withSource plan offset same]
    exact .ended inside ((step_withSource plan offset same).trans stepped)
  | next inside stepped course =>
    refine ⟨last.source, ?_⟩
    rw [← visit_withSource plan offset same]
    exact .next inside ((step_withSource plan offset same).trans stepped) course

end

/-! ## The first bitmap -/

section

variable {plan : WalkPlan} {fuel offset : Nat} {walk last : Walk σ} {found : List Visit}

/-- What is no bitmap is settled by going on. -/
theorem settle_of_bitmap?_eq_none (plan : WalkPlan) {found : Found} (none : found.bitmap? = none) :
    (settle plan found : WalkM σ (Option Nat)) = pure found.next? := by
  cases found with
  | ended => rfl
  | passed next => rfl
  | bitmap bitmap next => cases none

/-- A bitmap is handled, and the walk goes on or ends. -/
theorem settle_bitmap_ok {bitmap : Bitmap} {next : Nat} {next? : Option Nat} {walk' : Walk σ}
    (settled : settle plan (.bitmap bitmap next) walk = .ok next? walk') :
    ∃ more, handleBitmap plan bitmap walk = .ok more walk'
      ∧ next? = if more then some next else none := by
  obtain ⟨more, mid, handled, settled⟩ := exists_of_bind_ok settled
  refine ⟨more, ?_⟩
  cases more with
  | true =>
    cases settled
    exact ⟨handled, rfl⟩
  | false =>
    cases settled
    exact ⟨handled, rfl⟩

/-- So it is settled. -/
theorem settle_bitmap_of_ok {bitmap : Bitmap} {next : Nat} {more : Bool} {walk' : Walk σ}
    (handled : handleBitmap plan bitmap walk = .ok more walk') :
    settle plan (.bitmap bitmap next) walk = .ok (if more then some next else none) walk' := by
  refine (bind_of_ok handled).trans ?_
  cases more <;> rfl

variable [LawfulByteSource σ]

/-- **A step comes by no bitmap**, and then it is the same with all options and
for the header alone; or it handles one. -/
theorem step_cases {next? : Option Nat} {walk' : Walk σ}
    (stepped : step plan offset walk = .ok next? walk') :
    ((foundAt plan offset walk).bitmap? = none ∧ Passes walk walk'
        ∧ ∀ options headersOnly,
          step { plan with options, headersOnly } offset walk = .ok next? walk')
      ∨ ∃ bitmap next mid, scan plan offset walk = .ok (.bitmap bitmap next) mid
        ∧ ∃ more, handleBitmap plan bitmap mid = .ok more walk'
          ∧ next? = if more then some next else none := by
  obtain ⟨mid, scanned, settled⟩ := step_ok stepped
  cases bitmap? : (foundAt plan offset walk).bitmap? with
  | none =>
    rw [settle_of_bitmap?_eq_none plan bitmap?] at settled
    refine .inl ⟨rfl, ?_, fun options headersOnly => ?_⟩
    · have same : mid = walk' := (EStateM.Result.ok.inj settled).2
      exact same ▸ (scan_passes plan offset).of_ok scanned
    · have scanned' : scan { plan with options, headersOnly } offset walk = _ := scanned
      rw [step_eq_scan, bind_of_ok scanned', settle_of_bitmap?_eq_none _ bitmap?]
      exact settled
  | some bitmap =>
    cases found : foundAt plan offset walk with
    | bitmap described next =>
      rw [found] at scanned settled
      exact .inr ⟨described, next, mid, scanned, settle_bitmap_ok settled⟩
    | _ =>
      rw [found] at bitmap?
      cases bitmap?

/-- **The way to the first bitmap** of a walk: the visits on it, where it leads,
and what is found there. It is the same with all options, and for the header
alone. -/
structure WayTo (plan : WalkPlan) (fuel offset : Nat) (walk : Walk σ) (front : List Visit)
    (fuel' here : Nat) (before : Walk σ) (bitmap : Bitmap) (next : Nat) (mid : Walk σ) : Prop where
  /-- There are no bitmaps on the way. -/
  bitmaps : ∀ visit ∈ front, visit.bitmap? = none
  /-- It leads to a record inside the file. -/
  inside : here < plan.fileSize
  /-- There the bitmap is found. -/
  scanned : scan plan here before = .ok (.bitmap bitmap next) mid
  /-- There are no more frames than before. -/
  frames : before.frames = walk.frames
  /-- Embedded files were noted on the way. -/
  embedded : before.embedded.toList = walk.embedded.toList ++ front.flatMap Visit.embedded
  /-- Whatever a walk does from there on, the way leads to it. -/
  leads : ∀ options headersOnly later last,
    Course { plan with options, headersOnly } (fuel' + 1) here before later last →
    Course { plan with options, headersOnly } fuel offset walk (front ++ later) last

/-- **A walk comes by no bitmap**, and then it would do the same with all options
and for the header alone; or it comes by a first one. -/
theorem Course.first (course : Course plan fuel offset walk found last) :
    ((∀ visit ∈ found, visit.bitmap? = none) ∧ last.frames = walk.frames
        ∧ last.firstBitmap = walk.firstBitmap
        ∧ ∀ options headersOnly,
          Course { plan with options, headersOnly } fuel offset walk found last)
      ∨ ∃ front later fuel' here before bitmap next mid, found = front ++ later
        ∧ WayTo plan fuel offset walk front fuel' here before bitmap next mid
        ∧ Course plan (fuel' + 1) here before later last := by
  induction course with
  | exhausted => exact .inl ⟨nofun, rfl, rfl, fun _ _ => .exhausted⟩
  | beyond beyond => exact .inl ⟨nofun, rfl, rfl, fun _ _ => .beyond beyond⟩
  | @ended fuel offset walk walk' inside stepped =>
    obtain ⟨none, passes, same⟩ | ⟨bitmap, next, mid, scanned, -⟩ := step_cases stepped
    · refine .inl ⟨?_, passes.frames, passes.firstBitmap, fun options headersOnly =>
        .ended inside (same options headersOnly)⟩
      rintro visit among
      rw [List.mem_singleton.mp among]
      exact none
    · exact .inr ⟨[], _, fuel, offset, walk, bitmap, next, mid, rfl,
        ⟨nofun, inside, scanned, rfl, (List.append_nil _).symm, fun _ _ _ _ => id⟩,
        .ended inside stepped⟩
  | @next fuel offset next walk walk' last later inside stepped course ih =>
    obtain ⟨none, passes, same⟩ | ⟨bitmap, next, mid, scanned, -⟩ := step_cases stepped
    · obtain ⟨nothing, frames, firstBitmap, same'⟩
        | ⟨front, later', fuel', here, before, bitmap, next', mid, split, way, course'⟩ := ih
      · exact .inl ⟨List.forall_mem_cons.mpr ⟨none, nothing⟩, frames.trans passes.frames,
          firstBitmap.trans passes.firstBitmap, fun options headersOnly =>
            .next inside (same options headersOnly) (same' options headersOnly)⟩
      · have adds := (visit_adds plan offset passes.proceeds).2
        refine .inr ⟨visit plan offset walk walk' :: front, later', fuel', here, before, bitmap,
          next', mid, congrArg _ split, ?_, course'⟩
        exact
          { bitmaps := List.forall_mem_cons.mpr ⟨none, way.bitmaps⟩
            inside := way.inside
            scanned := way.scanned
            frames := way.frames.trans passes.frames
            embedded := by
              rw [way.embedded, adds, List.flatMap_cons, List.append_assoc]
            leads := fun options headersOnly later last course =>
              .next inside (same options headersOnly)
                (way.leads options headersOnly later last course) }
    · exact .inr ⟨[], _, fuel, offset, walk, bitmap, next, mid, rfl,
        ⟨nofun, inside, scanned, rfl, (List.append_nil _).symm, fun _ _ _ _ => id⟩,
        .next inside stepped course⟩

omit [LawfulByteSource σ] in
/-- From a bitmap on, a course handles it, and then goes on or ends. -/
theorem Course.of_bitmap {bitmap : Bitmap} {next : Nat} {mid : Walk σ}
    (course : Course plan (fuel + 1) offset walk found last) (inside : offset < plan.fileSize)
    (scanned : scan plan offset walk = .ok (.bitmap bitmap next) mid) :
    ∃ more walk' later, handleBitmap plan bitmap mid = .ok more walk'
      ∧ found = visit plan offset walk walk' :: later
      ∧ (more = false → later = [] ∧ last = walk')
      ∧ (more = true → Course plan fuel next walk' later last) := by
  have settled : ∀ {next? walk'}, step plan offset walk = .ok next? walk' →
      ∃ more, handleBitmap plan bitmap mid = .ok more walk'
        ∧ next? = if more then some next else none := by
    intro next? walk' stepped
    rw [step_eq_scan, bind_of_ok scanned] at stepped
    exact settle_bitmap_ok stepped
  cases course with
  | beyond beyond => exact absurd inside (Nat.not_lt.mpr beyond)
  | ended _ stepped =>
    obtain ⟨more, handled, ends⟩ := settled stepped
    cases more with
    | true => cases ends
    | false => exact ⟨false, last, [], handled, rfl, fun _ => ⟨rfl, rfl⟩, nofun⟩
  | @next _ _ _ _ walk' _ later _ stepped course =>
    obtain ⟨more, handled, goesOn⟩ := settled stepped
    cases more with
    | true =>
      cases goesOn
      exact ⟨true, walk', later, handled, rfl, nofun, fun _ => course⟩
    | false => cases goesOn

omit [LawfulByteSource σ] in
/-- A bitmap that ends the walk is its last visit. -/
theorem Course.of_handled {bitmap : Bitmap} {next : Nat} {mid walk' : Walk σ}
    (inside : offset < plan.fileSize)
    (scanned : scan plan offset walk = .ok (.bitmap bitmap next) mid)
    (handled : handleBitmap plan bitmap mid = .ok false walk') :
    Course plan (fuel + 1) offset walk [visit plan offset walk walk'] walk' := by
  refine .ended inside ?_
  rw [step_eq_scan, bind_of_ok scanned]
  exact settle_bitmap_of_ok handled

omit [LawfulByteSource σ] in
/-- The visit that the way leads to is the first one of a bitmap. -/
theorem WayTo.find?_eq {front : List Visit} {fuel' here next : Nat} {before mid : Walk σ}
    {bitmap : Bitmap} (way : WayTo plan fuel offset walk front fuel' here before bitmap next mid)
    (walk' : Walk σ) (later : List Visit) :
    (visit plan here before walk').bitmap? = some bitmap
      ∧ (front ++ visit plan here before walk' :: later).find? (·.bitmap?.isSome)
        = some (visit plan here before walk') := by
  have bitmap? : (visit plan here before walk').bitmap? = some bitmap := by
    show (foundAt plan here before).bitmap? = _
    rw [foundAt_of_scan way.scanned]
    rfl
  have nothing : front.find? (·.bitmap?.isSome) = none := by
    refine List.find?_eq_none.mpr fun visit among => ?_
    rw [way.bitmaps visit among]
    exact Bool.false_ne_true
  rw [List.find?_append, nothing, Option.none_or, List.find?_cons_of_pos (by rw [bitmap?]; rfl)]
  exact ⟨bitmap?, rfl⟩

/-- What is delivered at a bitmap are its frames. -/
theorem frames_of_handled {bitmap : Bitmap} {next : Nat} {mid walk' : Walk σ} {more : Bool}
    (scanned : scan plan offset walk = .ok (.bitmap bitmap next) mid)
    (handled : Handled plan bitmap mid more walk') (decodes : plan.headersOnly = false) :
    (visit plan offset walk walk').frames = framesOf plan bitmap mid
      ∧ walk'.frames.toList = walk.frames.toList ++ framesOf plan bitmap mid := by
  obtain ⟨_, _, _, _, _, _, moved⟩ := scan_bitmap scanned
  have same : mid.frames = walk.frames := by rw [moved.eq]
  have added := (handled.frames_eq decodes).2
  rw [same] at added
  refine ⟨?_, added⟩
  show walk'.frames.toList.drop walk.frames.size = _
  rw [added, ← Array.length_toList, List.drop_left]

/-- The frames that are delivered there are those of the bitmap, and the first
ones of the walk. -/
theorem WayTo.frames_eq {front : List Visit} {fuel' here next : Nat} {before mid walk' : Walk σ}
    {bitmap : Bitmap} {more : Bool}
    (way : WayTo plan fuel offset walk front fuel' here before bitmap next mid)
    (handled : Handled plan bitmap mid more walk') (decodes : plan.headersOnly = false) :
    (visit plan here before walk').frames = framesOf plan bitmap mid
      ∧ walk'.frames.toList = walk.frames.toList ++ framesOf plan bitmap mid := by
  obtain ⟨delivered, added⟩ := frames_of_handled way.scanned handled decodes
  exact ⟨delivered, way.frames ▸ added⟩

end

end Walk

end WpgRaster
