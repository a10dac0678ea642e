import WpgRaster.Container.Bitmap
import WpgRaster.Proofs.Comparison
import WpgRaster.Source.VarInt

/-!
# Sources that are alike

What stands in front of a raster is read by few operations: single bytes and
short numbers that are zeros if they are missing, and a byte that may not be
missing at the beginning of a record. Two sources are *alike* if these compare
(`Likeness`), either for good or until the second source comes to a position
that it is too late at, which it never leaves by reading. Everything that is
built from these operations then compares as well: lengths of records, the
fields of a bitmap, transforms.
-/

namespace WpgRaster

variable {ε σ τ α β : Type}

/-- **Reads that compare.** They do not fail. -/
structure ReadsCompare (late : τ → Prop) (rel : σ → τ → Prop) (read : σ → α × σ)
    (read' : τ → α × τ) : Prop where
  /-- They answer the same, unless the second one went too far. -/
  compared : ∀ s t, rel s t →
    ((read s).1 = (read' t).1 ∧ rel (read s).2 (read' t).2) ∨ late (read' t).2
  /-- The second one stays where it is too late. -/
  stays : ∀ t, late t → late (read' t).2

/-- Such reads are steps that compare. -/
theorem ReadsCompare.steps {terms : Terms ε σ τ} {rel : σ → τ → Prop} {read : σ → α × σ}
    {read' : τ → α × τ} (compares : ReadsCompare terms.late rel read read') :
    Matches terms rel (modifyGet read) (modifyGet read') where
  compared s t related := by
    show Compared terms _ (.ok (read s).1 (read s).2) (.ok (read' t).1 (read' t).2)
    obtain ⟨same, behind⟩ | beyond := compares.compared s t related
    · rw [same]
      exact .ok behind
    · exact .late beyond
  stays := compares.stays

/-- What is made of an answer is the same as well. -/
theorem ReadsCompare.map {late : τ → Prop} {rel : σ → τ → Prop} {read : σ → α × σ}
    {read' : τ → α × τ} (compares : ReadsCompare late rel read read') (f : α → β) :
    ReadsCompare late rel (fun s => (f (read s).1, (read s).2))
      (fun t => (f (read' t).1, (read' t).2)) where
  compared s t related :=
    (compares.compared s t related).imp_left fun ⟨same, behind⟩ => ⟨congrArg f same, behind⟩
  stays := compares.stays

/-- The answer of a step that may fail, if it has one. -/
def answered (step : SourceM σ α) (source : σ) : Option α × σ :=
  match step source with
  | .ok a source => (some a, source)
  | .error _ source => (none, source)

/-- Whether steps answer anything is the same if they compare. -/
theorem answered_compares {alike : SourceError → SourceError → Prop}
    {rel : σ → τ → Prop} {step : SourceM σ α} {step' : SourceM τ α}
    (steps : Matches { alike, failed := rel } rel step step') :
    ReadsCompare (fun _ => False) rel (answered step) (answered step') where
  compared s t related := by
    have results := steps.compared s t related
    unfold answered
    generalize step s = result, step' t = result' at results
    cases results with
    | ok behind => exact .inl ⟨rfl, behind⟩
    | error _ behind => exact .inl ⟨rfl, behind⟩
    | fatal failed => exact failed.elim
    | late beyond => exact beyond.elim
  stays _ beyond := beyond.elim

/-- **Sources that are alike**, as far as records are read in front of rasters. -/
structure Likeness [ByteSource σ] [ByteSource τ] (late : τ → Prop) (rel : σ → τ → Prop) :
    Prop where
  /-- The next byte or 0. -/
  nextOrZero : ReadsCompare late rel ByteSource.nextOrZero ByteSource.nextOrZero
  /-- The next bytes or zeros. -/
  takeOrZeros : ∀ count,
    ReadsCompare late rel (ByteSource.takeOrZeros count) (ByteSource.takeOrZeros count)
  /-- The next byte, if there is one. -/
  next : ReadsCompare late rel (answered ByteSource.next) (answered ByteSource.next)
  /-- Whether there is one. -/
  atEnd : ∀ s t, rel s t → ByteSource.atEnd s = ByteSource.atEnd t
  /-- The position. -/
  position : ∀ s t, rel s t → ByteSource.position s = ByteSource.position t

/-! ## Reads as programs -/

section

variable [ByteSource σ]

omit [ByteSource σ] in
theorem modifyGet_apply (read : σ → α × σ) (s : σ) :
    (modifyGet read : EStateM ε σ α) s = .ok (read s).1 (read s).2 := rfl

omit [ByteSource σ] in
theorem modifyGet_bind (read : σ → α × σ) (next : α → EStateM ε σ β) (s : σ) :
    ((modifyGet read : EStateM ε σ α) >>= next) s = next (read s).1 (read s).2 := rfl

omit [ByteSource σ] in
theorem pure_apply (a : α) (s : σ) : (pure a : EStateM ε σ α) s = .ok a s := rfl

/-- Reading a variable-length integer, word by word. -/
theorem VarInt.modifyGet_read : (modifyGet VarInt.read : EStateM ε σ VarInt) = (do
    let first ← modifyGet ByteSource.nextOrZero
    if first.toNat < 0xFF then return ⟨first.toNat, 1⟩
    let word ← modifyGet ByteSource.u16LE
    if word.toNat < 0x8000 then return ⟨word.toNat, 3⟩
    let low ← modifyGet ByteSource.u16LE
    return ⟨(word.toNat - 0x8000) * 0x10000 + low.toNat, 5⟩) := by
  funext source
  rw [modifyGet_apply, modifyGet_bind]
  unfold VarInt.read
  dsimp only
  split
  · rfl
  · rw [modifyGet_bind]
    split <;> rfl

namespace Transform

/-- Passing over lock and number, one by one. -/
theorem modifyGet_skipIds (precision : UInt8) (flags : UInt16) :
    (modifyGet fun source => ((), skipIds precision flags source) : EStateM ε σ Unit) = (do
      if has flags .editLock then let _ ← modifyGet ByteSource.u32LE
      if has flags .objectId then
        if precision = 0 then let _ ← modifyGet ByteSource.u16LE
        else let _ ← modifyGet ByteSource.u32LE) := by
  funext source
  rw [modifyGet_apply]
  unfold skipIds
  by_cases editLock : has flags .editLock = true <;>
    by_cases objectId : has flags .objectId = true <;>
    by_cases imprecise : precision = 0 <;>
    simp only [editLock, objectId, imprecise, if_true, if_false, Bool.false_eq_true,
      modifyGet_bind, pure_apply]

theorem modifyGet_readPair : (modifyGet readPair : EStateM ε σ (Float32 × Float32)) = (do
    let a ← modifyGet ByteSource.u32LE
    let b ← modifyGet ByteSource.u32LE
    return (fixedPoint a, fixedPoint b)) := by
  funext source
  rw [modifyGet_apply, modifyGet_bind, modifyGet_bind, pure_apply]
  unfold readPair
  dsimp only

theorem modifyGet_readShift : (modifyGet readShift : EStateM ε σ Float32) = (do
    let whole ← modifyGet ByteSource.u32LE
    let part ← modifyGet ByteSource.u16LE
    return awayFromZero whole.toInt32.toInt part) := by
  funext source
  rw [modifyGet_apply, modifyGet_bind, modifyGet_bind, pure_apply]
  unfold readShift
  dsimp only

theorem modifyGet_readPerspective : (modifyGet readPerspective : EStateM ε σ Float32) = (do
    let whole ← modifyGet ByteSource.u16LE
    let part ← modifyGet ByteSource.u16LE
    return .ofInt whole.toInt16.toInt + fraction part) := by
  funext source
  rw [modifyGet_apply, modifyGet_bind, modifyGet_bind, pure_apply]
  unfold readPerspective
  dsimp only

/-- Reading a transform, part by part. -/
theorem modifyGet_read (precision : UInt8) :
    (modifyGet (read precision) : EStateM ε σ Transform) = (do
      let flags ← modifyGet ByteSource.u16LE
      modifyGet fun source => ((), skipIds precision flags source)
      let t : Transform := { flags }
      let t ← (if has flags .rotation then (do
          let angle ← modifyGet ByteSource.u32LE
          return { t with angle := fixedPoint angle })
        else pure t)
      let t ← (if has flags .rotation || has flags .scale then (do
          let scales ← modifyGet readPair
          return { t with scaleX := scales.1, scaleY := scales.2 })
        else pure t)
      let t ← (if has flags .rotation || has flags .skew then (do
          let skews ← modifyGet readPair
          return { t with skewY := skews.1, skewX := skews.2 })
        else pure t)
      let t ← (if has flags .shift then (do
          let shiftX ← modifyGet readShift
          let shiftY ← modifyGet readShift
          return { t with shiftX, shiftY })
        else pure t)
      if has flags .perspective then (do
        let perspectiveX ← modifyGet readPerspective
        let perspectiveY ← modifyGet readPerspective
        return { t with perspectiveX, perspectiveY })
      else pure t) := by
  funext source
  rw [modifyGet_apply, modifyGet_bind, modifyGet_bind]
  unfold read
  dsimp only
  by_cases rotation : has (ByteSource.u16LE source).1 .rotation = true <;>
    by_cases scale : has (ByteSource.u16LE source).1 .scale = true <;>
    by_cases skew : has (ByteSource.u16LE source).1 .skew = true <;>
    by_cases shift : has (ByteSource.u16LE source).1 .shift = true <;>
    by_cases perspective : has (ByteSource.u16LE source).1 .perspective = true <;>
    simp only [rotation, scale, skew, shift, perspective, if_true, if_false, Bool.true_or,
      Bool.false_or, Bool.false_eq_true, bind_assoc, modifyGet_bind, pure_bind, pure_apply]

end Transform

end

/-! ## What compares -/

variable [ByteSource σ] [ByteSource τ] {late : τ → Prop} {rel : σ → τ → Prop}

namespace Likeness

section

variable (likeness : Likeness late rel)

include likeness

theorem u16LE : ReadsCompare late rel ByteSource.u16LE ByteSource.u16LE :=
  (likeness.takeOrZeros 2).map fun bytes => bytes.littleEndian.toUInt16

theorem u32LE : ReadsCompare late rel ByteSource.u32LE ByteSource.u32LE :=
  (likeness.takeOrZeros 4).map fun bytes => bytes.littleEndian.toUInt32

end

section

variable {terms : Terms ε σ τ} (likeness : Likeness terms.late rel)

include likeness

/-- **Variable-length integers compare.** -/
theorem varInt : Matches terms rel (modifyGet VarInt.read) (modifyGet VarInt.read) := by
  rw [VarInt.modifyGet_read, VarInt.modifyGet_read]
  refine likeness.nextOrZero.steps.bind fun first => .ite (fun _ => .pure _) fun _ => ?_
  refine likeness.u16LE.steps.bind fun word => .ite (fun _ => .pure _) fun _ => ?_
  exact likeness.u16LE.steps.bind fun low => .pure _

/-- **Transforms compare.** -/
theorem transform (precision : UInt8) :
    Matches terms rel (modifyGet (Transform.read precision))
      (modifyGet (Transform.read precision)) := by
  have u16 : Matches terms rel (modifyGet ByteSource.u16LE) (modifyGet ByteSource.u16LE) :=
    likeness.u16LE.steps
  have u32 : Matches terms rel (modifyGet ByteSource.u32LE) (modifyGet ByteSource.u32LE) :=
    likeness.u32LE.steps
  have ids : ∀ flags, Matches terms rel
      (modifyGet fun source => ((), Transform.skipIds precision flags source))
      (modifyGet fun source => ((), Transform.skipIds precision flags source)) := by
    intro flags
    rw [Transform.modifyGet_skipIds, Transform.modifyGet_skipIds]
    dsimp only
    refine .ite (fun _ => u32.bind fun _ => ?_) fun _ => ?_
    all_goals exact .ite (fun _ => .ite (fun _ => u16.bind fun _ => .pure _)
      fun _ => u32.bind fun _ => .pure _) fun _ => .pure _
  have pair : Matches terms rel (modifyGet Transform.readPair) (modifyGet Transform.readPair) := by
    rw [Transform.modifyGet_readPair, Transform.modifyGet_readPair]
    exact u32.bind fun a => u32.bind fun b => .pure _
  have shift : Matches terms rel (modifyGet Transform.readShift)
      (modifyGet Transform.readShift) := by
    rw [Transform.modifyGet_readShift, Transform.modifyGet_readShift]
    exact u32.bind fun whole => u16.bind fun part => .pure _
  have perspective : Matches terms rel (modifyGet Transform.readPerspective)
      (modifyGet Transform.readPerspective) := by
    rw [Transform.modifyGet_readPerspective, Transform.modifyGet_readPerspective]
    exact u16.bind fun whole => u16.bind fun part => .pure _
  rw [Transform.modifyGet_read, Transform.modifyGet_read]
  refine u16.bind fun flags => (ids flags).bind fun _ => ?_
  refine (Compares.ite (fun _ => u32.bind fun _ => .pure _) fun _ => .pure _).bind fun t => ?_
  refine (Compares.ite (fun _ => pair.bind fun _ => .pure _) fun _ => .pure _).bind fun t => ?_
  refine (Compares.ite (fun _ => pair.bind fun _ => .pure _) fun _ => .pure _).bind fun t => ?_
  refine (Compares.ite (fun _ => shift.bind fun _ => shift.bind fun _ => .pure _)
    fun _ => .pure _).bind fun t => ?_
  exact .ite (fun _ => perspective.bind fun _ => perspective.bind fun _ => .pure _)
    fun _ => .pure _

end

/-! ### Bitmaps -/

section

variable {terms : Terms WpgError σ τ} (likeness : Likeness terms.late rel)
  (refl : ∀ err, terms.alike err err) (failed : ∀ s t, rel s t → terms.failed s t)

include likeness

theorem word : Matches terms rel Bitmap.word Bitmap.word := likeness.u16LE.steps

theorem byte : Matches terms rel Bitmap.byte Bitmap.byte := likeness.nextOrZero.steps

include refl failed

theorem readSize : Matches terms rel Bitmap.readSize Bitmap.readSize := by
  refine likeness.word.bind fun width => likeness.word.bind fun height => ?_
  have empty : Matches terms rel (throw (.improperRecord .zeroBitmap) : EStateM WpgError σ PUnit)
      (throw (.improperRecord .zeroBitmap)) := .throw (refl _) failed
  exact .ite (fun _ => empty.bind fun _ => .pure _) fun _ => .pure _

theorem readPlain : Matches terms rel Bitmap.readPlain Bitmap.readPlain :=
  (likeness.readSize refl failed).bind fun _ => likeness.word.bind fun _ =>
    likeness.word.bind fun _ => likeness.word.bind fun _ => .pure _

theorem readPlaced : Matches terms rel Bitmap.readPlaced Bitmap.readPlaced :=
  likeness.word.bind fun _ => likeness.word.bind fun _ => likeness.word.bind fun _ =>
    likeness.word.bind fun _ => likeness.word.bind fun _ =>
    (likeness.readSize refl failed).bind fun _ => likeness.word.bind fun _ =>
    likeness.word.bind fun _ => likeness.word.bind fun _ => .pure _

theorem readCoded (transform : Transform) :
    Matches terms rel (Bitmap.readCoded transform) (Bitmap.readCoded transform) := by
  refine (likeness.readSize refl failed).bind fun _ => likeness.byte.bind fun _ =>
    likeness.byte.bind fun _ => ?_
  split <;> exact .pure _

end

end Likeness

end WpgRaster
