import WpgRaster.Proofs.Source.Supply

/-!
# Sources that deliver portions

A source may deliver less than it is asked for, as long as it delivers something. How much, may
change from one partial read to the next. A `PortionedCursor` is a cursor with a schedule of
portions, about which nothing is assumed. To a decoder all schedules are the same: a frame is
decoded as from the cursor alone (`FrameFormat.decode_portioned`).
-/

namespace WpgRaster

/-- **A cursor that delivers portions.** -/
structure PortionedCursor where
  /-- The cursor. -/
  cursor : Cursor
  /-- How many bytes the next partial reads deliver, one after another. -/
  portions : Nat → Nat

namespace PortionedCursor

/-- How many of `limit` bytes the next partial read delivers: as many as its portion says, but one
at least, and no more than are asked for and left. -/
def portion (source : PortionedCursor) (limit : Nat) : Nat :=
  min (max 1 (source.portions 0)) (min limit source.cursor.remaining)

/-- Behind a partial read comes the next portion. -/
def takeUpTo (limit : Nat) : SourceM PortionedCursor Bytes := fun source =>
  .ok (source.cursor.peek (source.portion limit))
    { cursor := source.cursor.advance (source.portion limit)
      portions := fun turn => source.portions (turn + 1) }

/-- A step of the cursor, which leaves the portions alone. -/
def onCursor {α : Type} (step : SourceM Cursor α) : SourceM PortionedCursor α := fun source =>
  match step source.cursor with
  | .ok a cursor => .ok a { source with cursor }
  | .error err cursor => .error err { source with cursor }

/-- A read of the cursor that cannot fail. -/
def read {α : Type} (step : Cursor → α × Cursor) (source : PortionedCursor) :
    α × PortionedCursor :=
  let (a, cursor) := step source.cursor
  (a, { source with cursor })

/-- All but partial reads are those of the cursor. -/
instance : ByteSource PortionedCursor where
  size source := source.cursor.bytes.size
  position source := source.cursor.position
  atEnd source := .ok source.cursor.atEnd
  nextOrZero := read Cursor.nextOrZero
  takeOrZeros count := read (Cursor.takeOrZeros count)
  take count := onCursor (Cursor.take count)
  takeUpTo := takeUpTo
  seek target := onCursor (Cursor.seek target)

/-- **A partial read delivers any number of bytes** from one up to what is asked for and left, and
nothing only if nothing is asked for or left: these are the portions there are. -/
theorem exists_portion_iff {cursor : Cursor} {limit got : Nat} :
    (∃ portions, portion ⟨cursor, portions⟩ limit = got)
      ↔ got ≤ limit ∧ got ≤ cursor.remaining ∧ (got = 0 → limit = 0 ∨ cursor.remaining = 0) := by
  unfold portion
  constructor
  · rintro ⟨portions, rfl⟩
    dsimp only
    omega
  · intro allowed
    refine ⟨fun _ => got, ?_⟩
    dsimp only
    omega

/-- **A portioned cursor keeps track of its cursor**, whatever its portions are. -/
theorem tracks : Tracks fun (source : PortionedCursor) cursor => source.cursor = cursor where
  size := by
    rintro source _ rfl
    rfl
  next := by
    rintro source _ rfl left
    refine ⟨{ source with cursor := source.cursor.advance 1 }, ?_, rfl⟩
    have taken : Cursor.take 1 source.cursor
        = .ok (source.cursor.peek 1) (source.cursor.advance 1) := if_pos left
    show onCursor (Cursor.take 1) source = _
    unfold onCursor
    rw [taken]
  ended := by
    rintro source _ rfl none
    refine ⟨.shortRead 1 source.cursor.remaining, source, ?_, rfl, ?_⟩
    · have failed : Cursor.take 1 source.cursor
          = .error (.shortRead 1 source.cursor.remaining) source.cursor := if_neg (by omega)
      show onCursor (Cursor.take 1) source = _
      unfold onCursor
      rw [failed]
    · show Except.ok source.cursor.atEnd ≠ .ok false
      rw [source.cursor.atEnd_iff.mpr none]
      nofun
  chunk := by
    rintro need source _ rfl wanted
    obtain ⟨few, there, some⟩ := exists_portion_iff.mp ⟨source.portions, rfl⟩
    exact ⟨source.portion need, _, rfl, rfl, few, there, fun none =>
      (some none).resolve_left (Nat.ne_of_gt wanted)⟩

end PortionedCursor

/-- **A frame is decoded as from the cursor alone**, whatever portions its source delivers: with
the same outcome or error, after as many questions to the stop, into the same sink, with as many
clamped indices, and the source is left at the same place. -/
theorem FrameFormat.decode_portioned {κ : Type} [RowSink κ] (format : FrameFormat)
    (cursor : Cursor) (portions : Nat → Nat) (sink : κ) (stop : Stop) :
    let decoded := format.decode ({ cursor, portions } : PortionedCursor) sink stop
    let decoded' := format.decode cursor sink stop
    decoded.result = decoded'.result ∧ decoded.stop.checks = decoded'.stop.checks
      ∧ decoded.sink = decoded'.sink ∧ decoded.clamped = decoded'.clamped
      ∧ ByteSource.position decoded.source = ByteSource.position decoded'.source := by
  intro decoded decoded'
  have same : Decoded.Related (fun (source : PortionedCursor) cursor => source.cursor = cursor) Eq
      decoded decoded' :=
    decode_simulates PortionedCursor.tracks.simulates (.refl κ) format rfl rfl stop
  exact ⟨same.result, congrArg Stop.checks same.stop, same.sink, same.clamped,
    congrArg Cursor.position same.source⟩

end WpgRaster
