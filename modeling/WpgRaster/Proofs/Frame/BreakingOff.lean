import WpgRaster.Proofs.Frame.Interruption
import WpgRaster.Proofs.Frame.Severance
import WpgRaster.Proofs.Pixel.Buffer
import WpgRaster.Proofs.Source.Breaking

/-!
# Sources that break

A cursor of which some byte and all that follow cannot be read delivers what the intact one
delivers, until a read touches that byte (`FaultyCursor.Breaks`). The read fails for good, the
frame ends with the failure, and the image is the beginning of the image that is decoded from the
intact source (`FrameFormat.decode_of_broken`). Whether it comes to this is a matter of where
decoding gets: to a byte behind that one, or not.

Both cursors may deliver less than they are asked for. A partial read in front of the byte then
delivers less than the intact cursor does, but the next one fails, and so packed rows are the same
or they are not there (`FaultyCursor.Breaks.gather`).
-/

namespace WpgRaster

/-! ## Cursors that break -/

namespace FaultyCursor

/-- The next byte, unless there is none or it cannot be read. -/
theorem nextByte_eq {source : FaultyCursor} (known : source.endUnknown = false) :
    Token.nextByte source =
      if source.cursor.remaining = 0 then .error .streamTruncated source
      else if source.touchesFault 1 then .error (.source (.broken .unreadable)) source
      else .ok ((source.cursor.peek 1)[0]?.getD 0)
        { source with cursor := source.cursor.advance 1 } := by
  have atEnd : ByteSource.atEnd source = .ok source.cursor.atEnd := by
    show (if source.endUnknown then _ else _) = _
    rw [known]
    rfl
  have failed : ∀ {err}, ByteSource.take 1 source = .error err source →
      Token.nextByte source = if source.cursor.remaining = 0 then .error .streamTruncated source
        else .error (.source err) source := by
    intro err taken
    have missed : ByteSource.next source = .error err source := bind_of_error taken
    unfold Token.nextByte
    rw [missed]
    dsimp only
    rw [atEnd]
    by_cases ended : source.cursor.remaining = 0
    · rw [source.cursor.atEnd_iff.mpr ended, if_pos ended]
    · rw [Bool.eq_false_iff.mpr (mt source.cursor.atEnd_iff.mp ended), if_neg ended]
  have taken : ByteSource.take 1 source = if source.touchesFault 1
      then .error (.broken .unreadable) source else onCursor (Cursor.take 1) source := rfl
  by_cases touches : source.touchesFault 1
  · rw [if_pos touches] at taken
    rw [failed taken, if_pos touches]
  rw [if_neg touches] at taken
  unfold onCursor Cursor.take at taken
  by_cases ended : source.cursor.remaining = 0
  · rw [if_neg (by omega)] at taken
    rw [failed taken, if_pos ended, if_pos ended]
  · rw [if_pos (by omega)] at taken
    have read : ByteSource.next source = .ok ((source.cursor.peek 1)[0]?.getD 0)
        { source with cursor := source.cursor.advance 1 } := bind_of_ok taken
    unfold Token.nextByte
    rw [read, if_neg ended, if_neg touches]

/-- How many bytes a partial read delivers. -/
def delivered (source : FaultyCursor) (limit : Nat) : Nat :=
  min (source.quota limit) source.cursor.remaining

/-- Bytes are gathered read by read, until one of them touches a byte that cannot be read or
delivers nothing. -/
theorem gather_succ {fuel need : Nat} (some : 0 < need) (bytes : Bytes) (source : FaultyCursor) :
    FrameFormat.gather (fuel + 1) need bytes source =
      if source.touchesFault 1 then .error (.broken .unreadable) source
      else if source.delivered need = 0 then .ok bytes source
      else FrameFormat.gather fuel (need - source.delivered need)
        (bytes ++ source.cursor.peek (source.delivered need))
        { source with cursor := source.cursor.advance (source.delivered need) } := by
  have taken : ByteSource.takeUpTo need source = if source.touchesFault 1
      then .error (.broken .unreadable) source
      else .ok (source.cursor.peek (source.quota need))
        { source with cursor := source.cursor.advance (source.delivered need) } := rfl
  rw [FrameFormat.gather, if_neg (by omega)]
  by_cases touches : source.touchesFault 1
  · rw [if_pos touches] at taken
    rw [if_pos touches, bind_of_error taken]
  rw [if_neg touches] at taken
  have size : (source.cursor.peek (source.quota need)).size = source.delivered need :=
    source.cursor.size_peek _
  have same : source.cursor.peek (source.delivered need)
      = source.cursor.peek (source.quota need) := source.cursor.peek_min_remaining _
  rw [if_neg touches, bind_of_ok taken, same, size]
  by_cases nothing : source.delivered need = 0
  · have empty : (source.cursor.peek (source.quota need)).isEmpty = true := by
      rw [Array.isEmpty_iff_size_eq_zero, size, nothing]
    rw [empty, if_pos rfl, if_pos nothing, nothing]
    rfl
  · have nonempty : (source.cursor.peek (source.quota need)).isEmpty = false := by
      rw [Bool.eq_false_iff, ne_eq, Array.isEmpty_iff_size_eq_zero, size]
      exact nothing
    rw [nonempty, if_neg Bool.false_ne_true, if_neg nothing]

/-! ### Onward -/

/-- **A cursor that goes on**: it is not in front of where it was. -/
structure Onward (source source' : FaultyCursor) : Prop where
  /-- It can tell where it ends, or it cannot. -/
  endUnknown : source'.endUnknown = source.endUnknown
  /-- It does not go back. -/
  position : source.cursor.position ≤ source'.cursor.position

namespace Onward

variable {source mid last : FaultyCursor}

theorem refl (source : FaultyCursor) : Onward source source := ⟨rfl, Nat.le_refl _⟩

theorem trans (first : Onward source mid) (second : Onward mid last) : Onward source last :=
  ⟨second.endUnknown.trans first.endUnknown, Nat.le_trans first.position second.position⟩

theorem advance (source : FaultyCursor) (count : Nat) :
    Onward source { source with cursor := source.cursor.advance count } :=
  ⟨rfl, Nat.le_add_right _ _⟩

end Onward

theorem nextByte_onward {source : FaultyCursor} (known : source.endUnknown = false) :
    Onward source (behind (Token.nextByte source)) := by
  rw [nextByte_eq known]
  split
  · exact .refl _
  · split
    · exact .refl _
    · exact .advance source 1

theorem gather_onward (fuel need : Nat) (bytes : Bytes) (source : FaultyCursor) :
    Onward source (behind (FrameFormat.gather fuel need bytes source)) := by
  induction fuel generalizing need bytes source with
  | zero => exact .refl source
  | succ fuel ih =>
    obtain rfl | some := Nat.eq_zero_or_pos need
    · exact .refl source
    rw [gather_succ some]
    split
    · exact .refl source
    · split
      · exact .refl source
      · exact (Onward.advance source _).trans (ih _ _ _)

/-- What the first of several partial reads delivers is left behind. -/
theorem gather_position (fuel : Nat) {need : Nat} (some : 0 < need) (bytes : Bytes)
    {source : FaultyCursor} (sound : source.touchesFault 1 = false) :
    source.cursor.position + source.delivered need
      ≤ (behind (FrameFormat.gather (fuel + 1) need bytes source)).cursor.position := by
  rw [gather_succ some, sound, if_neg Bool.false_ne_true]
  split
  · next nothing =>
    rw [nothing]
    exact Nat.le_refl _
  · exact (gather_onward fuel _ _ { source with
      cursor := source.cursor.advance (source.delivered need) }).position

/-! ### Breaking off -/

/-- **A cursor that breaks, and the same one intact.** If they began in front of the first byte
that cannot be read, or there, then they did not get behind it. -/
structure Breaks (origin : FaultyCursor) (first : Nat) (source whole : FaultyCursor) : Prop where
  /-- It is the same one. -/
  eq : source = { whole with brokenFrom := some first }
  /-- All bytes of the other one can be read. -/
  intact : whole.brokenFrom = none
  /-- There is a byte that cannot be read. -/
  inside : first < whole.cursor.bytes.size
  /-- They can tell where they end. -/
  known : whole.endUnknown = false
  /-- They deliver as much at once as they did where they began. -/
  chunk : whole.chunk = origin.chunk
  /-- They are not behind the first byte that cannot be read. -/
  within : origin.cursor.position ≤ first → whole.cursor.position ≤ first

/-- **A cursor that was left behind**: the other one got behind the first byte that cannot be
read, if it delivers anything at all. -/
structure LeftAt (origin : FaultyCursor) (first : Nat) (_ whole : FaultyCursor) : Prop where
  /-- The other one can tell where it ends. -/
  known : whole.endUnknown = false
  /-- It is behind the byte. -/
  beyond : origin.chunk ≠ some 0 → Cursor.Beyond first whole.cursor

variable {origin source whole whole' : FaultyCursor} {first : Nat}

/-- It stays behind. -/
theorem LeftAt.onward (left : LeftAt origin first source whole) (onward : Onward whole whole') :
    LeftAt origin first source whole' where
  known := onward.endUnknown.trans left.known
  beyond some := (left.beyond some).of_le onward.position

namespace Breaks

variable (breaks : Breaks origin first source whole)

include breaks

/-- The cursors go on together. -/
theorem advance (count : Nat) (sound : whole.cursor.position + count ≤ first) :
    Breaks origin first { source with cursor := source.cursor.advance count }
      { whole with cursor := whole.cursor.advance count } where
  eq := by rw [breaks.eq]
  intact := breaks.intact
  inside := breaks.inside
  known := breaks.known
  chunk := breaks.chunk
  within _ := sound

/-- One of them goes on alone. -/
theorem leftAt {behind : FaultyCursor} (onward : Onward whole whole')
    (beyond : whole.chunk ≠ some 0 → first < whole'.cursor.position) :
    LeftAt origin first behind whole' where
  known := onward.endUnknown.trans breaks.known
  beyond some := beyond (breaks.chunk ▸ some)

theorem touchesFault (count : Nat) :
    source.touchesFault count = decide (first < whole.cursor.position + count)
      ∧ whole.touchesFault count = false := by
  refine ⟨?_, touchesFault_of_sound breaks.intact count⟩
  rw [breaks.eq]
  rfl

/-- Less is delivered in front of a byte that cannot be read. -/
theorem delivered_eq (limit : Nat) :
    source.delivered limit = min (whole.delivered limit) (first - whole.cursor.position) := by
  have quota : source.quota limit = min (whole.quota limit) (first - whole.cursor.position) := by
    rw [breaks.eq]
    unfold FaultyCursor.quota
    rw [breaks.intact]
    rfl
  have same : source.cursor = whole.cursor := by rw [breaks.eq]
  unfold delivered
  rw [quota, same]
  omega

/-- An intact cursor delivers something as long as there is something, if it ever does. -/
theorem delivered_whole (limit : Nat) :
    whole.delivered limit ≤ limit ∧ (0 < limit → whole.chunk ≠ some 0 →
      whole.delivered limit = 0 → whole.cursor.bytes.size ≤ whole.cursor.position) := by
  have left : whole.cursor.remaining = whole.cursor.bytes.size - whole.cursor.position := rfl
  unfold delivered FaultyCursor.quota
  rw [breaks.intact]
  cases whole.chunk with
  | none =>
    show min limit _ ≤ limit ∧ (_ → _ → min limit _ = 0 → _)
    exact ⟨Nat.min_le_left _ _, fun some _ nothing => by omega⟩
  | some chunk =>
    show min (min limit chunk) _ ≤ limit ∧ (_ → _ → min (min limit chunk) _ = 0 → _)
    refine ⟨by omega, fun some nonempty nothing => ?_⟩
    have : chunk ≠ 0 := fun none => nonempty (congrArg _ none)
    omega

/-- **Partial reads add up to the same**, or one of them breaks off. -/
theorem gather {fuel need : Nat} (enough : need ≤ fuel) (bytes : Bytes) :
    Severed SourceError.IsUnreadable (Breaks origin first) (LeftAt origin first)
      (FrameFormat.gather fuel need bytes source) (FrameFormat.gather fuel need bytes whole) := by
  induction fuel generalizing need bytes source whole with
  | zero => exact .ok breaks
  | succ fuel ih =>
    obtain rfl | some := Nat.eq_zero_or_pos need
    · exact .ok breaks
    have inside := breaks.inside
    obtain ⟨touched, sound⟩ := breaks.touchesFault 1
    have fewer := breaks.delivered_eq need
    obtain ⟨few, nothing⟩ := breaks.delivered_whole need
    have onward := whole.gather_onward (fuel + 1) need bytes
    have behind := gather_position fuel some bytes sound
    by_cases touches : first < whole.cursor.position + 1
    · rw [gather_succ some bytes source, touched, if_pos (decide_eq_true touches)]
      refine .off rfl (breaks.leftAt onward fun delivers => ?_)
      have := nothing some delivers
      omega
    rw [gather_succ some bytes source, touched, if_neg (by simpa using touches)]
    by_cases sooner : whole.delivered need ≤ first - whole.cursor.position
    · -- this read did not come to the byte that cannot be read
      have same : source.cursor = whole.cursor := by rw [breaks.eq]
      rw [Nat.min_eq_left sooner] at fewer
      rw [gather_succ some bytes whole, sound, if_neg Bool.false_ne_true, fewer]
      split
      · exact .ok breaks
      · rw [same]
        have onward := breaks.advance (whole.delivered need) (by omega)
        rw [same] at onward
        exact ih onward (by omega) _
    · -- this one did, and so the next one fails
      have before : source.delivered need = first - whole.cursor.position := by omega
      rw [before, if_neg (by omega)]
      obtain ⟨fuel, rfl⟩ : ∃ rest, fuel = rest + 1 := ⟨fuel - 1, by omega⟩
      have touched : ({ source with
          cursor := source.cursor.advance (first - whole.cursor.position) } :
          FaultyCursor).touchesFault 1 = true := by
        rw [breaks.eq]
        show decide (first < whole.cursor.position + (first - whole.cursor.position) + 1) = true
        exact decide_eq_true (by omega)
      rw [gather_succ (by omega), touched, if_pos rfl]
      exact .off rfl (breaks.leftAt onward fun _ => by omega)

end Breaks

/-- **A cursor that breaks takes the place of the intact one** until it does. -/
theorem breaking_off (origin : FaultyCursor) (first : Nat) :
    SourceSevers (RasterError.Fatal SourceError.IsUnreadable) (Breaks origin first)
      (LeftAt origin first) where
  size source whole breaks := by
    rw [breaks.eq]
    rfl
  nextByte :=
    { severed := fun source whole breaks => by
        obtain ⟨touched, sound⟩ := breaks.touchesFault 1
        have same : source.cursor = whole.cursor := by rw [breaks.eq]
        have known : source.endUnknown = false := by
          rw [breaks.eq]
          exact breaks.known
        rw [nextByte_eq known, nextByte_eq breaks.known, touched, sound, same,
          if_neg Bool.false_ne_true]
        by_cases ended : whole.cursor.remaining = 0
        · rw [if_pos ended, if_pos ended]
          exact .error breaks
        rw [if_neg ended, if_neg ended]
        by_cases touches : first < whole.cursor.position + 1
        · rw [if_pos (decide_eq_true touches)]
          exact .off ⟨_, rfl, rfl⟩ ⟨breaks.known, fun _ => touches⟩
        · rw [if_neg (by simpa using touches), ← same]
          have onward := breaks.advance 1 (by omega)
          rw [same] at onward ⊢
          exact .ok onward
      stays := fun source whole left => left.onward (nextByte_onward left.known) }
  nextRow width := .adaptExcept (fun err failed => ⟨err, rfl, failed⟩)
    { severed := fun source whole breaks => breaks.gather (Nat.le_refl width) #[]
      stays := fun source whole left => left.onward (gather_onward width width #[] whole) }
  final _ failed := failed.final

end FaultyCursor

/-! ## Images -/

/-- **An image that is the beginning of another one**, and black below. -/
structure PixelBuffer.Begins (image whole : PixelBuffer) : Prop where
  /-- They are of the same size. -/
  size : image.pixels.size = whole.pixels.size
  /-- Their rows are as long. -/
  stride : image.stride = whole.stride
  /-- The other one has these rows, perhaps more. -/
  committed : image.rowsCommitted ≤ whole.rowsCommitted
  /-- They are the same samples -/
  top : image.top image.rowsCommitted = whole.top image.rowsCommitted
  /-- and the same rows. -/
  rows : ∀ row < image.rowsCommitted, image.row? row = whole.row? row
  /-- There is nothing else. -/
  below : ∀ sample ∈ image.below image.rowsCommitted, sample = 0

namespace Unpacker

/-- **Of a new image, the first rows are the beginning.** -/
theorem begins_of_handed {start unpacker after : Unpacker PixelBuffer} {rows all : List Bytes}
    (black : ∀ sample ∈ start.sink.pixels.toList, sample = 0)
    (uncommitted : start.sink.rowsCommitted = 0) (handed : Handed start rows unpacker)
    (handed' : Handed start all after) (first : rows <+: all) :
    unpacker.sink.Begins after.sink := by
  have painted := painted_of_handed handed
  have painted' := painted_of_handed handed'
  have committed : unpacker.sink.rowsCommitted = rows.length := by
    rw [painted.committed, uncommitted, Nat.zero_max]
  have committed' : after.sink.rowsCommitted = all.length := by
    rw [painted'.committed, uncommitted, Nat.zero_max]
  have size := painted.size.trans painted'.size.symm
  have stride := painted.stride.trans painted'.stride.symm
  have top : unpacker.sink.top unpacker.sink.rowsCommitted
      = after.sink.top unpacker.sink.rowsCommitted := by
    rw [committed]
    exact top_of_handed handed handed' first
  refine ⟨size, stride, ?_, top, fun row among => ?_, fun sample among => ?_⟩
  · rw [committed, committed']
    exact first.length_le
  · exact PixelBuffer.row?_eq_of_top_eq among stride size top
  · rw [committed, painted.below] at among
    exact black sample (List.mem_of_mem_drop among)

end Unpacker

namespace FrameFormat

open FaultyCursor

variable {source : FaultyCursor} {image : PixelBuffer}

/-- **A source that breaks leaves a clean prefix.** A frame is decoded into a new image, once from
a source of which some byte and all that follow cannot be read, and once from the intact source.
Either the frame does not get behind that byte, and there is no difference; or it does, and then
it ends with the failure of the source, and its image is the beginning of the other one. -/
theorem decode_of_broken (intact : source.brokenFrom = none) (known : source.endUnknown = false)
    {first : Nat} (inside : first < source.cursor.bytes.size) {width height : Nat}
    {space : ColorSpace} (made : PixelBuffer.make width height space = .ok image)
    (format : FrameFormat) (stop : Stop) :
    let broken := format.decode { source with brokenFrom := some first } image stop
    let whole := format.decode source image stop
    (broken.result = whole.result ∧ broken.sink = whole.sink
        ∧ (source.cursor.position ≤ first → whole.source.cursor.position ≤ first))
      ∨ (broken.result = .error (.source (.broken .unreadable)) ∧ broken.sink.Begins whole.sink
        ∧ (source.chunk ≠ some 0 → first < whole.source.cursor.position)) := by
  dsimp only
  cases ready : format.setUp image with
  | error err =>
    rw [decode_of_error ready, decode_of_error ready]
    exact .inl ⟨rfl, rfl, id⟩
  | ok rows =>
    have setUp := (format.setUp_yields image).of_ok ready
    obtain ⟨black, uncommitted⟩ := PixelBuffer.of_make made
    rw [← setUp.fits.sink_eq] at black uncommitted
    have row : rows.assembler.row = 0 := setUp.holds.row
    have breaks : Breaks source first { source with brokenFrom := some first } source :=
      ⟨rfl, intact, inside, known, rfl, id⟩
    have frames : SessionsSever rows.consumer (RasterError.Fatal SourceError.IsUnreadable)
        (Breaks source first) (LeftAt source first) (checkedSession format.compression)
        (checkedSession format.compression) :=
      (breaking_off source first).checkedSession Unpacker.steadfast format.compression
    have severed := frames.severed ⟨{ source with brokenFrom := some first }, rows, stop⟩
      ⟨source, rows, stop⟩ ⟨breaks, ⟨rfl, rfl⟩, rfl⟩
    -- what was handed over until then is counted
    have counted : Counted rows.consumer ⟨rows.assembler, rows.consumer⟩ := ⟨[], .none, row⟩
    have counted := counted.advance ((Session.Course.rows rows.consumer).checkedSession
      Unpacker.steadfast format.compression ⟨{ source with brokenFrom := some first }, rows, stop⟩)
    rw [decode_of_ok ready, decode_of_ok ready]
    generalize checkedSession format.compression
        { source := { source with brokenFrom := some first }, rows, stop } = result,
      checkedSession format.compression { source, rows, stop } = result' at severed counted ⊢
    cases severed with
    | ok after => exact .inl ⟨rfl, congrArg (·.consumer.sink) after.rows_eq, after.source.within⟩
    | error after =>
      exact .inl ⟨rfl, congrArg (·.consumer.sink) after.rows_eq, after.source.within⟩
    | @off err session _ failed left =>
      obtain ⟨_, rfl, rfl⟩ := failed
      obtain ⟨handedRows, handed, row⟩ := counted
      obtain ⟨more, handed', -⟩ := left.rows handedRows handed row
      have begins := Unpacker.begins_of_handed black uncommitted handed handed'
        (List.prefix_append handedRows more)
      cases result' with
      | ok outcome session' => exact .inr ⟨rfl, begins, left.source.beyond⟩
      | error err session' => exact .inr ⟨rfl, begins, left.source.beyond⟩

set_option maxRecDepth 4000 in
/-- Of two packed rows, the image has the first one if the last byte of the second one cannot be
read. -/
theorem decode_of_broken_square :
    let format := { square with compression := .none }
    let source : FaultyCursor := { cursor := .ofBytes #[1, 2, 3, 4], chunk := some 1 }
    source.brokenFrom = none ∧ source.endUnknown = false ∧ 3 < source.cursor.bytes.size
      ∧ PixelBuffer.make 2 2 .luma = .ok squareImage
      ∧ let broken := format.decode { source with brokenFrom := some 3 } squareImage .never
        let whole := format.decode source squareImage .never
        ((broken.result = whole.result ∧ broken.sink = whole.sink
            ∧ (source.cursor.position ≤ 3 → whole.source.cursor.position ≤ 3))
          ∨ (broken.result = .error (.source (.broken .unreadable))
            ∧ broken.sink.Begins whole.sink
            ∧ (source.chunk ≠ some 0 → 3 < whole.source.cursor.position)))
        ∧ broken.result = .error (.source (.broken .unreadable))
        ∧ broken.sink.pixels = #[0x0101, 0x0202, 0, 0] ∧ broken.sink.rowsCommitted = 1 := by
  have made : PixelBuffer.make 2 2 .luma = .ok squareImage := rfl
  exact ⟨rfl, rfl, by decide, made, decode_of_broken rfl rfl (by decide) made _ _, rfl, rfl, rfl⟩

end FrameFormat

end WpgRaster
