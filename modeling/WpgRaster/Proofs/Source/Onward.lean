import WpgRaster.Proofs.Upholding
import WpgRaster.RunLength.Token
import WpgRaster.Source.ByteStream
import WpgRaster.Source.FaultyCursor
import WpgRaster.Source.VarInt

/-!
# Sources that go forward

Not every read moves a source. A number that cannot be read is a zero and may leave the
source where it is, and an exact read that fails never moves it. What can be relied on is
less: no read leads back, or beyond the end (`ForwardSource`), and a byte that was read by
an exact read lies behind the source from then on. Whatever is put together from reads
leaves the source further on in the same sense (`Onward`).

The first of these is said only of sources that stand within their bytes. A stream without a
buffer that stands beyond its end is moved back to the end by a read.
-/

namespace WpgRaster

variable {σ : Type} [ByteSource σ]

/-- **A source that was read from**: it has as many bytes as before, and has not gone back. -/
structure Onward (source source' : σ) : Prop where
  /-- It holds as many bytes. -/
  size : ByteSource.size source' = ByteSource.size source
  /-- It is further on, but within its bytes. -/
  position : ByteSource.position source ≤ ByteSource.size source →
    ByteSource.position source ≤ ByteSource.position source'
      ∧ ByteSource.position source' ≤ ByteSource.size source

namespace Onward

variable {source source' source'' : σ}

theorem refl (source : σ) : Onward source source :=
  ⟨rfl, fun within => ⟨Nat.le_refl _, within⟩⟩

theorem trans (first : Onward source source') (second : Onward source' source'') :
    Onward source source'' where
  size := second.size.trans first.size
  position within := by
    obtain ⟨ahead, within'⟩ := first.position within
    rw [← first.size] at within'
    obtain ⟨further, within''⟩ := second.position within'
    rw [first.size] at within''
    exact ⟨Nat.le_trans ahead further, within''⟩

instance : IsPreorder σ (Onward (σ := σ)) where
  refl := .refl
  trans _ _ _ := .trans

end Onward

/-- **A source of which something was consumed**: it is further on by a byte at least, and
within its bytes. -/
structure Consumed (source source' : σ) : Prop where
  /-- It holds as many bytes. -/
  size : ByteSource.size source' = ByteSource.size source
  /-- A byte lies behind it that did not before. -/
  lt : ByteSource.position source < ByteSource.position source'
  /-- No more bytes lie behind it than there are. -/
  le : ByteSource.position source' ≤ ByteSource.size source

/-- It stays so whatever is read then. -/
theorem Consumed.trans {source source' source'' : σ} (consumed : Consumed source source')
    (onward : Onward source' source'') : Consumed source source'' := by
  have within := consumed.le
  rw [← consumed.size] at within
  obtain ⟨ahead, le⟩ := onward.position within
  exact ⟨onward.size.trans consumed.size, Nat.lt_of_lt_of_le consumed.lt ahead,
    consumed.size ▸ le⟩

/-- **Sources whose reads go forward.** -/
class ForwardSource (σ : Type) [ByteSource σ] : Prop where
  /-- A seek from the start leads to its target. -/
  position_of_seek : ∀ (source source' : σ) (target here : Nat),
    ByteSource.seek (.start target) source = .ok here source' → ByteSource.position source' = target
  /-- A byte that is there or a zero. -/
  nextOrZero_onward : ∀ source : σ, Onward source (ByteSource.nextOrZero source).2
  /-- Bytes that are there or zeros. -/
  takeOrZeros_onward : ∀ count (source : σ), Onward source (ByteSource.takeOrZeros count source).2
  /-- Bytes that are there or a failure. -/
  take_onward : ∀ count, Upholds (Onward (σ := σ)) (ByteSource.take count)
  /-- A byte that was there lies behind the source. -/
  position_of_take : ∀ (source source' : σ) (bytes : Bytes),
    ByteSource.take 1 source = .ok bytes source' →
    ByteSource.position source' = ByteSource.position source + 1
      ∧ ByteSource.position source' ≤ ByteSource.size source

/-! ## What goes forward -/

namespace Cursor

/-- Cursors on the same bytes. -/
theorem onward_of_bytes {cursor cursor' : Cursor} (bytes : cursor'.bytes = cursor.bytes)
    (position : cursor.position ≤ cursor.bytes.size →
      cursor.position ≤ cursor'.position ∧ cursor'.position ≤ cursor.bytes.size) :
    Onward cursor cursor' :=
  ⟨congrArg Array.size bytes, position⟩

theorem onward_advance {cursor : Cursor} {count : Nat} (enough : count ≤ cursor.remaining) :
    Onward cursor (cursor.advance count) := by
  refine onward_of_bytes rfl fun within => ?_
  unfold remaining at enough
  show _ ≤ cursor.position + count ∧ cursor.position + count ≤ _
  omega

theorem onward_exhaust (cursor : Cursor) : Onward cursor cursor.exhaust := by
  refine onward_of_bytes rfl fun within => ?_
  show _ ≤ max cursor.position cursor.bytes.size ∧ max cursor.position cursor.bytes.size ≤ _
  omega

theorem nextOrZero_onward (cursor : Cursor) : Onward cursor cursor.nextOrZero.2 := by
  unfold nextOrZero
  split
  · next there =>
    refine onward_advance ?_
    obtain ⟨inside, -⟩ := Array.getElem?_eq_some_iff.mp there
    unfold remaining
    omega
  · exact .refl cursor

theorem takeOrZeros_onward (count : Nat) (cursor : Cursor) :
    Onward cursor (cursor.takeOrZeros count).2 := by
  unfold takeOrZeros
  split
  · next enough => exact onward_advance enough
  · exact cursor.onward_exhaust

theorem take_onward (count : Nat) : Upholds Onward (Cursor.take count) := by
  intro cursor
  unfold take
  split
  · next enough => exact onward_advance enough
  · exact .refl cursor

/-- Behind a byte that is there is no place beyond the end. -/
theorem position_advance_le {cursor : Cursor} (left : 1 ≤ cursor.remaining) :
    (cursor.advance 1).position ≤ cursor.bytes.size := by
  unfold remaining at left
  show cursor.position + 1 ≤ _
  omega

theorem position_of_take {cursor cursor' : Cursor} {bytes : Bytes}
    (ran : Cursor.take 1 cursor = .ok bytes cursor') :
    cursor'.position = cursor.position + 1 ∧ cursor'.position ≤ cursor.bytes.size := by
  unfold take at ran
  split at ran
  · next left =>
    cases ran
    exact ⟨rfl, position_advance_le left⟩
  · cases ran

end Cursor

instance : ForwardSource Cursor where
  position_of_seek := by
    rintro cursor _ target _ ⟨⟩
    rfl
  nextOrZero_onward := Cursor.nextOrZero_onward
  takeOrZeros_onward := Cursor.takeOrZeros_onward
  take_onward := Cursor.take_onward
  position_of_take _ _ _ := Cursor.position_of_take

namespace ByteStream

/-- Streams stand where their cursors do. -/
theorem onward_of_cursor {stream stream' : ByteStream}
    (onward : Onward stream.cursor stream'.cursor) : Onward stream stream' :=
  ⟨onward.size, onward.position⟩

theorem onward_moveTo_size (stream : ByteStream) :
    Onward stream (stream.moveTo stream.cursor.bytes.size) :=
  ⟨rfl, fun within => ⟨within, Nat.le_refl _⟩⟩

theorem nextOrZero_onward (stream : ByteStream) : Onward stream stream.nextOrZero.2 := by
  have forward := stream.cursor.nextOrZero_onward
  unfold Cursor.nextOrZero at forward
  unfold nextOrZero
  split
  · next there =>
    rw [there] at forward
    exact onward_of_cursor forward
  · exact stream.onward_moveTo_size
  · exact .refl stream

theorem exhaust_onward (stream : ByteStream) : Onward stream stream.exhaust := by
  unfold exhaust
  split
  · exact onward_of_cursor stream.cursor.onward_exhaust
  · exact onward_of_cursor stream.cursor.onward_exhaust
  · exact stream.onward_moveTo_size

theorem takeOrZeros_onward (count : Nat) (stream : ByteStream) :
    Onward stream (stream.takeOrZeros count).2 := by
  unfold takeOrZeros
  split
  · next enough => exact onward_of_cursor (Cursor.onward_advance enough)
  · exact stream.exhaust_onward

theorem take_onward (count : Nat) : Upholds Onward (ByteStream.take count) := by
  intro stream
  unfold take
  split
  · next enough => exact onward_of_cursor (Cursor.onward_advance enough)
  · exact .refl stream

end ByteStream

instance : ForwardSource ByteStream where
  position_of_seek := by
    rintro stream _ target _ ⟨⟩
    rfl
  nextOrZero_onward := ByteStream.nextOrZero_onward
  takeOrZeros_onward := ByteStream.takeOrZeros_onward
  take_onward := ByteStream.take_onward
  position_of_take stream stream' bytes ran := by
    change ByteStream.take 1 stream = _ at ran
    unfold ByteStream.take at ran
    split at ran
    · next left =>
      cases ran
      exact ⟨rfl, Cursor.position_advance_le left⟩
    · cases ran

namespace FaultyCursor

/-- Cursors with faults stand where they would without. -/
theorem onward_with (source : FaultyCursor) {cursor : Cursor}
    (onward : Onward source.cursor cursor) : Onward source { source with cursor } :=
  ⟨onward.size, onward.position⟩

/-- A broken byte is a zero that moves nothing. -/
theorem nextOrZero_onward (source : FaultyCursor) : Onward source source.nextOrZero.2 := by
  unfold nextOrZero
  split
  · exact .refl source
  · exact source.onward_with source.cursor.nextOrZero_onward

theorem takeOrZeros_onward (count : Nat) (source : FaultyCursor) :
    Onward source (source.takeOrZeros count).2 := by
  unfold takeOrZeros
  split
  · exact .refl source
  · exact source.onward_with (source.cursor.takeOrZeros_onward count)

theorem take_onward (count : Nat) : Upholds Onward (FaultyCursor.take count) := by
  intro source
  have forward := Cursor.take_onward count source.cursor
  unfold take onCursor
  split
  · exact .refl source
  · generalize Cursor.take count source.cursor = result at forward ⊢
    cases result <;> exact source.onward_with forward

end FaultyCursor

instance : ForwardSource FaultyCursor where
  position_of_seek := by
    intro source source' target here ran
    change FaultyCursor.seek (.start target) source = _ at ran
    unfold FaultyCursor.seek at ran
    cases ran
    rfl
  nextOrZero_onward := FaultyCursor.nextOrZero_onward
  takeOrZeros_onward := FaultyCursor.takeOrZeros_onward
  take_onward := FaultyCursor.take_onward
  position_of_take source source' bytes ran := by
    change FaultyCursor.take 1 source = _ at ran
    unfold FaultyCursor.take FaultyCursor.onCursor at ran
    split at ran
    · cases ran
    · split at ran
      · next taken =>
        cases ran
        exact Cursor.position_of_take taken
      · cases ran

/-! ## What is put together from reads -/

section

variable [ForwardSource σ]

open ForwardSource

namespace ByteSource

theorem u16LE_onward (source : σ) : Onward source (u16LE source).2 :=
  takeOrZeros_onward 2 source

theorem next_onward : Upholds Onward (next : SourceM σ UInt8) :=
  (take_onward 1).bind fun _ => .pure _

/-- **A byte that was read lies behind the source.** -/
theorem position_of_next {source source' : σ} {byte : UInt8}
    (read : next source = .ok byte source') :
    position source' = position source + 1 ∧ position source' ≤ size source := by
  obtain ⟨bytes, _, taken, ⟨⟩⟩ := exists_of_bind_ok read
  exact position_of_take source _ bytes taken

end ByteSource

open ByteSource

theorem VarInt.read_onward (source : σ) : Onward source (read source).2 := by
  have first := nextOrZero_onward source
  unfold read
  dsimp only
  split
  · exact first
  · split
    · exact first.trans (u16LE_onward _)
    · exact (first.trans (u16LE_onward _)).trans (u16LE_onward _)

namespace Token

theorem nextByte_onward : Upholds Onward (nextByte : EStateM RasterError σ UInt8) := by
  intro source
  have read := ByteSource.next_onward source
  unfold nextByte
  generalize ByteSource.next source = result at read ⊢
  cases result with
  | ok byte source' => exact read
  | error err source' =>
    dsimp only
    split <;> exact read

/-- A byte of a raster is consumed. -/
theorem nextByte_consumes {source source' : σ} {byte : UInt8}
    (read : nextByte source = .ok byte source') : Consumed source source' := by
  have onward := nextByte_onward.of_ok read
  unfold nextByte at read
  cases ran : ByteSource.next source with
  | ok byte' source'' =>
    rw [ran] at read
    cases read
    obtain ⟨moved, within⟩ := ByteSource.position_of_next ran
    exact ⟨onward.size, by omega, within⟩
  | error err source'' =>
    rw [ran] at read
    dsimp only at read
    split at read <;> cases read

theorem operand_onward : Upholds Onward (operand : EStateM RasterError σ Nat) :=
  nextByte_onward.bind fun _ => .pure _

theorem operand_consumes {source source' : σ} {n : Nat} (read : operand source = .ok n source') :
    Consumed source source' := by
  obtain ⟨byte, _, read, ⟨⟩⟩ := exists_of_bind_ok read
  exact nextByte_consumes read

theorem nextBytes_onward (count : Nat) :
    Upholds Onward (nextBytes count : EStateM RasterError σ (List UInt8)) := by
  induction count with
  | zero => exact .pure []
  | succ count ih => exact nextByte_onward.bind fun _ => ih.bind fun _ => .pure _

/-- **A token has a control byte**, which is consumed; and then what it asks for. -/
theorem readFirst_consumes {source source' : σ} {token : Token}
    (ran : readFirst source = .ok token source') : Consumed source source' := by
  obtain ⟨control, mid, read, ran⟩ := exists_of_bind_ok ran
  refine (operand_consumes read).trans (Upholds.of_ok ?_ ran)
  dsimp only
  split <;> split
  · exact operand_onward.bind fun _ => .pure _
  · exact .pure _
  · exact operand_onward.bind fun _ => .pure _
  · exact nextByte_onward.bind fun _ => .pure _

theorem readSecond_consumes {reg : SampleRegister} {source source' : σ}
    {answer : Token × SampleRegister} (ran : readSecond reg source = .ok answer source') :
    Consumed source source' := by
  obtain ⟨control, mid, read, ran⟩ := exists_of_bind_ok ran
  refine (operand_consumes read).trans (Upholds.of_ok ?_ ran)
  have counted : ∀ {answer : Nat → Token × SampleRegister},
      Upholds (Onward (σ := σ))
        (operand >>= fun n => (pure (answer n) : EStateM RasterError σ _)) :=
    operand_onward.bind fun _ => .pure _
  dsimp only
  split
  · refine operand_onward.bind fun size => ?_
    split
    · exact .pure _
    · exact .throw _
  · exact .pure _
  · exact counted
  · exact counted
  · exact counted
  · exact counted
  · split
    · exact .pure _
    · exact (nextBytes_onward reg.size).bind fun _ => .pure _

theorem read_consumes {generation : Generation} {reg : SampleRegister} {source source' : σ}
    {answer : Token × SampleRegister} (ran : read generation reg source = .ok answer source') :
    Consumed source source' := by
  cases generation with
  | first =>
    obtain ⟨token, _, ran, ⟨⟩⟩ := exists_of_bind_ok ran
    exact readFirst_consumes ran
  | second => exact readSecond_consumes ran

end Token

end

end WpgRaster
