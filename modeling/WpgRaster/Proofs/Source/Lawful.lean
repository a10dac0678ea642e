import WpgRaster.Proofs.Upholding
import WpgRaster.Proofs.Source.Supply
import WpgRaster.Source.VarInt

/-!
# The file behind a source

A source is a file and a position in it. What a source is apart from its
position shows when it is moved: two sources have the same *file* if moving
them to a position leads to the same source, whatever the position
(`ByteSource.file`). A source is lawful if no operation changes its file
(`LawfulByteSource`). So what is read from a position on does not depend on
what was read before.

Cursors and byte streams are lawful. So are cursors with faults, whose faults
are part of the file.
-/

namespace WpgRaster

/-- **The file of a source**: what moving it to a position leads to. -/
def ByteSource.file {σ : Type} [ByteSource σ] (source : σ) (position : Nat) :
    EStateM.Result SourceError σ Nat :=
  ByteSource.seek (.start position) source

/-- **Two states of a source** that have the same file. -/
def SameFile {σ : Type} [ByteSource σ] (source source' : σ) : Prop :=
  ByteSource.file source' = ByteSource.file source

namespace SameFile

variable {σ : Type} [ByteSource σ] {source source' source'' : σ}

theorem refl (source : σ) : SameFile source source := rfl

theorem symm (same : SameFile source source') : SameFile source' source := Eq.symm same

theorem trans (first : SameFile source source') (second : SameFile source' source'') :
    SameFile source source'' :=
  Eq.trans second first

instance : IsPreorder σ (SameFile (σ := σ)) where
  refl := refl
  trans _ _ _ := trans

/-- Sources of the same file are the same once they were moved. -/
theorem seek_eq (same : SameFile source source') (position : Nat) :
    (ByteSource.seek (.start position) source' : EStateM.Result SourceError σ Nat)
      = ByteSource.seek (.start position) source :=
  congrFun same position

end SameFile

/-- **Sources whose operations leave the file alone.** -/
class LawfulByteSource (σ : Type) [ByteSource σ] : Prop where
  nextOrZero_sameFile : ∀ source : σ, SameFile source (ByteSource.nextOrZero source).2
  takeOrZeros_sameFile : ∀ count (source : σ),
    SameFile source (ByteSource.takeOrZeros count source).2
  take_sameFile : ∀ count, Upholds (SameFile (σ := σ)) (ByteSource.take count)
  takeUpTo_sameFile : ∀ limit, Upholds (SameFile (σ := σ)) (ByteSource.takeUpTo limit)
  seek_sameFile : ∀ target, Upholds (SameFile (σ := σ)) (ByteSource.seek target)

/-! ## Lawful sources -/

/-- Cursors have the same file if they have the same bytes. -/
theorem Cursor.sameFile_iff {cursor cursor' : Cursor} :
    SameFile cursor cursor' ↔ cursor'.bytes = cursor.bytes := by
  constructor
  · intro same
    have moved : EStateM.Result.ok 0 (⟨cursor'.bytes, 0⟩ : Cursor)
        = (.ok 0 ⟨cursor.bytes, 0⟩ : EStateM.Result SourceError Cursor Nat) := same.seek_eq 0
    cases cursor
    cases cursor'
    cases moved
    rfl
  · intro bytes
    funext position
    show EStateM.Result.ok position (⟨cursor'.bytes, position⟩ : Cursor)
      = .ok position ⟨cursor.bytes, position⟩
    rw [bytes]

namespace Cursor

theorem bytes_nextOrZero (cursor : Cursor) : cursor.nextOrZero.2.bytes = cursor.bytes := by
  unfold nextOrZero
  split <;> rfl

theorem bytes_takeOrZeros (count : Nat) (cursor : Cursor) :
    (cursor.takeOrZeros count).2.bytes = cursor.bytes := by
  unfold takeOrZeros
  split <;> rfl

theorem bytes_take (count : Nat) (cursor : Cursor) :
    (behind (take count cursor)).bytes = cursor.bytes := by
  unfold take
  split <;> rfl

theorem bytes_seek (target : SeekTarget) (cursor : Cursor) :
    (behind (seek target cursor)).bytes = cursor.bytes := by
  unfold seek
  split <;> rfl

end Cursor

instance : LawfulByteSource Cursor where
  nextOrZero_sameFile cursor := Cursor.sameFile_iff.mpr cursor.bytes_nextOrZero
  takeOrZeros_sameFile count cursor := Cursor.sameFile_iff.mpr (cursor.bytes_takeOrZeros count)
  take_sameFile count cursor := Cursor.sameFile_iff.mpr (cursor.bytes_take count)
  takeUpTo_sameFile _ _ := Cursor.sameFile_iff.mpr rfl
  seek_sameFile target cursor := Cursor.sameFile_iff.mpr (cursor.bytes_seek target)

/-- Byte streams of the same bytes and buffering have the same file. -/
theorem ByteStream.sameFile_of_eq {stream stream' : ByteStream}
    (bytes : stream'.cursor.bytes = stream.cursor.bytes)
    (buffering : stream'.buffering = stream.buffering) : SameFile stream stream' := by
  funext position
  show EStateM.Result.ok position
    (⟨⟨stream'.cursor.bytes, position⟩, stream'.buffering⟩ : ByteStream)
    = .ok position ⟨⟨stream.cursor.bytes, position⟩, stream.buffering⟩
  rw [bytes, buffering]

namespace ByteStream

theorem exhaust_sameFile (stream : ByteStream) : SameFile stream stream.exhaust := by
  unfold exhaust
  split <;> exact sameFile_of_eq rfl rfl

theorem nextOrZero_sameFile (stream : ByteStream) : SameFile stream stream.nextOrZero.2 := by
  unfold nextOrZero
  split <;> exact sameFile_of_eq rfl rfl

theorem takeOrZeros_sameFile (count : Nat) (stream : ByteStream) :
    SameFile stream (takeOrZeros count stream).2 := by
  unfold takeOrZeros
  split
  · exact sameFile_of_eq rfl rfl
  · exact stream.exhaust_sameFile

theorem take_sameFile (count : Nat) : Upholds SameFile (take count) := by
  intro stream
  unfold take
  split <;> exact sameFile_of_eq rfl rfl

theorem seek_sameFile (target : SeekTarget) : Upholds SameFile (seek target) := by
  intro stream
  unfold seek
  split <;> exact sameFile_of_eq rfl rfl

end ByteStream

instance : LawfulByteSource ByteStream where
  nextOrZero_sameFile := ByteStream.nextOrZero_sameFile
  takeOrZeros_sameFile := ByteStream.takeOrZeros_sameFile
  take_sameFile := ByteStream.take_sameFile
  takeUpTo_sameFile _ _ := ByteStream.sameFile_of_eq rfl rfl
  seek_sameFile := ByteStream.seek_sameFile

/-- Faulty cursors of the same bytes and faults have the same file. -/
theorem FaultyCursor.sameFile_with (source : FaultyCursor) {cursor : Cursor}
    (bytes : cursor.bytes = source.cursor.bytes) : SameFile source { source with cursor } := by
  funext position
  show onCursor (Cursor.seek (.start position)) { source with cursor }
    = onCursor (Cursor.seek (.start position)) source
  show EStateM.Result.ok position { source with cursor := ⟨cursor.bytes, position⟩ }
    = .ok position { source with cursor := ⟨source.cursor.bytes, position⟩ }
  rw [bytes]

namespace FaultyCursor

theorem onCursor_sameFile {α : Type} {op : SourceM Cursor α}
    (keeps : ∀ cursor, (behind (op cursor)).bytes = cursor.bytes) :
    Upholds SameFile (onCursor op) := by
  intro source
  have kept := keeps source.cursor
  unfold onCursor
  generalize op source.cursor = result at kept ⊢
  cases result with
  | ok a cursor => exact source.sameFile_with kept
  | error err cursor => exact source.sameFile_with kept

theorem nextOrZero_sameFile (source : FaultyCursor) : SameFile source source.nextOrZero.2 := by
  unfold nextOrZero
  split
  · exact .refl source
  · exact source.sameFile_with source.cursor.bytes_nextOrZero

theorem takeOrZeros_sameFile (count : Nat) (source : FaultyCursor) :
    SameFile source (takeOrZeros count source).2 := by
  unfold takeOrZeros
  split
  · exact .refl source
  · exact source.sameFile_with (source.cursor.bytes_takeOrZeros count)

theorem take_sameFile (count : Nat) : Upholds SameFile (take count) := by
  intro source
  unfold take
  split
  · exact .refl source
  · exact onCursor_sameFile (Cursor.bytes_take count) source

theorem takeUpTo_sameFile (limit : Nat) : Upholds SameFile (takeUpTo limit) := by
  intro source
  unfold takeUpTo
  split
  · exact .refl source
  · exact onCursor_sameFile (fun _ => rfl) source

theorem seek_sameFile (target : SeekTarget) : Upholds SameFile (seek target) := by
  intro source
  unfold seek
  split
  · exact .refl source
  · exact onCursor_sameFile (Cursor.bytes_seek _) source

end FaultyCursor

instance : LawfulByteSource FaultyCursor where
  nextOrZero_sameFile := FaultyCursor.nextOrZero_sameFile
  takeOrZeros_sameFile := FaultyCursor.takeOrZeros_sameFile
  take_sameFile := FaultyCursor.take_sameFile
  takeUpTo_sameFile := FaultyCursor.takeUpTo_sameFile
  seek_sameFile := FaultyCursor.seek_sameFile

/-! ## What is built from the operations -/

variable {σ : Type} [ByteSource σ] [LawfulByteSource σ]

open LawfulByteSource

namespace ByteSource

theorem next_sameFile : Upholds SameFile (next : SourceM σ UInt8) :=
  (take_sameFile 1).bind fun _ => .pure _

theorem nextU16LE_sameFile : Upholds SameFile (nextU16LE : SourceM σ UInt16) :=
  (take_sameFile 2).bind fun _ => .pure _

theorem nextU32LE_sameFile : Upholds SameFile (nextU32LE : SourceM σ UInt32) :=
  (take_sameFile 4).bind fun _ => .pure _

theorem length_sameFile : Upholds SameFile (length : SourceM σ Nat) := by
  unfold length
  refine Upholds.get.bind fun source => (seek_sameFile _).bind fun size => ?_
  dsimp only
  split
  · exact .pure _
  · exact (seek_sameFile _).bind fun _ => .pure _

theorem u16LE_sameFile (source : σ) : SameFile source (u16LE source).2 :=
  takeOrZeros_sameFile 2 source

theorem u32LE_sameFile (source : σ) : SameFile source (u32LE source).2 :=
  takeOrZeros_sameFile 4 source

end ByteSource

open ByteSource

theorem VarInt.read_sameFile (source : σ) : SameFile source (read source).2 := by
  have first := nextOrZero_sameFile source
  unfold read
  dsimp only
  split
  · exact first
  · split
    · exact first.trans (u16LE_sameFile _)
    · exact (first.trans (u16LE_sameFile _)).trans (u16LE_sameFile _)

theorem Token.nextByte_sameFile : Upholds SameFile (nextByte : EStateM RasterError σ UInt8) := by
  intro source
  have read := ByteSource.next_sameFile source
  unfold nextByte
  generalize ByteSource.next source = result at read ⊢
  cases result with
  | ok byte source' => exact read
  | error err source' =>
    dsimp only
    split <;> exact read

namespace FrameFormat

theorem gather_sameFile (fuel need : Nat) (bytes : Bytes) :
    Upholds SameFile (gather fuel need bytes : SourceM σ Bytes) := by
  induction fuel generalizing need bytes with
  | zero => exact .pure bytes
  | succ fuel ih =>
    unfold gather
    split
    · exact .pure bytes
    · refine (takeUpTo_sameFile need).bind fun chunk => ?_
      split
      · exact .pure bytes
      · exact ih _ _

theorem nextRow_sameFile (width : Nat) :
    Upholds SameFile (nextRow width : EStateM RasterError σ Bytes) := by
  intro source
  have gathered := gather_sameFile width width #[] source
  unfold nextRow EStateM.adaptExcept
  generalize gather width width #[] source = result at gathered ⊢
  cases result with
  | ok bytes source' => exact gathered
  | error err source' => exact gathered

/-- **Decoding a frame leaves the file alone.** -/
theorem decode_sameFile {κ : Type} [RowSink κ] (format : FrameFormat) (source : σ) (sink : κ)
    (stop : Stop) : SameFile source (format.decode source sink stop).source := by
  -- a source of the file simulates itself
  have itself : ∀ {α : Type} {step : EStateM RasterError σ α}, Upholds SameFile step →
      Simulates (fun source' source'' => source' = source'' ∧ SameFile source source') step
        step := by
    rintro α step upholds source' _ ⟨rfl, same⟩
    have upheld := upholds source'
    generalize step source' = result at upheld ⊢
    cases result with
    | ok a behind => exact .ok ⟨rfl, same.trans upheld⟩
    | error err behind => exact .error ⟨rfl, same.trans upheld⟩
  have reads :
      SourceSimulates fun source' source'' => source' = source'' ∧ SameFile source source' :=
    { size := by
        rintro source' _ ⟨rfl, -⟩
        rfl
      nextByte := itself Token.nextByte_sameFile
      nextRow := fun width => itself (nextRow_sameFile width) }
  exact (decode_simulates reads (.refl κ) format ⟨Eq.refl source, .refl source⟩ (Eq.refl sink)
    stop).source.2

end FrameFormat

end WpgRaster
