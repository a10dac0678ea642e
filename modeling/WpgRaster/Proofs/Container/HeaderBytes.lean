import WpgRaster.Container.Decoder
import WpgRaster.Proofs.Source.Reading

/-!
# The bytes of a header

A header is written in sixteen bytes (`Header.bytes`). The header that is read
is the one whose bytes are the first ones of the file, and there is no other
(`Decoder.readHeader_of_prefix`, `Decoder.readHeader_ok`). So to change one of
its fields is to change some of these bytes (`Bytes.withDataOffset`).
-/

namespace WpgRaster

/-! ## Writing and reading headers -/

namespace Header

variable (header : Header)

/-- The bytes behind the offset of the first record. -/
def tail : List UInt8 :=
  littleEndianBytes 2 header.productType.toNat ++ (littleEndianBytes 2 header.fileType.toNat
    ++ ([header.majorVersion] ++ ([header.minorVersion]
    ++ littleEndianBytes 2 header.encryptKey.toNat)))

/-- The bytes behind the identification. -/
def restBytes : List UInt8 := littleEndianBytes 4 header.dataOffset.toNat ++ header.tail

/-- **The bytes of a header.** -/
def bytes : List UInt8 := littleEndianBytes 4 header.fileId.toNat ++ header.restBytes

theorem length_tail : header.tail.length = 8 := by
  simp only [tail, List.length_append, length_littleEndianBytes, List.length_singleton]

@[simp] theorem length_bytes : header.bytes.length = 16 := by
  simp only [bytes, restBytes, List.length_append, length_littleEndianBytes, length_tail]

/-- A file that is recognised begins with the bytes that identify the format. -/
theorem littleEndianBytes_of_isMagic {fileId : UInt32} (known : isMagic fileId = true) :
    littleEndianBytes 4 fileId.toNat = magic.toList := by
  rw [eq_of_beq known]
  exact littleEndianBytes_littleEndian magic

/-- **A header is read back.** -/
theorem readRest_parses :
    Parses (readRest header.fileId : SourceM Cursor Header) header.restBytes header :=
  (ByteSource.nextU32LE_parses header.dataOffset).bind
    ((ByteSource.nextU16LE_parses header.productType).bind
      ((ByteSource.nextU16LE_parses header.fileType).bind
        ((ByteSource.next_parses header.majorVersion).bind
          ((ByteSource.next_parses header.minorVersion).bind
            ((ByteSource.nextU16LE_parses header.encryptKey).map _)))))

variable {header}

/-- The identification stays the one that was read. -/
theorem fileId_of_readRest {fileId : UInt32} {cursor cursor' : Cursor}
    (ran : readRest fileId cursor = .ok header cursor') : header.fileId = fileId := by
  obtain ⟨_, _, _, ran⟩ := exists_of_bind_ok ran
  obtain ⟨_, _, _, ran⟩ := exists_of_bind_ok ran
  obtain ⟨_, _, _, ran⟩ := exists_of_bind_ok ran
  obtain ⟨_, _, _, ran⟩ := exists_of_bind_ok ran
  obtain ⟨_, _, _, ran⟩ := exists_of_bind_ok ran
  obtain ⟨_, _, _, ran⟩ := exists_of_bind_ok ran
  cases ran
  rfl

/-- **A header that was read stands there.** -/
theorem readRest_transcribes (fileId : UInt32) :
    Transcribes (readRest fileId : SourceM Cursor Header) restBytes := by
  intro cursor cursor' header ran
  obtain ⟨dataOffset, _, read, ran⟩ := exists_of_bind_ok ran
  rw [ByteSource.nextU32LE_transcribes _ _ _ read]
  obtain ⟨productType, _, read, ran⟩ := exists_of_bind_ok ran
  rw [ByteSource.nextU16LE_transcribes _ _ _ read]
  obtain ⟨fileType, _, read, ran⟩ := exists_of_bind_ok ran
  rw [ByteSource.nextU16LE_transcribes _ _ _ read]
  obtain ⟨majorVersion, _, read, ran⟩ := exists_of_bind_ok ran
  rw [ByteSource.next_transcribes _ _ _ read]
  obtain ⟨minorVersion, _, read, ran⟩ := exists_of_bind_ok ran
  rw [ByteSource.next_transcribes _ _ _ read]
  obtain ⟨encryptKey, _, read, ran⟩ := exists_of_bind_ok ran
  rw [ByteSource.nextU16LE_transcribes _ _ _ read]
  cases ran
  unfold restBytes tail
  simp only [List.append_assoc]

end Header

namespace Decoder

/-! ## Steps of the source -/

section

variable {σ α : Type} {step : SourceM σ α} {a : α} {decoder : Decoder σ}

/-- A step of the source that goes well is one of the decoder. -/
theorem onSource_of_ok {source : σ} (went : step decoder.source = .ok a source) :
    onSource step decoder = .ok a { decoder with source } := by
  unfold onSource
  rw [went]

/-- There are no others. -/
theorem exists_of_onSource_ok {mid : Decoder σ} (went : onSource step decoder = .ok a mid) :
    ∃ source, step decoder.source = .ok a source ∧ mid = { decoder with source } := by
  unfold onSource at went
  generalize step decoder.source = result at went
  cases result with
  | ok _ source =>
    cases went
    exact ⟨source, rfl, rfl⟩
  | error _ _ => cases went

end

variable {decoder : Decoder Cursor}

/-- A decoder whose source was moved to a position. -/
def moveTo (decoder : Decoder Cursor) (position : Nat) : Decoder Cursor :=
  { decoder with source := ⟨decoder.source.bytes, position⟩ }

/-- What is parsed of a source is parsed of a decoder. -/
theorem onSource_parses {α : Type} {step : SourceM Cursor α} {a : α} {position : Nat}
    {bytes rest : List UInt8} (parses : Parses step bytes a)
    (left : (decoder.moveTo position).source.rest = bytes ++ rest) :
    onSource step (decoder.moveTo position) = .ok a (decoder.moveTo (position + bytes.length)) :=
  onSource_of_ok (parses _ rest left)

/-! ## The header of a file -/

variable {header : Header}

/-- **The header that the first bytes are those of is read**, wherever the source
stood. -/
theorem readHeader_of_prefix (stands : header.bytes <+: decoder.source.bytes.toList)
    (known : Header.isMagic header.fileId = true) (sound : header.fault? = none) :
    readHeader decoder = .ok header (decoder.moveTo 16) := by
  obtain ⟨rest, stored⟩ := stands
  have left : (decoder.moveTo 0).source.rest
      = littleEndianBytes 4 header.fileId.toNat ++ (header.restBytes ++ rest) := by
    show decoder.source.bytes.toList.drop 0 = _
    rw [← stored, List.drop_zero, Header.bytes, List.append_assoc]
  have behind : (decoder.moveTo (0 + (littleEndianBytes 4 header.fileId.toNat).length)).source.rest
      = header.restBytes ++ rest := Cursor.rest_advance_append left
  have sought : onSource (ByteSource.seek (.start 0)) decoder = .ok 0 (decoder.moveTo 0) :=
    onSource_of_ok rfl
  unfold readHeader
  rw [bind_of_ok sought]
  show (onSource ByteSource.nextU32LE >>= _) _ = _
  rw [bind_of_ok (onSource_parses (ByteSource.nextU32LE_parses header.fileId) left), if_pos known]
  show (onSource (Header.readRest header.fileId) >>= _) _ = _
  rw [bind_of_ok (onSource_parses header.readRest_parses behind), sound]
  have length : 0 + (littleEndianBytes 4 header.fileId.toNat).length + header.restBytes.length
      = 16 := by
    rw [Nat.zero_add, ← List.length_append]
    exact header.length_bytes
  rw [length]
  rfl

/-- **A header that was read is the one that the first bytes are those of.** -/
theorem readHeader_ok {mid : Decoder Cursor} (read : readHeader decoder = .ok header mid) :
    header.bytes <+: decoder.source.bytes.toList ∧ Header.isMagic header.fileId = true
      ∧ header.fault? = none := by
  have sought : onSource (ByteSource.seek (.start 0)) decoder = .ok 0 (decoder.moveTo 0) :=
    onSource_of_ok rfl
  unfold readHeader at read
  rw [bind_of_ok sought] at read
  obtain ⟨fileId, _, identified, read⟩ := exists_of_bind_ok read
  obtain ⟨source, fileIdRead, rfl⟩ := exists_of_onSource_ok identified
  dsimp only at read
  split at read
  · next known =>
    obtain ⟨header, _, filled, read⟩ := exists_of_bind_ok read
    obtain ⟨source', restRead, rfl⟩ := exists_of_onSource_ok filled
    have front := ByteSource.nextU32LE_transcribes _ _ _ fileIdRead
    have behind := Header.readRest_transcribes _ _ _ _ restRead
    have same := Header.fileId_of_readRest restRead
    cases sound : header.fault? with
    | some err =>
      rw [sound] at read
      obtain ⟨_, _, thrown, _⟩ := exists_of_bind_ok read
      cases thrown
    | none =>
      rw [sound] at read
      cases read
      refine ⟨⟨source'.rest, ?_⟩, same ▸ known, sound⟩
      have whole : decoder.source.bytes.toList = (decoder.moveTo 0).source.rest := rfl
      rw [whole, front, behind, Header.bytes, same, List.append_assoc]
  · obtain ⟨_, _, thrown, _⟩ := exists_of_bind_ok read
    cases thrown

end Decoder

/-! ## Changing the offset of the first record -/

/-- **A file whose header gives another offset of the first record**, and which
is the same otherwise. -/
def Bytes.withDataOffset (bytes : Bytes) (offset : UInt32) : Bytes :=
  (bytes.toList.take 4 ++ littleEndianBytes 4 offset.toNat ++ bytes.toList.drop 8).toArray

namespace Header

variable {header : Header} {bytes : Bytes}

/-- The header is then the same up to this offset. -/
theorem prefix_withDataOffset (stands : header.bytes <+: bytes.toList) (offset : UInt32) :
    { header with dataOffset := offset }.bytes <+: (bytes.withDataOffset offset).toList := by
  obtain ⟨rest, stored⟩ := stands
  refine ⟨rest, ?_⟩
  have four : bytes.toList.take 4 = littleEndianBytes 4 header.fileId.toNat := by
    rw [← stored, Header.bytes, List.append_assoc]
    exact List.take_left' (length_littleEndianBytes 4 _)
  have eight : bytes.toList.drop 8 = header.tail ++ rest := by
    rw [← stored, Header.bytes, restBytes, ← List.append_assoc, List.append_assoc]
    exact List.drop_left' (by simp only [List.length_append, length_littleEndianBytes])
  unfold Bytes.withDataOffset
  rw [four, eight]
  simp only [Header.bytes, restBytes, tail, List.append_assoc]

end Header

namespace Bytes

variable {bytes : Bytes}

/-- The size is the same. -/
theorem size_withDataOffset (offset : UInt32) (whole : 8 ≤ bytes.size) :
    (bytes.withDataOffset offset).size = bytes.size := by
  unfold withDataOffset
  simp only [List.size_toArray, List.length_append, List.length_take, List.length_drop,
    length_littleEndianBytes, Array.length_toList]
  omega

/-- So are the bytes behind the offset. -/
theorem drop_withDataOffset (offset : UInt32) (whole : 8 ≤ bytes.size) {first : Nat}
    (behind : 8 ≤ first) :
    (bytes.withDataOffset offset).toList.drop first = bytes.toList.drop first := by
  have front : (bytes.toList.take 4 ++ littleEndianBytes 4 offset.toNat).length = 8 := by
    rw [List.length_append, List.length_take, length_littleEndianBytes, Array.length_toList]
    omega
  obtain ⟨more, rfl⟩ := Nat.exists_eq_add_of_le behind
  unfold withDataOffset
  rw [← List.drop_drop, List.drop_left' front, List.drop_drop]

end Bytes

end WpgRaster
