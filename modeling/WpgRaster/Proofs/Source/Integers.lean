import WpgRaster.Proofs.Source.EverySource
import WpgRaster.Proofs.Source.Reading

/-!
# Variable-length integers from every source

A number of 31 bits may be spelled in three ways, of which only the longest has room for all
of them (`VarInt.Spells`). Whatever its spelling is, and whatever comes behind it, a number is
read back from every source, which then stands right behind its bytes.

At the end of a file a spelling may be cut off. What is missing there is always the last of the
numbers that it consists of, and this counts as zero, also if one of its two bytes is there
(`VarInt.Form.Cut`). So a number is read in any case, and it is that of a form.
-/

namespace WpgRaster

namespace VarInt

/-! ## Spellings -/

/-- **The spellings of a number.** -/
inductive Spells : Nat → List UInt8 → Prop
  /-- A byte. -/
  | byte {value : Nat} (small : value < 0xFF) : Spells value [value.toUInt8]
  /-- 16 bits, the first of which is not set. -/
  | word {value : Nat} (small : value < 0x8000) :
    Spells value (0xFF :: littleEndianBytes 2 value)
  /-- 16 bits, the first of which is set and no part of the number, and 16 bits more. -/
  | double {value : Nat} (small : value < 0x80000000) :
    Spells value (0xFF :: (littleEndianBytes 2 (0x8000 ||| value >>> 16)
      ++ littleEndianBytes 2 (value % 0x10000)))

/-- A spelling is a form of the number. -/
theorem Spells.exists_form {value : Nat} {bytes : List UInt8} (spells : Spells value bytes) :
    ∃ form : Form, form.value = value ∧ form.bytes = bytes := by
  cases spells with
  | byte small =>
    have same : value.toUInt8.toNat = value := Nat.mod_eq_of_lt (Nat.lt_succ_of_lt small)
    exact ⟨.byte value.toUInt8 (same.symm ▸ small), same, rfl⟩
  | word small =>
    have same : value.toUInt16.toNat = value :=
      Nat.mod_eq_of_lt (Nat.lt_trans small (by decide))
    refine ⟨.word value.toUInt16 (same.symm ▸ small), same, ?_⟩
    show 0xFF :: littleEndianBytes 2 value.toUInt16.toNat = _
    rw [same]
  | double small =>
    have top : value >>> 16 < 2 ^ 15 := by
      rw [Nat.shiftRight_eq_div_pow]
      omega
    have sum : 0x8000 ||| value >>> 16 = 0x8000 + value >>> 16 :=
      (Nat.two_pow_add_eq_or_of_lt top 1).symm
    have high : (0x8000 ||| value >>> 16).toUInt16.toNat = 0x8000 ||| value >>> 16 :=
      Nat.mod_eq_of_lt (by rw [sum]; omega)
    have low : (value % 0x10000).toUInt16.toNat = value % 0x10000 :=
      Nat.mod_eq_of_lt (Nat.mod_lt _ (by decide))
    refine ⟨.double (0x8000 ||| value >>> 16).toUInt16 (value % 0x10000).toUInt16 ?_, ?_, ?_⟩
    · rw [high, sum]
      exact Nat.le_add_right _ _
    · show ((0x8000 ||| value >>> 16).toUInt16.toNat - 0x8000) * 0x10000
        + (value % 0x10000).toUInt16.toNat = value
      rw [high, low, sum, Nat.add_sub_cancel_left, Nat.shiftRight_eq_div_pow]
      exact Nat.div_add_mod' value 0x10000
    · show (0xFF : UInt8) :: (littleEndianBytes 2 (0x8000 ||| value >>> 16).toUInt16.toNat
        ++ littleEndianBytes 2 (value % 0x10000).toUInt16.toNat) = _
      rw [high, low]

namespace Form

/-- Forms have one byte, three or five. -/
theorem length_bytes (form : Form) :
    form.bytes.length = 1 ∨ form.bytes.length = 3 ∨ form.bytes.length = 5 := by
  cases form with
  | byte => exact .inl rfl
  | word => exact .inr (.inl rfl)
  | double => exact .inr (.inr rfl)

end Form

end VarInt

/-! ## Reads -/

variable {σ : Type} [ByteReader σ] {file : Bytes} {sound : σ → Prop} {s : σ}

namespace Served

variable {bytes : Bytes} {count here there : Nat}

/-- What is served of bytes that are there. -/
theorem of_append (served : Served file count here bytes there) {front rest : List UInt8}
    (left : file.toList.drop here = front ++ rest) (length : front.length = count) :
    bytes.toList = front ∧ there = here + count ∧ file.toList.drop there = rest := by
  have size := congrArg List.length left
  rw [List.length_drop, Array.length_toList, List.length_append, length] at size
  obtain ⟨rfl, rfl⟩ := served.of_le (by omega)
  refine ⟨?_, rfl, ?_⟩
  · rw [Array.toList_extract, List.extract_eq_take_drop, Nat.add_sub_cancel_left, left,
      List.take_left' length]
  · rw [← List.drop_drop, left, List.drop_left' length]

/-- What is served if there are too few. -/
theorem of_length_lt (served : Served file count here bytes there)
    (few : (file.toList.drop here).length < count) :
    bytes = Array.replicate count 0 ∧ file.size ≤ there := by
  rw [List.length_drop, Array.length_toList] at few
  exact served.of_lt few

end Served

namespace Faithful

variable (faithful : Faithful file sound) {rest : List UInt8}

include faithful

theorem nextOrZero_of_cons (kept : sound s) {byte : UInt8}
    (left : file.toList.drop (ByteSource.position s) = byte :: rest) :
    ∃ s', ByteSource.nextOrZero s = (byte, s') ∧ sound s'
      ∧ ByteSource.position s' = ByteSource.position s + 1
      ∧ file.toList.drop (ByteSource.position s') = rest := by
  obtain ⟨kept', served⟩ := faithful.nextOrZero s kept
  have front : file.toList.drop (ByteSource.position s) = [byte] ++ rest := left
  obtain ⟨bytes, behind⟩ := served.of_append front rfl
  have same : (ByteSource.nextOrZero s).1 = byte := List.head_eq_of_cons_eq bytes
  exact ⟨_, Prod.ext same rfl, kept', behind⟩

theorem nextOrZero_of_nil (kept : sound s)
    (left : file.toList.drop (ByteSource.position s) = []) :
    ∃ s', ByteSource.nextOrZero s = (0, s') ∧ sound s' ∧ file.size ≤ ByteSource.position s' := by
  obtain ⟨kept', served⟩ := faithful.nextOrZero s kept
  obtain ⟨bytes, ended⟩ := served.of_length_lt (by rw [left]; exact Nat.one_pos)
  have zero : (ByteSource.nextOrZero s).1 = 0 :=
    List.head_eq_of_cons_eq (congrArg Array.toList bytes)
  exact ⟨_, Prod.ext zero rfl, kept', ended⟩

theorem u16LE_of_append (kept : sound s) {word : UInt16}
    (left : file.toList.drop (ByteSource.position s) = littleEndianBytes 2 word.toNat ++ rest) :
    ∃ s', ByteSource.u16LE s = (word, s') ∧ sound s'
      ∧ ByteSource.position s' = ByteSource.position s + 2
      ∧ file.toList.drop (ByteSource.position s') = rest := by
  obtain ⟨kept', served⟩ := faithful.takeOrZeros 2 s kept
  obtain ⟨bytes, behind⟩ := served.of_append left (length_littleEndianBytes _ _)
  have taken : (ByteSource.takeOrZeros 2 s).1 = (littleEndianBytes 2 word.toNat).toArray :=
    Array.toList_inj.mp bytes
  refine ⟨_, Prod.ext ?_ rfl, kept', behind⟩
  show (ByteSource.takeOrZeros 2 s).1.littleEndian.toUInt16 = word
  rw [taken, toUInt16_littleEndian]

theorem u16LE_of_lt (kept : sound s)
    (few : (file.toList.drop (ByteSource.position s)).length < 2) :
    ∃ s', ByteSource.u16LE s = (0, s') ∧ sound s' ∧ file.size ≤ ByteSource.position s' := by
  obtain ⟨kept', served⟩ := faithful.takeOrZeros 2 s kept
  obtain ⟨bytes, ended⟩ := served.of_length_lt few
  refine ⟨_, Prod.ext ?_ rfl, kept', ended⟩
  show (ByteSource.takeOrZeros 2 s).1.littleEndian.toUInt16 = 0
  rw [bytes]
  rfl

/-- **Every form is read back** from every source. -/
theorem read_of_append (kept : sound s) (form : VarInt.Form)
    (left : file.toList.drop (ByteSource.position s) = form.bytes ++ rest) :
    ∃ s', VarInt.read s = (⟨form.value, form.bytes.length⟩, s') ∧ sound s'
      ∧ ByteSource.position s' = ByteSource.position s + form.bytes.length := by
  unfold VarInt.read
  cases form with
  | byte value small =>
    obtain ⟨s', first, kept', place, -⟩ := faithful.nextOrZero_of_cons kept left
    rw [first]
    dsimp only
    rw [if_pos small]
    exact ⟨s', rfl, kept', place⟩
  | word value small =>
    obtain ⟨mid, first, kept_mid, place_mid, left_mid⟩ := faithful.nextOrZero_of_cons kept left
    obtain ⟨s', word, kept', place, -⟩ := faithful.u16LE_of_append kept_mid left_mid
    rw [first]
    dsimp only
    rw [if_neg (by decide), word]
    dsimp only
    rw [if_pos small]
    exact ⟨s', rfl, kept', by rw [place, place_mid]; rfl⟩
  | double high low large =>
    have front : file.toList.drop (ByteSource.position s)
        = 0xFF :: (littleEndianBytes 2 high.toNat ++ (littleEndianBytes 2 low.toNat ++ rest)) := by
      rw [left, ← List.append_assoc]
      rfl
    obtain ⟨mid, first, kept_mid, place_mid, left_mid⟩ := faithful.nextOrZero_of_cons kept front
    obtain ⟨last, word, kept_last, place_last, left_last⟩ :=
      faithful.u16LE_of_append kept_mid left_mid
    obtain ⟨s', final, kept', place, -⟩ := faithful.u16LE_of_append kept_last left_last
    rw [first]
    dsimp only
    rw [if_neg (by decide), word]
    dsimp only
    rw [if_neg (Nat.not_lt.mpr large), final]
    exact ⟨s', rfl, kept', by rw [place, place_last, place_mid]; rfl⟩

/-- **A form that is cut off is read** with a zero, at the end of the file. -/
theorem read_of_cut (kept : sound s) {form : VarInt.Form}
    (cut : form.Cut (file.toList.drop (ByteSource.position s))) :
    ∃ s', VarInt.read s = (⟨form.value, form.bytes.length⟩, s') ∧ sound s'
      ∧ file.size ≤ ByteSource.position s' := by
  generalize left : file.toList.drop (ByteSource.position s) = bytes at cut
  unfold VarInt.read
  cases cut with
  | byte =>
    obtain ⟨s', first, kept', ended⟩ := faithful.nextOrZero_of_nil kept left
    rw [first]
    exact ⟨s', rfl, kept', ended⟩
  | word few =>
    obtain ⟨mid, first, kept_mid, -, left_mid⟩ := faithful.nextOrZero_of_cons kept left
    obtain ⟨s', word, kept', ended⟩ := faithful.u16LE_of_lt kept_mid (left_mid ▸ few)
    rw [first]
    dsimp only
    rw [if_neg (by decide), word]
    exact ⟨s', rfl, kept', ended⟩
  | double large few =>
    obtain ⟨mid, first, kept_mid, -, left_mid⟩ := faithful.nextOrZero_of_cons kept left
    obtain ⟨last, word, kept_last, -, left_last⟩ := faithful.u16LE_of_append kept_mid left_mid
    obtain ⟨s', final, kept', ended⟩ := faithful.u16LE_of_lt kept_last (left_last ▸ few)
    rw [first]
    dsimp only
    rw [if_neg (by decide), word]
    dsimp only
    rw [if_neg (Nat.not_lt.mpr large), final]
    exact ⟨s', rfl, kept', ended⟩

end Faithful

/-- **A source that integers can be read from.** -/
structure ReadsIntegers (file : Bytes) (s : σ) : Prop where
  /-- A number that is spelled here is read, whatever comes behind it, and the source is right
  behind its bytes then. -/
  spelled : ∀ value bytes rest, VarInt.Spells value bytes →
    file.toList.drop (ByteSource.position s) = bytes ++ rest →
      (VarInt.read s).1 = ⟨value, bytes.length⟩
        ∧ ByteSource.position (VarInt.read s).2 = ByteSource.position s + bytes.length
  /-- In any case there is a number of 31 bits. -/
  value_lt : (VarInt.read s).1.value < 0x80000000
  width : (VarInt.read s).1.width = 1 ∨ (VarInt.read s).1.width = 3 ∨ (VarInt.read s).1.width = 5
  /-- If not all of its bytes are there, the last number of a form is zero, and the source is
  at its end. -/
  short : file.size - ByteSource.position s < (VarInt.read s).1.width →
    Ended (VarInt.read s).2 ∧ ∃ form : VarInt.Form,
      form.Cut (file.toList.drop (ByteSource.position s))
        ∧ (VarInt.read s).1 = ⟨form.value, form.bytes.length⟩

namespace Faithful

variable (faithful : Faithful file sound)

include faithful

/-- **What is read is a form**, or one that is cut off, at the end of the file. -/
theorem exists_form (kept : sound s) : ∃ form : VarInt.Form,
    (VarInt.read s).1 = ⟨form.value, form.bytes.length⟩
      ∧ (file.size - ByteSource.position s < form.bytes.length →
        Ended (VarInt.read s).2 ∧ form.Cut (file.toList.drop (ByteSource.position s))) := by
  obtain ⟨form, rest, left⟩ | ⟨form, cut⟩ :=
    VarInt.exists_form_or_cut (file.toList.drop (ByteSource.position s))
  · obtain ⟨s', ran, -⟩ := faithful.read_of_append kept form left
    have size := congrArg List.length left
    rw [List.length_drop, Array.length_toList, List.length_append] at size
    rw [ran]
    exact ⟨form, rfl, fun few => by omega⟩
  · obtain ⟨s', ran, kept', ended⟩ := faithful.read_of_cut kept cut
    rw [ran]
    exact ⟨form, rfl, fun _ => ⟨faithful.ended kept' ended, cut⟩⟩

/-- **Integers can be read from a faithful source.** -/
theorem readsIntegers (kept : sound s) : ReadsIntegers file s := by
  obtain ⟨form, same, cut⟩ := faithful.exists_form kept
  refine ⟨?_, ?_, ?_, ?_⟩
  · intro value bytes rest spells left
    obtain ⟨form, rfl, rfl⟩ := spells.exists_form
    obtain ⟨s', ran, -, place⟩ := faithful.read_of_append kept form left
    rw [ran]
    exact ⟨rfl, place⟩
  · rw [same]
    exact form.value_lt
  · rw [same]
    exact form.length_bytes
  · rw [same]
    exact fun few => ⟨(cut few).1, form, (cut few).2, rfl⟩

end Faithful

/-- **Integers can be read from every source**, wherever it is. -/
theorem readsIntegers_everywhere (file : Bytes) :
    Everywhere file fun source => ReadsIntegers file source :=
  .of_faithful fun faithful _ kept => faithful.readsIntegers kept

end WpgRaster
