import WpgRaster.Proofs.Steps
import WpgRaster.RunLength.Token
import WpgRaster.Source.Cursor

/-!
# What is left of a cursor

Reading from a cursor is taking bytes from the front of a list: its
`Cursor.rest`. Here are the reads that decoding a raster uses, said that
way. A byte that is not there ends a raster with
`RasterError.streamTruncated`.
-/

namespace WpgRaster

/-- The bytes that a cursor has not read yet. -/
def Cursor.rest (cursor : Cursor) : List UInt8 := cursor.bytes.toList.drop cursor.position

namespace Cursor

variable {cursor : Cursor} {byte : UInt8} {rest : List UInt8}

theorem length_rest (cursor : Cursor) : cursor.rest.length = cursor.remaining := by
  unfold rest remaining
  rw [List.length_drop, Array.length_toList]

theorem rest_advance (cursor : Cursor) (count : Nat) :
    (cursor.advance count).rest = cursor.rest.drop count := by
  unfold rest advance
  rw [List.drop_drop]

/-- The next bytes of a cursor are the first ones of its rest. -/
theorem toList_peek (cursor : Cursor) (count : Nat) :
    (cursor.peek count).toList = cursor.rest.take count := by
  unfold peek rest
  rw [Array.toList_extract, List.extract_eq_take_drop, Nat.add_sub_cancel_left]

end Cursor

namespace Token

variable {cursor : Cursor} {byte : UInt8} {rest : List UInt8}

/-- The next byte of a raster. -/
theorem nextByte_cons (left : cursor.rest = byte :: rest) :
    nextByte cursor = .ok byte (cursor.advance 1) := by
  have enough : 1 ≤ cursor.remaining := by
    rw [← cursor.length_rest, left, List.length_cons]
    omega
  have first : (cursor.peek 1)[0]?.getD 0 = byte := by
    rw [← Array.getElem?_toList, cursor.toList_peek, left]
    rfl
  have next : ByteSource.next cursor = .ok byte (cursor.advance 1) := by
    show (Cursor.take 1 >>= fun bytes => pure (bytes[0]?.getD 0)) cursor = _
    have taken : Cursor.take 1 cursor = .ok (cursor.peek 1) (cursor.advance 1) :=
      if_pos enough
    rw [bind_of_ok taken, first]
    rfl
  unfold nextByte
  rw [next]

/-- A raster without a next byte is truncated. -/
theorem nextByte_nil (left : cursor.rest = []) :
    nextByte cursor = .error .streamTruncated cursor := by
  have none : cursor.remaining = 0 := by
    rw [← cursor.length_rest, left, List.length_nil]
  have next : ByteSource.next cursor = .error (.shortRead 1 cursor.remaining) cursor := by
    show (Cursor.take 1 >>= fun bytes => pure (bytes[0]?.getD 0)) cursor = _
    have failed : Cursor.take 1 cursor = .error (.shortRead 1 cursor.remaining) cursor :=
      if_neg (by omega)
    exact bind_of_error failed
  have ended : ByteSource.atEnd cursor = .ok true :=
    congrArg Except.ok (cursor.atEnd_iff.mpr none)
  unfold nextByte
  rw [next]
  dsimp only
  rw [ended]

theorem operand_cons (left : cursor.rest = byte :: rest) :
    operand cursor = .ok byte.toNat (cursor.advance 1) :=
  bind_of_ok (nextByte_cons left)

theorem operand_nil (left : cursor.rest = []) :
    operand cursor = .error .streamTruncated cursor :=
  bind_of_error (nextByte_nil left)

/-- Several bytes of a raster, if there are so many. -/
theorem nextBytes_of_le (cursor : Cursor) (count : Nat) (enough : count ≤ cursor.rest.length) :
    nextBytes count cursor = .ok (cursor.rest.take count) (cursor.advance count) := by
  induction count generalizing cursor with
  | zero => rfl
  | succ count ih =>
    cases left : cursor.rest with
    | nil =>
      rw [left] at enough
      exact absurd enough (Nat.not_succ_le_zero count)
    | cons byte rest =>
      have behind : (cursor.advance 1).rest = rest := by
        rw [cursor.rest_advance, left]
        rfl
      rw [left, List.length_cons] at enough
      have others := ih (cursor.advance 1) (by rw [behind]; omega)
      unfold nextBytes
      rw [bind_of_ok (nextByte_cons left), bind_of_ok others, behind, List.take_succ_cons]
      show EStateM.Result.ok _ ((cursor.advance 1).advance count) = _
      unfold Cursor.advance
      rw [Nat.add_assoc, Nat.add_comm 1 count]

/-- If there are not so many, the raster is truncated. -/
theorem nextBytes_of_lt (cursor : Cursor) (count : Nat) (few : cursor.rest.length < count) :
    ∃ cursor', nextBytes count cursor = .error .streamTruncated cursor' := by
  induction count generalizing cursor with
  | zero => exact absurd few (Nat.not_lt_zero _)
  | succ count ih =>
    unfold nextBytes
    cases left : cursor.rest with
    | nil => exact ⟨cursor, bind_of_error (nextByte_nil left)⟩
    | cons byte rest =>
      have behind : (cursor.advance 1).rest = rest := by
        rw [cursor.rest_advance, left]
        rfl
      rw [left, List.length_cons] at few
      obtain ⟨cursor', failed⟩ := ih (cursor.advance 1) (by rw [behind]; omega)
      exact ⟨cursor', by rw [bind_of_ok (nextByte_cons left), bind_of_error failed]⟩

end Token

end WpgRaster
