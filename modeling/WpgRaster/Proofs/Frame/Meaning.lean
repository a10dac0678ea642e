import WpgRaster.Proofs.RunLength.Execution

/-!
# The meaning of a frame

What a raster says depends on its compression (`Compression.interpret`):
packed rows are written as they are, codes are interpreted. A frame that
is read from a cursor into a consumer that takes all rows does what its
raster says, and ends as the interpretation does
(`decodeSession_interprets`).
-/

namespace WpgRaster

open RunLength (Ending Interpreter Ends Follows)

/-- **What a raster says**: the sheet that is written, and how that ends.
Without compression the bytes are the rows. -/
def Compression.interpret (shape : Shape) (raster : List UInt8) :
    Compression → Sheet × Ending
  | .none =>
    (Sheet.writeAll shape {} raster,
      if raster.length < shape.rows * shape.width then .short else .full)
  | .first => Interpreter.interpret shape .first {} raster
  | .second => Interpreter.interpret shape .second {} raster

/-- It ends as the sheet tells. -/
theorem Compression.interpret_fits {shape : Shape} (wide : 0 < shape.width)
    (compression : Compression) (raster : List UInt8) :
    Interpreter.Fits shape (compression.interpret shape raster).1
      (compression.interpret shape raster).2 := by
  have empty : ({} : Sheet).Within shape := .empty wide
  cases compression with
  | none =>
    have complete := empty.isComplete_writeAll_iff raster
    rw [Sheet.room_empty] at complete
    unfold interpret
    by_cases short : raster.length < shape.rows * shape.width
    · rw [if_pos short]
      exact ⟨empty.writeAll raster, complete.trans ⟨fun many => by omega, nofun⟩, nofun⟩
    · rw [if_neg short]
      have full := complete.mpr (Nat.le_of_not_lt short)
      exact ⟨empty.writeAll raster, ⟨fun _ => .inl rfl, fun _ => full⟩, nofun⟩
  | first => exact Interpreter.interpret_fits empty .first raster
  | second => exact Interpreter.interpret_fits empty .second raster

/-- **A raster that ends inside a literal run, just where its last row
ends.** Packed rows have no runs. -/
def Compression.EndsInLiteral (shape : Shape) (raster : List UInt8) : Compression → Prop
  | .none => False
  | .first => Interpreter.EndsInLiteral shape .first {} raster
  | .second => Interpreter.EndsInLiteral shape .second {} raster

theorem Compression.interpret_eq_cutLiteral_iff (compression : Compression) (shape : Shape)
    (raster : List UInt8) :
    (compression.interpret shape raster).2 = .cutLiteral
      ↔ compression.EndsInLiteral shape raster := by
  cases compression with
  | none =>
    refine ⟨fun ending => ?_, False.elim⟩
    unfold interpret at ending
    dsimp only at ending
    split at ending <;> cases ending
  | first => exact Interpreter.interpret_eq_cutLiteral_iff .first raster
  | second => exact Interpreter.interpret_eq_cutLiteral_iff .second raster

namespace FrameFormat

/-! ## Packed rows -/

/-- Partial reads of a cursor add up to as many bytes as are there. -/
theorem gather_eq (fuel need : Nat) (enough : need ≤ fuel) (bytes : Bytes)
    (cursor : Cursor) :
    ∃ all cursor', gather fuel need bytes cursor = .ok all cursor'
      ∧ all.toList = bytes.toList ++ cursor.rest.take need
      ∧ cursor'.rest = cursor.rest.drop need := by
  induction fuel generalizing need bytes cursor with
  | zero =>
    obtain rfl : need = 0 := Nat.eq_zero_of_le_zero enough
    exact ⟨bytes, cursor, rfl, by rw [List.take_zero, List.append_nil], rfl⟩
  | succ fuel ih =>
    unfold gather
    by_cases none : need = 0
    · rw [if_pos none, none]
      exact ⟨bytes, cursor, rfl, by rw [List.take_zero, List.append_nil], rfl⟩
    have length := cursor.length_rest
    have taken : ByteSource.takeUpTo need cursor
        = .ok (cursor.peek need) (cursor.advance (min need cursor.remaining)) := rfl
    rw [if_neg none, bind_of_ok taken]
    by_cases ended : cursor.remaining = 0
    · have nothing : (cursor.peek need).isEmpty = true := by
        rw [Array.isEmpty_iff_size_eq_zero, cursor.size_peek, ended, Nat.min_zero]
      have rest : cursor.rest = [] := List.eq_nil_of_length_eq_zero (length.trans ended)
      rw [if_pos nothing, ended, Nat.min_zero]
      refine ⟨bytes, cursor.advance 0, rfl, ?_, ?_⟩
      · rw [rest, List.take_nil, List.append_nil]
      · rw [cursor.rest_advance, rest, List.drop_nil, List.drop_nil]
    · have something : ¬ (cursor.peek need).isEmpty = true := by
        rw [Array.isEmpty_iff_size_eq_zero, cursor.size_peek]
        omega
      rw [if_neg something, cursor.size_peek]
      obtain ⟨all, cursor', gathered, all_eq, rest⟩ :=
        ih (need - min need cursor.remaining) (by omega) (bytes ++ cursor.peek need)
          (cursor.advance (min need cursor.remaining))
      -- A read that is short leaves nothing for the next one.
      have tail : (cursor.rest.drop (min need cursor.remaining)).take
          (need - min need cursor.remaining) = [] := by
        rw [← List.drop_take]
        exact List.drop_eq_nil_of_le (Nat.le_of_eq (by rw [List.length_take, length]))
      refine ⟨all, cursor', gathered, ?_, ?_⟩
      · rw [all_eq, cursor.rest_advance, Array.toList_append, cursor.toList_peek, tail,
          List.append_nil]
      · rw [rest, cursor.rest_advance, List.drop_drop]
        exact congrArg (fun count => cursor.rest.drop count) (by omega)

/-- The next row of a cursor. -/
theorem nextRow_eq (width : Nat) (cursor : Cursor) :
    ∃ row cursor', nextRow width cursor = .ok row cursor'
      ∧ row.toList = cursor.rest.take width ∧ cursor'.rest = cursor.rest.drop width := by
  obtain ⟨row, cursor', gathered, row_eq, rest⟩ :=
    gather_eq width width (Nat.le_refl width) #[] cursor
  refine ⟨row, cursor', ?_, row_eq, rest⟩
  unfold nextRow EStateM.adaptExcept
  rw [gathered]

variable {κ : Type} [RowConsumer κ] {start : κ} {shape : Shape}

/-- **Packed rows are read as they are.** -/
theorem decodePacked_interprets (accepts : Accepts start shape.rows) (count : Nat)
    {sheet : Sheet} {raster : List UInt8} {session : Session Cursor κ}
    (follows : Follows start shape sheet raster session)
    (room : sheet.room shape = count * shape.width) :
    Ends start shape
      (sheet.writeAll shape raster,
        if raster.length < count * shape.width then .short else .full)
      (decodePacked shape.width count session) := by
  induction count generalizing sheet raster session with
  | zero =>
    have full : sheet.IsComplete shape :=
      follows.holds.room_eq_zero_iff.mp (room.trans (Nat.zero_mul _))
    rw [Sheet.writeAll_of_isComplete full, if_neg (by omega)]
    exact ⟨session, follows.holds, .inr ⟨rfl, rfl⟩⟩
  | succ count ih =>
    have within := follows.holds.toWithin
    rw [Nat.succ_mul] at room
    unfold decodePacked
    obtain ⟨row, source, next, row_eq, rest⟩ := nextRow_eq shape.width session.source
    rw [follows.source] at row_eq rest
    have read : Session.onSource (nextRow shape.width) session
        = .ok row { session with source } := by
      rw [Session.onSource_eq, next]
    have behind : Follows start shape sheet (raster.drop shape.width) { session with source } :=
      ⟨follows.holds, rest, follows.silent⟩
    have length : row.toList.length = min shape.width raster.length := by
      rw [row_eq, List.length_take]
    rw [bind_of_ok read]
    obtain ⟨-, session', written, follows'⟩ | ⟨beyond, -⟩ :=
      behind.onRows (follows.holds.appendAll_lands row.toList) accepts
    · have size : row.size = min shape.width raster.length := by
        rw [← Array.length_toList, length]
      rw [row_eq] at follows'
      rw [bind_of_ok written, Nat.succ_mul]
      by_cases ended : row.size < shape.width
      · -- A short row was the last of the raster.
        have failed : (throw .streamTruncated : SessionM Cursor κ Unit) session'
            = .error .streamTruncated session' := rfl
        have holds := follows'.holds
        rw [List.take_of_length_le (by omega)] at holds
        rw [if_pos ended, if_pos (by omega)]
        exact ⟨session', holds, .inl (bind_of_error failed)⟩
      · obtain ⟨asked, checked, follows''⟩ := follows'.checkStop
        rw [if_neg ended]
        dsimp only
        rw [bind_of_ok checked]
        have tail := ih follows'' (by
          rw [within.room_writeAll, List.length_take, room]
          omega)
        rw [← Sheet.writeAll_append, List.take_append_drop, List.length_drop] at tail
        by_cases short : raster.length < count * shape.width + shape.width
        · rw [if_pos (by omega)] at tail
          rwa [if_pos short]
        · rw [if_neg (by omega)] at tail
          rwa [if_neg short]
    · -- There is room for a row as long as one is missing.
      exact absurd (by omega) beyond

/-! ## Whole frames -/

/-- **Reading all rows of a frame is interpreting its raster.** -/
theorem decodeRows_interprets (accepts : Accepts start shape.rows) (compression : Compression)
    {raster : List UInt8} {session : Session Cursor κ}
    (follows : Follows start shape {} raster session) :
    Ends start shape (compression.interpret shape raster)
      (decodeRows compression session) := by
  cases compression with
  | none =>
    rw [follows.holds.decodeRows_none]
    exact decodePacked_interprets accepts shape.rows follows Sheet.room_empty
  | first => exact RunLength.decode_interprets accepts .first follows
  | second => exact RunLength.decode_interprets accepts .second follows

/-- Filling up the missing rows hands the rest of the frame over. -/
theorem onRows_fillRemaining (accepts : Accepts start shape.rows) {sheet : Sheet}
    {session : Session Cursor κ} (holds : Holds start shape sheet session.rows) :
    ∃ count session', Session.onRows RowAssembler.fillRemaining session = .ok count session'
      ∧ Handed start (sheet.frame shape) session'.rows.consumer := by
  rw [Session.onRows_eq]
  obtain ⟨count, rows, filled, handed⟩ | ⟨err, rows, -, refused⟩ := holds.fillRemaining_lands
  · rw [filled]
    exact ⟨count, _, rfl, handed⟩
  · exact absurd refused accepts.not_refused

/-- **Decoding a frame does what its raster says**: all rows of the sheet
are handed over, and the outcome is that of the ending. -/
theorem decodeSession_interprets (accepts : Accepts start shape.rows)
    (wide : 0 < shape.width) (compression : Compression) {raster : List UInt8}
    {session : Session Cursor κ} (follows : Follows start shape {} raster session) :
    let final := compression.interpret shape raster
    ∃ session', Handed start (final.1.frame shape) session'.rows.consumer
      ∧ decodeSession compression session
        = match final.2.result final.1.completed.length with
          | .ok outcome => .ok outcome session'
          | .error err => .error err session' := by
  have fits := compression.interpret_fits wide raster
  obtain ⟨mid, holds, rows⟩ := decodeRows_interprets accepts compression follows
  generalize compression.interpret shape raster = final at fits holds rows
  obtain ⟨sheet, ending⟩ := final
  dsimp only at fits holds
  obtain ⟨count, filled, fill, handed⟩ := onRows_fillRemaining accepts holds
  have truncated : decodeRows compression session = .error .streamTruncated mid →
      decodeSession compression session
        = .ok (.truncated sheet.completed.length) filled := fun ended => by
    rw [decodeSession_of_streamTruncated ended, bind_of_ok fill, ← holds.row]
    rfl
  cases ending with
  | full =>
    have complete := fits.isComplete_iff.mpr (.inl rfl)
    refine ⟨mid, ?_, ?_⟩
    · rw [fits.frame_of_isComplete complete]
      exact holds.handed
    · obtain rows | ⟨-, rows⟩ := rows
      · exact decodeSession_of_rowsExhausted rows
      · exact decodeSession_of_ok rows
  | cutLiteral =>
    obtain rows | ⟨none, -⟩ := rows
    · exact ⟨filled, handed, truncated rows⟩
    · cases none
  | short =>
    obtain rows | ⟨none, -⟩ := rows
    · exact ⟨filled, handed, truncated rows⟩
    · cases none
  | aborted err =>
    obtain rows | ⟨none, -⟩ := rows
    · refine ⟨filled, handed, ?_⟩
      -- both violations abort the frame
      obtain ⟨size, -, rfl⟩ | ⟨-, rfl⟩ := fits.violation err rfl
      · exact (decodeSession_of_error rows nofun nofun).trans (bind_of_ok fill)
      · exact (decodeSession_of_error rows nofun nofun).trans (bind_of_ok fill)
    · cases none

end FrameFormat

end WpgRaster
