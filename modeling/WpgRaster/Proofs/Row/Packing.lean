import WpgRaster.Proofs.Row.Sheet

/-!
# Sheets as bytes

Where the delta mode plays no part, a sheet is nothing but the bytes that
were written on it (`Sheet.bytes`): cut to the width of a row, they are
its complete rows, and what is left over is the row in progress. Whether
a row is complete, and which one is the last, are then questions about
the number of bytes; to repeat a row is to write its bytes once more.
-/

namespace WpgRaster

/-- Bytes cut into `count` rows. Those that are missing are zero. -/
def cutRows (width count : Nat) (bytes : List UInt8) : List Bytes :=
  (List.range count).map fun row =>
    Array.ofFn fun column : Fin width => bytes[row * width + column]?.getD 0

/-- The last row of bytes that end with a row, zeros if there is none. -/
def lastRow (width : Nat) (bytes : List UInt8) : List UInt8 :=
  if bytes.length < width then List.replicate width 0
  else bytes.drop (bytes.length - width)

/-- The last row has the width of a row. -/
theorem length_lastRow (width : Nat) (bytes : List UInt8) :
    (lastRow width bytes).length = width := by
  unfold lastRow
  split
  · exact List.length_replicate
  · rw [List.length_drop]
    omega

/-! ## Cutting -/

section Cutting

variable {width : Nat}

/-- The first row is cut off the front. -/
theorem cutRows_succ (count : Nat) (bytes : List UInt8) :
    cutRows width (count + 1) bytes
      = (Array.ofFn fun column : Fin width => bytes[column.val]?.getD 0)
        :: cutRows width count (bytes.drop width) := by
  unfold cutRows
  rw [List.range_succ_eq_map, List.map_cons, List.map_map]
  congr 1
  · rw [Nat.zero_mul]
    exact congrArg Array.ofFn (funext fun column => by rw [Nat.zero_add])
  · refine List.map_congr_left fun row _ => congrArg Array.ofFn (funext fun column => ?_)
    rw [List.getElem?_drop, Nat.succ_mul]
    exact congrArg (fun i => bytes[i]?.getD 0) (by omega)

/-- A row in front of other bytes is cut off as it is. -/
theorem cutRows_append (count : Nat) {row : Bytes} (size : row.size = width)
    (bytes : List UInt8) :
    cutRows width (count + 1) (row.toList ++ bytes) = row :: cutRows width count bytes := by
  have length : row.toList.length = width := by rw [Array.length_toList, size]
  rw [cutRows_succ, List.drop_left' length]
  congr 1
  refine Array.ext (by rw [Array.size_ofFn, size]) fun i inside inside' => ?_
  rw [Array.getElem_ofFn, List.getElem?_append_left (by rw [Array.length_toList]; exact inside'),
    Array.getElem?_toList, Array.getElem?_eq_getElem inside', Option.getD_some]

theorem cutRows_flatMap (count : Nat) {rows : List Bytes}
    (regular : ∀ row ∈ rows, row.size = width) (bytes : List UInt8) :
    cutRows width (rows.length + count) (rows.flatMap Array.toList ++ bytes)
      = rows ++ cutRows width count bytes := by
  induction rows with
  | nil => rw [List.length_nil, Nat.zero_add, List.flatMap_nil, List.nil_append, List.nil_append]
  | cons row rows ih =>
    rw [List.length_cons, Nat.add_right_comm, List.flatMap_cons, List.append_assoc,
      cutRows_append _ (regular row List.mem_cons_self),
      ih fun other among => regular other (List.mem_cons_of_mem row among), List.cons_append]

/-- Without any bytes, all rows are zero. -/
theorem cutRows_nil (count : Nat) :
    cutRows width count [] = List.replicate count (Array.replicate width 0) := by
  unfold cutRows
  rw [List.eq_replicate_iff, List.length_map, List.length_range]
  refine ⟨rfl, fun row among => ?_⟩
  obtain ⟨index, -, rfl⟩ := List.mem_map.mp among
  exact Array.ext (by rw [Array.size_ofFn, Array.size_replicate]) fun i _ _ => by
    rw [Array.getElem_ofFn, List.getElem?_nil, Array.getElem_replicate, Option.getD_none]

/-- Bytes that are less than a row are filled up with zeros. -/
theorem cutRows_of_lt (count : Nat) {bytes : List UInt8} (short : bytes.length < width) :
    cutRows width (count + 1) bytes
      = (bytes ++ List.replicate (width - bytes.length) 0).toArray
        :: List.replicate count (Array.replicate width 0) := by
  rw [cutRows_succ, List.drop_eq_nil_of_le (by omega), cutRows_nil]
  congr 1
  refine Array.ext ?_ fun i inside inside' => ?_
  · rw [Array.size_ofFn, List.size_toArray, List.length_append, List.length_replicate]
    omega
  · rw [Array.getElem_ofFn, List.getElem_toArray, List.getElem_append]
    by_cases there : i < bytes.length
    · rw [dif_pos there, List.getElem?_eq_getElem there, Option.getD_some]
    · rw [dif_neg there, List.getElem?_eq_none (Nat.le_of_not_lt there), Option.getD_none,
        List.getElem_replicate]

/-- Bytes behind the last row do not matter. -/
theorem cutRows_take (count : Nat) (bytes : List UInt8) :
    cutRows width count (bytes.take (count * width)) = cutRows width count bytes := by
  unfold cutRows
  refine List.map_congr_left fun row among => congrArg Array.ofFn (funext fun column => ?_)
  have inside : (row + 1) * width ≤ count * width :=
    Nat.mul_le_mul_right _ (List.mem_range.mp among)
  rw [Nat.succ_mul] at inside
  rw [List.getElem?_take_of_lt (by have := column.isLt; omega)]

theorem length_flatMap_toList {rows : List Bytes} (regular : ∀ row ∈ rows, row.size = width) :
    (rows.flatMap Array.toList).length = rows.length * width := by
  induction rows with
  | nil => rw [List.flatMap_nil, List.length_nil, List.length_nil, Nat.zero_mul]
  | cons row rows ih =>
    rw [List.flatMap_cons, List.length_append, Array.length_toList,
      regular row List.mem_cons_self,
      ih fun other among => regular other (List.mem_cons_of_mem row among), List.length_cons,
      Nat.succ_mul, Nat.add_comm]

end Cutting

/-! ## Sheets in rows of full length -/

namespace Sheet

variable {shape : Shape} {sheet : Sheet}

/-- All bytes of a sheet, in the order of their places. -/
def bytes (sheet : Sheet) : List UInt8 := sheet.completed.flatMap Array.toList ++ sheet.current

/-- **A sheet in rows of full length.** -/
structure Regular (shape : Shape) (sheet : Sheet) : Prop extends Within shape sheet where
  /-- Complete rows have the width of the shape. -/
  regular : ∀ row ∈ sheet.completed, row.size = shape.width

/-- The empty sheet has no row that could be too short. -/
theorem Regular.empty (wide : 0 < shape.width) : ({} : Sheet).Regular shape where
  toWithin := .empty wide
  regular := fun _ among => absurd among List.not_mem_nil

namespace Regular

/-- The number of bytes says where the next one goes. -/
theorem length_bytes (even : sheet.Regular shape) :
    sheet.bytes.length = sheet.completed.length * shape.width + sheet.current.length := by
  unfold bytes
  rw [List.length_append, length_flatMap_toList even.regular]

theorem length_completed (even : sheet.Regular shape) :
    sheet.completed.length = sheet.bytes.length / shape.width := by
  have column := even.column
  rw [even.length_bytes, Nat.mul_comm, Nat.mul_add_div (by omega), Nat.div_eq_of_lt column,
    Nat.add_zero]

theorem length_current (even : sheet.Regular shape) :
    sheet.current.length = sheet.bytes.length % shape.width := by
  rw [even.length_bytes, Nat.mul_comm, Nat.mul_add_mod, Nat.mod_eq_of_lt even.column]

theorem room_eq (even : sheet.Regular shape) :
    sheet.room shape = shape.rows * shape.width - sheet.bytes.length := by
  rw [even.length_bytes]
  rfl

/-- The rows of the frame are the bytes, cut to length. -/
theorem frame_eq (even : sheet.Regular shape) :
    sheet.frame shape = cutRows shape.width shape.rows sheet.bytes := by
  have rows := even.rows
  obtain ⟨missing, all⟩ : ∃ missing, shape.rows = sheet.completed.length + missing :=
    ⟨shape.rows - sheet.completed.length, by omega⟩
  unfold bytes
  rw [all, cutRows_flatMap missing even.regular]
  unfold frame
  rw [List.take_append, List.take_of_length_le rows]
  congr 1
  rw [show shape.rows - sheet.completed.length = missing by omega]
  cases missing with
  | zero => rfl
  | succ missing =>
    rw [cutRows_of_lt missing even.column, List.take_succ_cons, List.take_replicate,
      Nat.min_eq_left (by omega)]
    rfl

/-! ### The row above -/

theorem size_above (even : sheet.Regular shape) : (sheet.above shape).size = shape.width := by
  unfold above
  cases last : sheet.completed.getLast? with
  | none => exact Array.size_replicate
  | some row => exact even.regular row (List.mem_of_getLast? last)

/-- Either there is no complete row, and the row above is zero, or the row above is behind the
other ones. -/
theorem above_cases (even : sheet.Regular shape) :
    (sheet.completed = [] ∧ sheet.above shape = blankRow shape)
    ∨ ∃ before : List Bytes, sheet.completed = before ++ [sheet.above shape]
      ∧ (before.flatMap Array.toList).length + shape.width
        = sheet.completed.length * shape.width := by
  have regular := even.regular
  unfold above
  obtain none | ⟨before, row, some⟩ := List.eq_nil_or_concat sheet.completed
  · rw [none]
    exact .inl ⟨rfl, rfl⟩
  · rw [List.concat_eq_append] at some
    rw [some] at regular ⊢
    rw [List.getLast?_append, List.getLast?_singleton, Option.some_or, Option.getD_some]
    refine .inr ⟨before, rfl, ?_⟩
    rw [length_flatMap_toList fun other among => regular other (List.mem_append_left _ among),
      List.length_append, List.length_singleton, Nat.succ_mul]

/-- Between rows, the last complete one is the last row of the bytes. -/
theorem toList_above (even : sheet.Regular shape) (fresh : sheet.current = []) :
    (sheet.above shape).toList = lastRow shape.width sheet.bytes := by
  have length := even.length_bytes
  have column := even.column
  unfold lastRow
  rw [length, fresh, List.length_nil, Nat.add_zero]
  unfold bytes
  rw [fresh, List.append_nil]
  obtain ⟨none, above⟩ | ⟨before, some, below⟩ := even.above_cases
  · rw [above, none, List.length_nil, Nat.zero_mul, if_pos (by omega)]
    exact Array.toList_replicate
  · rw [← below, if_neg (by omega), Nat.add_sub_cancel, some, List.flatMap_append,
      List.flatMap_singleton, List.drop_left]

/-- The byte above the next one is the first one of the last `width` bytes. -/
theorem getD_above (even : sheet.Regular shape) :
    (sheet.above shape)[sheet.current.length]?.getD 0
      = (lastRow shape.width sheet.bytes).headD 0 := by
  have length := even.length_bytes
  have column := even.column
  have size := even.size_above
  unfold lastRow
  rw [length, List.headD_eq_head?_getD]
  obtain ⟨none, above⟩ | ⟨before, some, below⟩ := even.above_cases
  · rw [above, none, List.length_nil, Nat.zero_mul, if_pos (by omega), List.head?_replicate,
      if_neg (by omega)]
    unfold blankRow
    rw [Array.getElem?_replicate, if_pos column]
  · rw [← below, if_neg (by omega), List.head?_drop]
    unfold bytes
    rw [some, List.flatMap_append, List.flatMap_singleton, List.append_assoc,
      List.getElem?_append_right (by omega),
      show (before.flatMap Array.toList).length + shape.width + sheet.current.length
        - shape.width - (before.flatMap Array.toList).length = sheet.current.length by omega,
      List.getElem?_append_left (by rw [Array.length_toList, size]; exact column),
      Array.getElem?_toList]

/-! ### Writing -/

/-- A row of the right length keeps the others as they are. -/
theorem close (even : sheet.Regular shape) (short : ¬ sheet.IsComplete shape) {row : Bytes}
    (size : row.size = shape.width) : (sheet.close shape row).Regular shape where
  toWithin := even.toWithin.close short row
  regular := fun other among => by
    obtain before | last := List.mem_append.mp among
    · exact even.regular other before
    · rw [List.mem_singleton.mp last, size]

theorem write (even : sheet.Regular shape) (byte : UInt8) :
    (sheet.write shape byte).Regular shape := by
  by_cases full : sheet.IsComplete shape
  · rwa [write_of_isComplete full]
  by_cases last : sheet.current.length + 1 = shape.width
  · rw [write_last full last]
    refine even.close full ?_
    rw [List.size_toArray, List.length_append, List.length_singleton, last]
  · have within := even.toWithin.write byte
    rw [write_inside full last] at within ⊢
    exact ⟨within, even.regular⟩

end Regular

/-- A byte that finds room is added to the others. -/
theorem bytes_write (short : ¬ sheet.IsComplete shape) (byte : UInt8) :
    (sheet.write shape byte).bytes = sheet.bytes ++ [sheet.combine shape byte] := by
  unfold bytes
  by_cases last : sheet.current.length + 1 = shape.width
  · rw [write_last short last]
    show (sheet.completed ++ [(sheet.current ++ [_]).toArray]).flatMap Array.toList ++ [] = _
    rw [List.flatMap_append, List.flatMap_singleton, List.append_nil, List.append_assoc]
  · rw [write_inside short last, List.append_assoc]

/-! ## Plain sheets -/

/-- **A sheet that is its bytes**: all rows have their length, and nothing
is combined. -/
structure Plain (shape : Shape) (sheet : Sheet) : Prop extends Regular shape sheet where
  /-- The delta mode is off. -/
  delta : sheet.delta = false

/-- The empty sheet is plain. -/
theorem Plain.empty (wide : 0 < shape.width) : ({} : Sheet).Plain shape where
  toRegular := .empty wide
  delta := rfl

namespace Plain

/-- A row of the right length keeps the sheet plain. -/
theorem close (plain : sheet.Plain shape) (short : ¬ sheet.IsComplete shape) {row : Bytes}
    (size : row.size = shape.width) : (sheet.close shape row).Plain shape where
  toRegular := plain.toRegular.close short size
  delta := by
    show (sheet.delta && !shape.paired) = false
    rw [plain.delta, Bool.false_and]

/-- Without the delta mode bytes are stored as they are. -/
theorem combine_eq (plain : sheet.Plain shape) (byte : UInt8) :
    sheet.combine shape byte = byte := by
  unfold combine
  rw [plain.delta]
  rfl

theorem write (plain : sheet.Plain shape) (byte : UInt8) :
    (sheet.write shape byte).Plain shape := by
  refine ⟨plain.toRegular.write byte, ?_⟩
  by_cases full : sheet.IsComplete shape
  · rw [write_of_isComplete full]
    exact plain.delta
  by_cases last : sheet.current.length + 1 = shape.width
  · rw [write_last full last]
    show (sheet.delta && !shape.paired) = false
    rw [plain.delta, Bool.false_and]
  · rw [write_inside full last]
    exact plain.delta

theorem writeAll (plain : sheet.Plain shape) (more : List UInt8) :
    (sheet.writeAll shape more).Plain shape := by
  induction more generalizing sheet with
  | nil => exact plain
  | cons byte rest ih => exact ih (plain.write byte)

/-- **Writing adds as many bytes as there is room for.** -/
theorem bytes_writeAll (plain : sheet.Plain shape) (more : List UInt8) :
    (sheet.writeAll shape more).bytes = sheet.bytes ++ more.take (sheet.room shape) := by
  induction more generalizing sheet with
  | nil => rw [writeAll_nil, List.take_nil, List.append_nil]
  | cons byte rest ih =>
    rw [writeAll_cons]
    by_cases full : sheet.IsComplete shape
    · rw [write_of_isComplete full, writeAll_of_isComplete full,
        plain.room_eq_zero_iff.mpr full, List.take_zero, List.append_nil]
    · have some : sheet.room shape ≠ 0 := fun none => full (plain.room_eq_zero_iff.mp none)
      obtain ⟨room, room_eq⟩ := Nat.exists_eq_succ_of_ne_zero some
      rw [ih (plain.write byte), bytes_write full, plain.combine_eq, plain.room_write, room_eq,
        List.take_succ_cons, List.append_assoc]
      rfl

/-! ### Repeating rows -/

/-- Bytes that end the row in progress close it. -/
theorem writeAll_last (plain : sheet.Plain shape) (short : ¬ sheet.IsComplete shape)
    (rest : List UInt8) (some : rest ≠ [])
    (last : sheet.current.length + rest.length = shape.width) :
    sheet.writeAll shape rest = sheet.close shape (sheet.current ++ rest).toArray := by
  induction rest generalizing sheet with
  | nil => exact absurd rfl some
  | cons byte rest ih =>
    rw [List.length_cons] at last
    rw [writeAll_cons]
    cases rest with
    | nil => rw [write_last short last, plain.combine_eq, writeAll_nil]
    | cons next rest =>
      have inside : sheet.current.length + 1 ≠ shape.width := by
        rw [List.length_cons] at last
        omega
      have written := plain.write byte
      rw [write_inside short inside, plain.combine_eq] at written ⊢
      refine (ih written short (List.cons_ne_nil next rest) ?_).trans ?_
      · show (sheet.current ++ [byte]).length + _ = _
        rw [List.length_append, List.length_singleton, ← last]
        omega
      · show sheet.close shape _ = _
        rw [List.append_assoc]
        rfl

/-- Between rows, the bytes of a row write it. -/
theorem writeAll_row (plain : sheet.Plain shape) (short : ¬ sheet.IsComplete shape)
    (fresh : sheet.current = []) {row : Bytes} (size : row.size = shape.width) :
    sheet.writeAll shape row.toList = sheet.close shape row := by
  have column := plain.column
  rw [plain.writeAll_last short row.toList, fresh, List.nil_append]
  · intro none
    rw [← Array.length_toList, none, List.length_nil] at size
    omega
  · rw [fresh, List.length_nil, Nat.zero_add, Array.length_toList, size]

/-- **Repeating a row is writing its bytes again.** -/
theorem repeatAbove_eq (plain : sheet.Plain shape) (fresh : sheet.current = []) (count : Nat) :
    sheet.repeatAbove shape count
      = sheet.writeAll shape (List.replicate count (lastRow shape.width sheet.bytes)).flatten := by
  rw [← plain.toList_above fresh]
  induction count generalizing sheet with
  | zero => rfl
  | succ count ih =>
    rw [List.replicate_succ, List.flatten_cons, writeAll_append]
    by_cases full : sheet.IsComplete shape
    · rw [repeatAbove_of_isComplete full, writeAll_of_isComplete full,
        writeAll_of_isComplete full]
    · -- The row above stays the same while it is repeated.
      have same : (sheet.close shape (sheet.above shape)).above shape = sheet.above shape := by
        show ((sheet.completed ++ [_]).getLast?).getD _ = _
        rw [List.getLast?_append, List.getLast?_singleton]
        rfl
      have repeated := ih (plain.close full plain.size_above) rfl
      rw [same] at repeated
      rw [plain.writeAll_row full fresh plain.size_above, ← repeated]
      exact if_neg full

end Plain

/-! ### Sheets with given bytes -/

/-- The sheet that bytes are written on, without the delta mode. -/
def ofBytes (shape : Shape) (bytes : List UInt8) : Sheet := ({} : Sheet).writeAll shape bytes

/-- Writing on such a sheet makes another one. -/
theorem writeAll_ofBytes (bytes more : List UInt8) :
    (ofBytes shape bytes).writeAll shape more = ofBytes shape (bytes ++ more) :=
  (writeAll_append {} bytes more).symm

variable (wide : 0 < shape.width)

include wide

theorem Plain.ofBytes (bytes : List UInt8) : (Sheet.ofBytes shape bytes).Plain shape :=
  (Plain.empty wide).writeAll bytes

/-- It has the bytes that it has room for. -/
theorem bytes_ofBytes (bytes : List UInt8) :
    (ofBytes shape bytes).bytes = bytes.take (shape.rows * shape.width) := by
  have empty := Plain.empty wide
  refine (empty.bytes_writeAll bytes).trans ?_
  rw [Sheet.room_empty]
  rfl

theorem isComplete_ofBytes_iff (bytes : List UInt8) :
    (ofBytes shape bytes).IsComplete shape ↔ shape.rows * shape.width ≤ bytes.length := by
  rw [← Sheet.room_empty]
  exact (Within.empty wide).isComplete_writeAll_iff bytes

/-- **Its frame are the bytes, cut into rows.** -/
theorem frame_ofBytes (bytes : List UInt8) :
    (ofBytes shape bytes).frame shape = cutRows shape.width shape.rows bytes := by
  rw [(Plain.ofBytes wide bytes).frame_eq, bytes_ofBytes wide, cutRows_take]

end Sheet

end WpgRaster
