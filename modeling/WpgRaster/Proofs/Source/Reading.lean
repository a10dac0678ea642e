import WpgRaster.Proofs.Source.Rest
import WpgRaster.Source.VarInt

/-!
# Reading numbers

A step *parses* bytes as a value if it answers the value and moves behind
the bytes wherever they lie before a cursor (`Parses`). Parsing composes:
what two steps in sequence parse is what one of them parses, and behind it
what the other one does. Whatever is written in a number of fields is
therefore read field by field.

Numbers of a fixed size are written with their least significant byte first
(`littleEndianBytes`). The variable-length integers have three forms
(`VarInt.Form`), and there are no others (`VarInt.exists_form`). A file may
end before the last number of a form has (`VarInt.Form.Cut`).
-/

namespace WpgRaster

/-! ## Parsing -/

/-- **A step that parses bytes as a value.** -/
def Parses {ε α : Type} (step : EStateM ε Cursor α) (bytes : List UInt8) (a : α) : Prop :=
  ∀ (cursor : Cursor) (rest : List UInt8), cursor.rest = bytes ++ rest →
    step cursor = .ok a (cursor.advance bytes.length)

/-- Behind the bytes comes the rest. -/
theorem Cursor.rest_advance_append {cursor : Cursor} {bytes rest : List UInt8}
    (left : cursor.rest = bytes ++ rest) : (cursor.advance bytes.length).rest = rest := by
  rw [rest_advance, left, List.drop_left]

theorem Cursor.rest_advance_cons {cursor : Cursor} {byte : UInt8} {rest : List UInt8}
    (left : cursor.rest = byte :: rest) : (cursor.advance 1).rest = rest := by
  rw [rest_advance, left, List.drop_succ_cons, List.drop_zero]

namespace Parses

variable {ε α β : Type} {step : EStateM ε Cursor α} {bytes bytes' : List UInt8} {a : α}

theorem pure (a : α) : Parses (Pure.pure a : EStateM ε Cursor α) [] a :=
  fun _ _ _ => rfl

/-- What comes after the first bytes is parsed by the second step. -/
theorem bind {next : α → EStateM ε Cursor β} {b : β} (first : Parses step bytes a)
    (second : Parses (next a) bytes' b) : Parses (step >>= next) (bytes ++ bytes') b := by
  intro cursor rest left
  rw [List.append_assoc] at left
  rw [bind_of_ok (first cursor _ left), second _ rest (Cursor.rest_advance_append left),
    List.length_append]
  show EStateM.Result.ok b (⟨cursor.bytes, cursor.position + bytes.length + bytes'.length⟩ : Cursor)
    = _
  rw [Nat.add_assoc]
  rfl

/-- What is made of the value. -/
theorem map (parses : Parses step bytes a) (f : α → β) :
    Parses (step >>= fun a => Pure.pure (f a)) bytes (f a) :=
  List.append_nil bytes ▸ parses.bind (.pure (f a))

/-- A check that the value passes. -/
theorem guard {failed : Prop} [Decidable failed] {err : ε} {next : PUnit → EStateM ε Cursor α}
    (passes : ¬ failed) (parses : Parses (next ()) bytes a) :
    Parses (if failed then throw err >>= next else next ()) bytes a := by
  rwa [if_neg passes]

/-- A read that cannot fail. -/
theorem modifyGet {read : Cursor → α × Cursor}
    (reads : ∀ (cursor : Cursor) (rest : List UInt8), cursor.rest = bytes ++ rest →
      read cursor = (a, cursor.advance bytes.length)) :
    Parses (MonadStateOf.modifyGet read : EStateM ε Cursor α) bytes a :=
  fun cursor rest left => modifyGet_of_eq (reads cursor rest left)

end Parses

/-! ## Bytes -/

namespace Cursor

variable {cursor : Cursor} {bytes rest : List UInt8} {count : Nat}

theorem le_remaining_of_append (left : cursor.rest = bytes ++ rest) :
    bytes.length ≤ cursor.remaining := by
  rw [← length_rest, left, List.length_append]
  exact Nat.le_add_right _ _

theorem peek_of_append (left : cursor.rest = bytes ++ rest) :
    cursor.peek bytes.length = bytes.toArray := by
  apply Array.toList_inj.mp
  rw [toList_peek, left, List.take_left]

/-- Bytes that are there are taken. -/
theorem take_parses (bytes : List UInt8) :
    Parses (ByteSource.take bytes.length : SourceM Cursor Bytes) bytes bytes.toArray := by
  intro cursor rest left
  rw [← peek_of_append left]
  exact if_pos (le_remaining_of_append left)

/-- So they are by a read that fills up with zeros. -/
theorem takeOrZeros_of_append (left : cursor.rest = bytes ++ rest) :
    ByteSource.takeOrZeros bytes.length cursor = (bytes.toArray, cursor.advance bytes.length) := by
  rw [← peek_of_append left]
  exact if_pos (le_remaining_of_append left)

/-- And by one that takes less at the end. -/
theorem takeUpTo_parses (bytes : List UInt8) :
    Parses (ByteSource.takeUpTo bytes.length : SourceM Cursor Bytes) bytes bytes.toArray := by
  intro cursor rest left
  rw [← peek_of_append left]
  show EStateM.Result.ok _ (cursor.advance (min bytes.length cursor.remaining)) = _
  rw [Nat.min_eq_left (le_remaining_of_append left)]

/-- The byte at the position is the first one of the rest. -/
theorem getElem?_position (cursor : Cursor) :
    cursor.bytes[cursor.position]? = cursor.rest[0]? := by
  unfold rest
  rw [List.getElem?_drop, Nat.add_zero, Array.getElem?_toList]

theorem nextOrZero_cons {byte : UInt8} (left : cursor.rest = byte :: rest) :
    ByteSource.nextOrZero cursor = (byte, cursor.advance 1) := by
  show nextOrZero cursor = _
  unfold nextOrZero
  rw [cursor.getElem?_position, left]
  rfl

theorem nextOrZero_nil (left : cursor.rest = []) :
    ByteSource.nextOrZero cursor = ((0 : UInt8), cursor) := by
  show nextOrZero cursor = _
  unfold nextOrZero
  rw [cursor.getElem?_position, left]
  rfl

/-- Reads go forward. -/
theorem position_le_nextOrZero (cursor : Cursor) :
    cursor.position ≤ (ByteSource.nextOrZero cursor).2.position := by
  show _ ≤ (nextOrZero cursor).2.position
  unfold nextOrZero
  split
  · exact Nat.le_add_right _ _
  · exact Nat.le_refl _

theorem position_le_takeOrZeros (count : Nat) (cursor : Cursor) :
    cursor.position ≤ (ByteSource.takeOrZeros count cursor).2.position := by
  show _ ≤ (takeOrZeros count cursor).2.position
  unfold takeOrZeros
  split
  · exact Nat.le_add_right _ _
  · exact Nat.le_max_left _ _

end Cursor

/-- A single byte is parsed as itself. -/
theorem ByteSource.next_parses (byte : UInt8) :
    Parses (ByteSource.next : SourceM Cursor UInt8) [byte] byte :=
  (Cursor.take_parses [byte]).map _

theorem ByteSource.nextOrZero_parses {ε : Type} (byte : UInt8) :
    Parses (modifyGet ByteSource.nextOrZero : EStateM ε Cursor UInt8) [byte] byte :=
  .modifyGet fun _ _ left => Cursor.nextOrZero_cons left

/-- A length is found at the end, and the way back leads to where the source stood. -/
theorem ByteSource.length_of_seek {σ : Type} [ByteSource σ] {source ended : σ} {size : Nat}
    (ends : (seek (.fromEnd 0) : SourceM σ Nat) source = .ok size ended)
    (back : (seek (.start (position source)) : SourceM σ Nat) ended = .ok (position source) source)
    (stays : position source = size → ended = source) :
    ByteSource.length source = .ok size source := by
  have here : (get : SourceM σ σ) source = .ok source source := rfl
  unfold length
  rw [bind_of_ok here]
  dsimp only
  rw [bind_of_ok ends]
  by_cases same : position source = size
  · rw [if_pos same, stays same]
    rfl
  · rw [if_neg same]
    exact bind_of_ok back

/-- The length of a cursor is found, and its position is left alone. -/
theorem ByteSource.length_eq {cursor : Cursor} (small : cursor.bytes.size < Size.signedLimit) :
    ByteSource.length cursor = .ok cursor.bytes.size cursor := by
  have located : cursor.locate (.fromEnd 0) = .ok cursor.bytes.size := by
    show Cursor.offsetFrom cursor.bytes.size 0 = _
    unfold Cursor.offsetFrom
    rw [if_neg (by omega), if_neg (by omega), if_neg (by omega), Int.add_zero, Int.toNat_natCast]
  have sought : (seek (.fromEnd 0) : SourceM Cursor Nat) cursor
      = .ok cursor.bytes.size ⟨cursor.bytes, cursor.bytes.size⟩ := by
    show Cursor.seek (.fromEnd 0) cursor = _
    unfold Cursor.seek
    rw [located]
  refine length_of_seek sought rfl fun same => ?_
  rw [← same]
  rfl

/-- Only sizes that are signed numbers are found. -/
theorem ByteSource.length_of_le {cursor : Cursor} (large : Size.signedLimit ≤ cursor.bytes.size) :
    ByteSource.length cursor = .error .outOfRange cursor := by
  have located : cursor.locate (.fromEnd 0) = .error .outOfRange := if_pos large
  have sought : (seek (.fromEnd 0) : SourceM Cursor Nat) cursor = .error .outOfRange cursor := by
    show Cursor.seek (.fromEnd 0) cursor = _
    unfold Cursor.seek
    rw [located]
  have here : (get : SourceM Cursor Cursor) cursor = .ok cursor cursor := rfl
  unfold length
  rw [bind_of_ok here]
  exact bind_of_error sought

theorem ByteSource.lt_of_length_ok {cursor cursor' : Cursor} {size : Nat}
    (ran : ByteSource.length cursor = .ok size cursor') :
    cursor.bytes.size < Size.signedLimit := by
  refine Nat.lt_of_not_le fun large => ?_
  rw [length_of_le large] at ran
  cases ran

/-- What is found is the size. -/
theorem ByteSource.eq_size_of_length_ok {cursor cursor' : Cursor} {size : Nat}
    (ran : ByteSource.length cursor = .ok size cursor') : size = cursor.bytes.size := by
  rw [length_eq (lt_of_length_ok ran)] at ran
  cases ran
  rfl

/-! ## Numbers of a fixed size -/

/-- **The bytes of a number**, least significant byte first. -/
def littleEndianBytes : (count n : Nat) → List UInt8
  | 0, _ => []
  | count + 1, n => (n % 256).toUInt8 :: littleEndianBytes count (n / 256)

@[simp] theorem length_littleEndianBytes (count n : Nat) :
    (littleEndianBytes count n).length = count := by
  induction count generalizing n with
  | zero => rfl
  | succ count ih => rw [littleEndianBytes, List.length_cons, ih]

/-- The number is read back, as far as there is room for it. -/
theorem littleEndian_littleEndianBytes (count n : Nat) :
    Bytes.littleEndian (littleEndianBytes count n).toArray = n % Size.values (8 * count) := by
  unfold Bytes.littleEndian
  induction count generalizing n with
  | zero => exact (Nat.mod_one n).symm
  | succ count ih =>
    have more : Size.values (8 * (count + 1)) = 256 * Size.values (8 * count) := by
      rw [Nat.mul_succ]
      simp only [Size.values_succ]
      omega
    have first : (n % 256).toUInt8.toNat = n % 256 := by
      rw [Nat.toUInt8_eq, UInt8.toNat_ofNat', Nat.mod_mod]
    show (n % 256).toUInt8.toNat
      + 256 * (littleEndianBytes count (n / 256)).toArray.toList.foldr _ 0 = _
    rw [ih, first, more, Nat.mod_mul]

/-- The bytes of 16-bit numbers are read back. -/
theorem toUInt16_littleEndian (word : UInt16) :
    (Bytes.littleEndian (littleEndianBytes 2 word.toNat).toArray).toUInt16 = word := by
  have small : word.toNat < Size.values (8 * 2) := word.toNat_lt
  rw [littleEndian_littleEndianBytes, Nat.mod_eq_of_lt small]
  exact UInt16.ofNat_toNat

/-- So are those of 32-bit numbers. -/
theorem toUInt32_littleEndian (word : UInt32) :
    (Bytes.littleEndian (littleEndianBytes 4 word.toNat).toArray).toUInt32 = word := by
  have small : word.toNat < Size.values (8 * 4) := word.toNat_lt
  rw [littleEndian_littleEndianBytes, Nat.mod_eq_of_lt small]
  exact UInt32.ofNat_toNat

/-- Bytes have room for no larger number than theirs. -/
theorem littleEndian_lt (bytes : Bytes) : bytes.littleEndian < Size.values (8 * bytes.size) := by
  obtain ⟨bytes⟩ := bytes
  show bytes.foldr (fun byte rest => byte.toNat + 256 * rest) 0 < Size.values (8 * bytes.length)
  induction bytes with
  | nil => exact Nat.one_pos
  | cons byte bytes ih =>
    have more : Size.values (8 * (bytes.length + 1)) = 256 * Size.values (8 * bytes.length) := by
      rw [Nat.mul_succ]
      simp only [Size.values_succ]
      omega
    have := byte.toNat_lt
    rw [List.length_cons, more, List.foldr_cons]
    omega

/-- **Bytes are those of the number that they are read as.** -/
theorem littleEndianBytes_littleEndian (bytes : Bytes) :
    littleEndianBytes bytes.size bytes.littleEndian = bytes.toList := by
  obtain ⟨bytes⟩ := bytes
  show littleEndianBytes bytes.length (bytes.foldr (fun byte rest => byte.toNat + 256 * rest) 0)
    = bytes
  induction bytes with
  | nil => rfl
  | cons byte bytes ih =>
    have := byte.toNat_lt
    rw [List.length_cons, List.foldr_cons, littleEndianBytes, Nat.add_mul_mod_self_left,
      Nat.mod_eq_of_lt this, Nat.add_mul_div_left _ _ (by decide), Nat.div_eq_of_lt this,
      Nat.zero_add, ih]
    exact congrArg (· :: bytes) UInt8.ofNat_toNat

/-- Two bytes are those of a 16-bit number. -/
theorem littleEndianBytes_toUInt16 {bytes : Bytes} (size : bytes.size = 2) :
    littleEndianBytes 2 bytes.littleEndian.toUInt16.toNat = bytes.toList := by
  have small := littleEndian_lt bytes
  rw [size] at small
  rw [Nat.toUInt16_eq, UInt16.toNat_ofNat_of_lt' small, ← size, littleEndianBytes_littleEndian]

/-- Four bytes are those of a 32-bit number. -/
theorem littleEndianBytes_toUInt32 {bytes : Bytes} (size : bytes.size = 4) :
    littleEndianBytes 4 bytes.littleEndian.toUInt32.toNat = bytes.toList := by
  have small := littleEndian_lt bytes
  rw [size] at small
  rw [Nat.toUInt32_eq, UInt32.toNat_ofNat_of_lt' small, ← size, littleEndianBytes_littleEndian]

/-- So two bytes begin with a number. -/
theorem exists_littleEndianBytes (bytes : List UInt8) (enough : 2 ≤ bytes.length) :
    ∃ (word : UInt16) (rest : List UInt8), bytes = littleEndianBytes 2 word.toNat ++ rest := by
  refine ⟨(Bytes.littleEndian (bytes.take 2).toArray).toUInt16, bytes.drop 2, ?_⟩
  rw [littleEndianBytes_toUInt16 (by rw [List.size_toArray, List.length_take]; omega)]
  exact (List.take_append_drop 2 bytes).symm

namespace ByteSource

theorem nextU16LE_parses (word : UInt16) :
    Parses (nextU16LE : SourceM Cursor UInt16) (littleEndianBytes 2 word.toNat) word := by
  have read := (Cursor.take_parses (littleEndianBytes 2 word.toNat)).map
    fun bytes => bytes.littleEndian.toUInt16
  rwa [toUInt16_littleEndian] at read

theorem nextU32LE_parses (word : UInt32) :
    Parses (nextU32LE : SourceM Cursor UInt32) (littleEndianBytes 4 word.toNat) word := by
  have read := (Cursor.take_parses (littleEndianBytes 4 word.toNat)).map
    fun bytes => bytes.littleEndian.toUInt32
  rwa [toUInt32_littleEndian] at read

theorem u16LE_of_append {cursor : Cursor} {word : UInt16} {rest : List UInt8}
    (left : cursor.rest = littleEndianBytes 2 word.toNat ++ rest) :
    u16LE cursor = (word, cursor.advance 2) := by
  have taken : takeOrZeros 2 cursor = _ := Cursor.takeOrZeros_of_append left
  unfold u16LE
  rw [taken]
  show ((Bytes.littleEndian (littleEndianBytes 2 word.toNat).toArray).toUInt16, _) = _
  rw [toUInt16_littleEndian]
  rfl

theorem u16LE_parses {ε : Type} (word : UInt16) :
    Parses (modifyGet u16LE : EStateM ε Cursor UInt16) (littleEndianBytes 2 word.toNat) word :=
  .modifyGet fun _ _ left => u16LE_of_append left

end ByteSource

/-! ## What was read -/

/-- **A step that answers what stands before the cursor**, and moves behind
it. -/
def Transcribes {ε α : Type} (step : EStateM ε Cursor α) (bytes : α → List UInt8) : Prop :=
  ∀ (cursor cursor' : Cursor) (a : α), step cursor = .ok a cursor' →
    cursor.rest = bytes a ++ cursor'.rest

/-- Bytes that were taken stand there, as many as were asked for. -/
theorem Cursor.take_ok {cursor cursor' : Cursor} {count : Nat} {bytes : Bytes}
    (ran : ByteSource.take count cursor = .ok bytes cursor') :
    bytes.size = count ∧ cursor.rest = bytes.toList ++ cursor'.rest := by
  change Cursor.take count cursor = _ at ran
  unfold Cursor.take at ran
  split at ran
  · next enough =>
    cases ran
    refine ⟨?_, ?_⟩
    · rw [cursor.size_peek, Nat.min_eq_left enough]
    · rw [cursor.toList_peek, cursor.rest_advance, List.take_append_drop]
  · cases ran

namespace ByteSource

theorem next_transcribes : Transcribes (next : SourceM Cursor UInt8) fun byte => [byte] := by
  intro cursor cursor' byte ran
  obtain ⟨bytes, _, taken, ran⟩ := exists_of_bind_ok ran
  obtain ⟨size, left⟩ := Cursor.take_ok taken
  cases ran
  obtain ⟨byte, one⟩ := List.length_eq_one_iff.mp (bytes.length_toList.trans size)
  rw [left, ← Array.getElem?_toList, one]
  rfl

theorem nextU16LE_transcribes :
    Transcribes (nextU16LE : SourceM Cursor UInt16) fun word => littleEndianBytes 2 word.toNat := by
  intro cursor cursor' word ran
  obtain ⟨bytes, _, taken, ran⟩ := exists_of_bind_ok ran
  obtain ⟨size, left⟩ := Cursor.take_ok taken
  cases ran
  dsimp only
  rw [left, littleEndianBytes_toUInt16 size]

theorem nextU32LE_transcribes :
    Transcribes (nextU32LE : SourceM Cursor UInt32) fun word => littleEndianBytes 4 word.toNat := by
  intro cursor cursor' word ran
  obtain ⟨bytes, _, taken, ran⟩ := exists_of_bind_ok ran
  obtain ⟨size, left⟩ := Cursor.take_ok taken
  cases ran
  dsimp only
  rw [left, littleEndianBytes_toUInt32 size]

end ByteSource

/-! ## Variable-length integers -/

namespace VarInt

/-- **The forms of a variable-length integer.** -/
inductive Form
  /-- A byte. -/
  | byte (value : UInt8) (small : value.toNat < 0xFF)
  /-- The byte `0xFF` and a number of 15 bits. -/
  | word (value : UInt16) (small : value.toNat < 0x8000)
  /-- The byte `0xFF`, 15 bits behind a bit that is set, and 16 bits. -/
  | double (high low : UInt16) (large : 0x8000 ≤ high.toNat)
  deriving DecidableEq, Repr

namespace Form

/-- The number that is written. -/
def value : Form → Nat
  | byte value _ => value.toNat
  | word value _ => value.toNat
  | double high low _ => (high.toNat - 0x8000) * 0x10000 + low.toNat

/-- The bytes it is written in. -/
def bytes : Form → List UInt8
  | byte value _ => [value]
  | word value _ => 0xFF :: littleEndianBytes 2 value.toNat
  | double high low _ =>
    0xFF :: (littleEndianBytes 2 high.toNat ++ littleEndianBytes 2 low.toNat)

/-- The numbers of forms have 31 bits. -/
theorem value_lt (form : Form) : form.value < 0x80000000 := by
  cases form with
  | byte value small => exact Nat.lt_trans small (by decide)
  | word value small => exact Nat.lt_trans small (by decide)
  | double high low large =>
    have := high.toNat_lt
    have := low.toNat_lt
    show (high.toNat - 0x8000) * 0x10000 + low.toNat < 0x80000000
    omega

/-- **Every form is read back.** -/
theorem read_of_append {cursor : Cursor} {rest : List UInt8} (form : Form)
    (left : cursor.rest = form.bytes ++ rest) :
    VarInt.read cursor
      = (⟨form.value, form.bytes.length⟩, cursor.advance form.bytes.length) := by
  unfold VarInt.read
  cases form with
  | byte value small =>
    rw [Cursor.nextOrZero_cons left]
    dsimp only
    rw [if_pos small]
    rfl
  | word value small =>
    have front : cursor.rest = 0xFF :: (littleEndianBytes 2 value.toNat ++ rest) := left
    rw [Cursor.nextOrZero_cons front]
    dsimp only
    rw [if_neg (by decide), ByteSource.u16LE_of_append (Cursor.rest_advance_cons front)]
    dsimp only
    rw [if_pos small]
    rfl
  | double high low large =>
    have front : cursor.rest
        = 0xFF :: (littleEndianBytes 2 high.toNat ++ (littleEndianBytes 2 low.toNat ++ rest)) := by
      rw [left, ← List.append_assoc]
      rfl
    have behind := Cursor.rest_advance_cons front
    have last : ((cursor.advance 1).advance 2).rest = littleEndianBytes 2 low.toNat ++ rest :=
      Cursor.rest_advance_append behind
    rw [Cursor.nextOrZero_cons front]
    dsimp only
    rw [if_neg (by decide), ByteSource.u16LE_of_append behind]
    dsimp only
    rw [if_neg (Nat.not_lt.mpr large), ByteSource.u16LE_of_append last]
    rfl

theorem parses {ε : Type} (form : Form) :
    Parses (modifyGet VarInt.read : EStateM ε Cursor VarInt) form.bytes
      ⟨form.value, form.bytes.length⟩ :=
  .modifyGet fun _ _ left => form.read_of_append left

end Form

namespace Form

/-- **A form that is cut off**: its last number is missing, and is zero. -/
inductive Cut : Form → List UInt8 → Prop
  | byte : Cut (.byte 0 (by decide)) []
  | word {rest : List UInt8} (few : rest.length < 2) :
    Cut (.word 0 (by decide)) (0xFF :: rest)
  | double {high : UInt16} {rest : List UInt8} (large : 0x8000 ≤ high.toNat)
    (few : rest.length < 2) :
    Cut (.double high 0 large) (0xFF :: (littleEndianBytes 2 high.toNat ++ rest))

end Form

/-- **Every sequence of bytes begins with a form**, or with one that is cut off. -/
theorem exists_form_or_cut (left : List UInt8) :
    (∃ (form : Form) (rest : List UInt8), left = form.bytes ++ rest)
      ∨ ∃ form : Form, form.Cut left := by
  cases left with
  | nil => exact .inr ⟨_, .byte⟩
  | cons first rest =>
    by_cases small : first.toNat < 0xFF
    · exact .inl ⟨.byte first small, rest, rfl⟩
    have marker : first = 0xFF := by
      have := first.toNat_lt
      exact UInt8.toNat_inj.mp (show first.toNat = 255 by omega)
    rw [marker]
    by_cases enough : 2 ≤ rest.length
    · obtain ⟨high, rest, rfl⟩ := exists_littleEndianBytes rest enough
      by_cases small : high.toNat < 0x8000
      · exact .inl ⟨.word high small, rest, rfl⟩
      have large := Nat.le_of_not_lt small
      by_cases enough : 2 ≤ rest.length
      · obtain ⟨low, rest, rfl⟩ := exists_littleEndianBytes rest enough
        refine .inl ⟨.double high low large, rest, ?_⟩
        show _ = 0xFF :: (_ ++ _) ++ rest
        rw [List.cons_append, List.append_assoc]
      · exact .inr ⟨_, .double large (Nat.lt_of_not_le enough)⟩
    · exact .inr ⟨_, .word (Nat.lt_of_not_le enough)⟩

/-- **There are no other forms**: an integer whose bytes are all there is
written in one of them. -/
theorem exists_form (cursor : Cursor) (whole : (read cursor).1.width ≤ cursor.remaining) :
    ∃ form : Form, (read cursor).1 = ⟨form.value, form.bytes.length⟩
      ∧ form.bytes <+: cursor.rest := by
  rw [← cursor.length_rest] at whole
  obtain ⟨form, rest, left⟩ | ⟨form, cut⟩ := exists_form_or_cut cursor.rest
  · refine ⟨form, ?_, rest, left.symm⟩
    rw [form.read_of_append left]
  -- of a form that is cut off, not all bytes are there
  generalize left : cursor.rest = bytes at cut whole
  unfold read at whole
  cases cut with
  | byte =>
    have ended : ByteSource.nextOrZero cursor = (0, cursor) := Cursor.nextOrZero_nil left
    rw [ended] at whole
    exact absurd whole (Nat.not_succ_le_zero 0)
  | word few =>
    rw [Cursor.nextOrZero_cons left] at whole
    dsimp only at whole
    rw [if_neg (by decide), List.length_cons] at whole
    split at whole
    · exact absurd (Nat.le_of_succ_le_succ whole) (Nat.not_le.mpr few)
    · exact absurd (Nat.le_of_succ_le_succ whole) (Nat.not_le.mpr (Nat.lt_trans few (by decide)))
  | double large few =>
    have behind := Cursor.rest_advance_cons left
    rw [Cursor.nextOrZero_cons left] at whole
    dsimp only at whole
    rw [if_neg (by decide), ByteSource.u16LE_of_append behind] at whole
    dsimp only at whole
    rw [if_neg (Nat.not_lt.mpr large), List.length_cons, List.length_append,
      length_littleEndianBytes] at whole
    change 5 ≤ _ at whole
    omega

end VarInt

end WpgRaster
