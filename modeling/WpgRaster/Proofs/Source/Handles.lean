import WpgRaster.Proofs.Source.Interchange

/-!
# File handles

Seen from outside, a handle does what a byte stream does, whatever it is asked for. Here
this is shown of file handles, which are direct streams (`FileHandle.interchanges`): what a
failed exact read consumed is given back, and a single byte that is not there leaves both at
the end.
-/

namespace WpgRaster

/-- A length is found alike if positions are the same and seeks to the end and back lead to
the same place. -/
theorem ByteSource.length_simulates {σ τ : Type} [ByteSource σ] [ByteSource τ]
    {rel : σ → τ → Prop}
    (position : ∀ s t, rel s t → ByteSource.position s = ByteSource.position t)
    (toEnd : Simulates rel (ByteSource.seek (.fromEnd 0) : SourceM σ Nat)
      (ByteSource.seek (.fromEnd 0)))
    (toStart : ∀ s t, rel s t →
      Simulates rel (ByteSource.seek (.start (ByteSource.position t)) : SourceM σ Nat)
        (ByteSource.seek (.start (ByteSource.position t)))) :
    Simulates rel (ByteSource.length : SourceM σ Nat) ByteSource.length := by
  intro s t related
  have here : (get : SourceM σ σ) s = .ok s s := rfl
  have here' : (get : SourceM τ τ) t = .ok t t := rfl
  unfold ByteSource.length
  rw [bind_of_ok here, bind_of_ok here']
  dsimp only
  rw [position s t related]
  refine (toEnd.bind fun size => ?_) s t related
  refine .ite (fun _ => .pure _) fun _ => ?_
  exact ((toStart s t related).bind fun _ => .pure _)

/-- **Absolute positions are words.** -/
def SeekTarget.IsWord : SeekTarget → Prop
  | .start position => position < Size.limit
  | _ => True

namespace Handle

variable {ρ : Type} [Handle ρ] {count : Nat} {handle moved back : ρ} {bytes : Bytes}
  {err : SourceError} {position : Nat}

/-- A read that goes well is an exact read. -/
theorem takeOrRestore_of_ok (ran : readExact count handle = .ok bytes moved) :
    takeOrRestore count handle = .ok bytes moved := by
  unfold takeOrRestore
  rw [ran]

/-- After one that does not, the handle is moved back. -/
theorem takeOrRestore_of_error (failed : readExact count handle = .error err moved)
    (restored : seek (.start (tell handle)) moved = .ok position back) :
    takeOrRestore count handle = .error err back := by
  unfold takeOrRestore
  rw [failed]
  dsimp only
  rw [restored]

theorem nextOrZero_of_ok (ran : readExact 1 handle = .ok bytes moved) :
    nextOrZero handle = (bytes[0]?.getD 0, moved) := by
  unfold nextOrZero
  rw [ran]

theorem nextOrZero_of_error (failed : readExact 1 handle = .error err moved) :
    nextOrZero handle = (0, moved) := by
  unfold nextOrZero
  rw [failed]

end Handle

namespace ByteStream

variable {stream : ByteStream}

/-- The next byte of a stream is the first of what it has left. -/
theorem nextOrZero_of_lt (left : 0 < stream.cursor.remaining) :
    stream.nextOrZero = ((stream.cursor.peek 1)[0]?.getD 0, stream.advance 1) := by
  have inside : stream.cursor.position < stream.cursor.bytes.size := by
    unfold Cursor.remaining at left
    omega
  have there := Array.getElem?_eq_getElem inside
  have first : (stream.cursor.peek 1)[0]? = stream.cursor.bytes[stream.cursor.position]? := by
    unfold Cursor.peek
    rw [Array.getElem?_extract, if_pos (by omega), Nat.add_zero]
  unfold nextOrZero
  rw [first, there]
  rfl

/-- The end of a stream that knows it. -/
theorem locate_fromEnd (bounded : stream.buffering ≠ .bufferedUnbounded) (offset : Int) :
    stream.locate (.fromEnd offset) = offsetFrom stream.cursor.bytes.size offset :=
  if_neg bounded

/-- Without a byte left it is zero, and a direct stream is at its end then. -/
theorem nextOrZero_of_remaining_eq_zero (none : stream.cursor.remaining = 0) :
    stream.nextOrZero = (0, match stream.buffering with
      | .direct => stream.moveTo stream.cursor.bytes.size
      | _ => stream) := by
  unfold Cursor.remaining at none
  have ended : stream.cursor.bytes[stream.cursor.position]? = .none :=
    Array.getElem?_eq_none (by omega)
  unfold nextOrZero
  rw [ended]
  cases stream.buffering with
  | direct => rfl
  | buffered => rfl
  | bufferedUnbounded => rfl

/-- Only the sum of base and distance matters. -/
theorem offsetFrom_congr {base base' : Nat} {offset offset' : Int}
    (same : base + offset = base' + offset') :
    offsetFrom base offset = offsetFrom base' offset' := by
  unfold offsetFrom
  rw [same]

theorem locate_lt {target : SeekTarget} (word : target.IsWord) {position : Nat}
    (located : stream.locate target = .ok position) : position < Size.limit := by
  have sum : ∀ {base : Nat} {offset : Int}, offsetFrom base offset = .ok position →
      position < Size.limit := by
    intro base offset reached
    unfold offsetFrom at reached
    split at reached
    · nomatch reached
    · next inside =>
      obtain rfl := Except.ok.inj reached
      omega
  cases target with
  | start target =>
    obtain rfl := Except.ok.inj located
    exact word
  | fromEnd offset =>
    by_cases bounded : stream.buffering = .bufferedUnbounded
    · rw [show stream.locate (.fromEnd offset) = .error (.stream .noEnd) from if_pos bounded]
        at located
      nomatch located
    · rw [locate_fromEnd bounded] at located
      exact sum located
  | current offset => exact sum located

end ByteStream

/-! ## File handles -/

namespace FileHandle

/-- **A handle and the direct stream that it is.** -/
structure Shows (handle : FileHandle) (stream : ByteStream) : Prop where
  /-- Both are at the same byte. -/
  eq : handle.cursor = stream.cursor
  /-- The stream has no buffer. -/
  direct : stream.buffering = .direct

variable {handle : FileHandle} {stream : ByteStream}

theorem readExact_of_le {cursor : Cursor} {count : Nat} (enough : count ≤ cursor.remaining) :
    Handle.readExact count (⟨cursor⟩ : FileHandle)
      = .ok (cursor.peek count) ⟨cursor.advance count⟩ := if_pos enough

/-- What a failed read leaves behind. -/
theorem readExact_of_lt {cursor : Cursor} {count : Nat} (few : cursor.remaining < count) :
    Handle.readExact count (⟨cursor⟩ : FileHandle)
      = .error (.stream .unfilled) ⟨{ cursor with position := cursor.bytes.size }⟩ :=
  if_neg (Nat.not_le_of_lt few)

/-- **A failed read that is restored leaves no trace.** -/
theorem takeOrRestore_of_lt {cursor : Cursor} {count : Nat} (few : cursor.remaining < count) :
    Handle.takeOrRestore count (⟨cursor⟩ : FileHandle) = .error (.stream .unfilled) ⟨cursor⟩ :=
  Handle.takeOrRestore_of_error (readExact_of_lt few) rfl

/-- Seeks lead to the same place. -/
theorem seek_simulates (target : SeekTarget) :
    Simulates Shows (FileHandle.seek target) (ByteStream.seek target) := by
  rintro ⟨cursor⟩ ⟨_, buffering⟩ ⟨rfl, rfl⟩
  have located : locate ⟨cursor⟩ target = ByteStream.locate ⟨cursor, .direct⟩ target := by
    cases target with
    | start position => rfl
    | fromEnd offset =>
      have bounded : (⟨cursor, .direct⟩ : ByteStream).buffering ≠ .bufferedUnbounded := nofun
      exact (ByteStream.locate_fromEnd bounded offset).symm
    | current offset => rfl
  unfold seek ByteStream.seek
  dsimp only
  rw [located]
  cases ByteStream.locate ⟨cursor, .direct⟩ target with
  | ok position => exact .ok ⟨rfl, rfl⟩
  | error err => exact .error ⟨rfl, rfl⟩

/-- **A file handle is a direct stream.** -/
theorem interchanges : Interchanges Eq (fun _ _ => True) Shows where
  refl _ := rfl
  position _ _ shows := congrArg Cursor.position shows.eq
  atEnd _ _ shows := congrArg (fun cursor : Cursor => Except.ok cursor.atEnd) shows.eq
  askEnd := interchange_matches <| by
    rintro ⟨cursor⟩ ⟨_, _⟩ ⟨rfl, rfl⟩
    exact .ok ⟨rfl, rfl⟩
  nextOrZero := interchange_reads <| by
    rintro ⟨cursor⟩ ⟨_, _⟩ ⟨rfl, rfl⟩
    show (Handle.nextOrZero (⟨cursor⟩ : FileHandle)).1
        = (ByteStream.nextOrZero ⟨cursor, .direct⟩).1
      ∧ Shows (Handle.nextOrZero ⟨cursor⟩).2 (ByteStream.nextOrZero ⟨cursor, .direct⟩).2
    by_cases left : 0 < cursor.remaining
    · rw [Handle.nextOrZero_of_ok (readExact_of_le left), ByteStream.nextOrZero_of_lt left]
      exact ⟨rfl, rfl, rfl⟩
    · -- both are at the end then, also if they were beyond it
      have none : cursor.remaining = 0 := Nat.eq_zero_of_not_pos left
      rw [Handle.nextOrZero_of_error (readExact_of_lt (by omega)),
        ByteStream.nextOrZero_of_remaining_eq_zero none]
      exact ⟨rfl, rfl, rfl⟩
  takeOrZeros count := interchange_reads <| by
    rintro ⟨cursor⟩ ⟨_, _⟩ ⟨rfl, rfl⟩
    show (takeOrZeros count ⟨cursor⟩).1 = (ByteStream.takeOrZeros count ⟨cursor, .direct⟩).1
      ∧ Shows (takeOrZeros count ⟨cursor⟩).2 (ByteStream.takeOrZeros count ⟨cursor, .direct⟩).2
    unfold takeOrZeros ByteStream.takeOrZeros
    by_cases enough : count ≤ cursor.remaining
    · rw [Handle.takeOrRestore_of_ok (readExact_of_le enough), if_pos enough]
      exact ⟨rfl, rfl, rfl⟩
    · rw [takeOrRestore_of_lt (Nat.lt_of_not_le enough), if_neg enough]
      exact ⟨rfl, rfl, rfl⟩
  take count := interchange_matches <| by
    rintro ⟨cursor⟩ ⟨_, _⟩ ⟨rfl, rfl⟩
    show Compared _ _ (Handle.takeOrRestore count (⟨cursor⟩ : FileHandle))
      (ByteStream.take count ⟨cursor, .direct⟩)
    unfold ByteStream.take
    by_cases enough : count ≤ cursor.remaining
    · rw [Handle.takeOrRestore_of_ok (readExact_of_le enough), if_pos enough]
      exact .ok ⟨rfl, rfl⟩
    · rw [takeOrRestore_of_lt (Nat.lt_of_not_le enough), if_neg enough]
      exact .error rfl ⟨rfl, rfl⟩
  takeUpTo limit := interchange_matches <| by
    rintro ⟨cursor⟩ ⟨_, _⟩ ⟨rfl, rfl⟩
    exact Compared.ok (Shows.mk rfl rfl)
  seek target s t shows _ := (seek_simulates target).compares.compared s t shows
  length :=
    (ByteSource.length_simulates (fun _ _ shows => congrArg Cursor.position shows.eq)
      (seek_simulates _) fun _ _ _ => seek_simulates _).compares

end FileHandle

end WpgRaster
