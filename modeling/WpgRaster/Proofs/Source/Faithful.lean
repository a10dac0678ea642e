import WpgRaster.Proofs.Upholding
import WpgRaster.Source.EndlessHandle

/-!
# Sources that are faithful to a file

A source without faults shows a file: what it serves are the bytes of the file at its position,
and it knows where the file ends (`Faithful`). Nothing is said of positions beyond the end other
than that there is nothing to be read, and nothing of what a source holds inside, except that it
is sound as long as nothing but its operations is used.

Two things follow for everything that can be asked of a reader. What fails leaves the source
where it was, in whatever order things are asked for (`Faithful.perform`). And a read that
cannot fail serves either the bytes that are asked for or zeros at the end
(`Faithful.perform_of_sentinel`). A *reader that keeps its place* is one of which both are true
(`KeepsPlace`).
-/

namespace WpgRaster

/-- **What a read serves that cannot fail**: the bytes of the file, or zeros at its end if there
are too few. -/
inductive Served (file : Bytes) (count here : Nat) : Bytes → Nat → Prop
  | whole (enough : count ≤ file.size - here) :
    Served file count here (file.extract here (here + count)) (here + count)
  | short (few : file.size - here < count) {there : Nat} (ended : file.size ≤ there) :
    Served file count here (Array.replicate count 0) there

namespace Served

variable {file bytes : Bytes} {count here there : Nat}

/-- If there are enough bytes, they are served. -/
theorem of_le (served : Served file count here bytes there) (enough : count ≤ file.size - here) :
    bytes = file.extract here (here + count) ∧ there = here + count := by
  cases served with
  | whole => exact ⟨rfl, rfl⟩
  | short few => exact absurd enough (Nat.not_le.mpr few)

/-- If there are not, there are none. -/
theorem of_lt (served : Served file count here bytes there) (few : file.size - here < count) :
    bytes = Array.replicate count 0 ∧ file.size ≤ there := by
  cases served with
  | whole enough => exact absurd enough (Nat.not_le.mpr few)
  | short _ ended => exact ⟨rfl, ended⟩

end Served

/-- Where a target is, if there is such a position. -/
def SeekTarget.place (size here : Nat) : SeekTarget → Int
  | start position => position
  | fromEnd offset => size + offset
  | current offset => here + offset

/-! ## Steps that settle -/

section

variable {σ α β : Type} [ByteSource σ] {sound : σ → Prop} {here : Nat} {good : α → Nat → Prop}

/-- **How a step settles** that was made `here`: it goes well, or the source is where it was. -/
inductive Settled (sound : σ → Prop) (here : Nat) (good : α → Nat → Prop) :
    EStateM.Result SourceError σ α → Prop
  | ok {a : α} {s : σ} (kept : sound s) (fine : good a (ByteSource.position s)) :
    Settled sound here good (.ok a s)
  | error {err : SourceError} {s : σ} (kept : sound s) (same : ByteSource.position s = here) :
    Settled sound here good (.error err s)

namespace Settled

theorem mono {good' : α → Nat → Prop} {result : EStateM.Result SourceError σ α}
    (settled : Settled sound here good result) (weaker : ∀ a there, good a there → good' a there) :
    Settled sound here good' result := by
  cases settled with
  | ok kept fine => exact .ok kept (weaker _ _ fine)
  | error kept same => exact .error kept same

/-- Steps in sequence settle if the second one leads back whenever it fails. -/
theorem bind {good' : β → Nat → Prop} {step : SourceM σ α} {next : α → SourceM σ β} {s : σ}
    (first : Settled sound here good (step s))
    (second : ∀ a s', sound s' → good a (ByteSource.position s') →
      Settled sound here good' (next a s')) :
    Settled sound here good' ((step >>= next) s) := by
  generalize ran : step s = result at first
  cases first with
  | ok kept fine =>
    rw [bind_of_ok ran]
    exact second _ _ kept fine
  | error kept same =>
    rw [bind_of_error ran]
    exact .error kept same

/-- What is made of an answer. -/
theorem map {step : SourceM σ α} {s : σ} (settled : Settled sound here good (step s)) (f : α → β) :
    Settled sound here (fun _ _ => True) ((step >>= fun a => pure (f a)) s) :=
  settled.bind fun _ _ kept _ => .ok kept trivial

theorem sound_behind {result : EStateM.Result SourceError σ α}
    (settled : Settled sound here good result) : sound (behind result) := by
  cases settled with
  | ok kept _ => exact kept
  | error kept _ => exact kept

end Settled

end

/-! ## Faithful sources -/

variable {σ : Type} [ByteReader σ]

/-- **A source that is faithful to a file**, as long as it is sound. -/
structure Faithful (file : Bytes) (sound : σ → Prop) : Prop where
  /-- It knows whether the file has ended. -/
  atEnd : ∀ s, sound s →
    ByteSource.atEnd s = .ok (decide (file.size ≤ ByteSource.position s))
  /-- It can be asked for that. -/
  askEnd : ∀ s, sound s → ∃ s', ByteReader.askEnd s
      = .ok (decide (file.size ≤ ByteSource.position s)) s'
    ∧ sound s' ∧ ByteSource.position s' = ByteSource.position s
  /-- The next byte is served. -/
  nextOrZero : ∀ s, sound s → sound (ByteSource.nextOrZero s).2
    ∧ Served file 1 (ByteSource.position s) #[(ByteSource.nextOrZero s).1]
      (ByteSource.position (ByteSource.nextOrZero s).2)
  /-- So are several bytes. -/
  takeOrZeros : ∀ count s, sound s → sound (ByteSource.takeOrZeros count s).2
    ∧ Served file count (ByteSource.position s) (ByteSource.takeOrZeros count s).1
      (ByteSource.position (ByteSource.takeOrZeros count s).2)
  /-- An exact read delivers the bytes of the file. -/
  take : ∀ count s, sound s →
    Settled sound (ByteSource.position s) (fun bytes there =>
      count ≤ file.size - ByteSource.position s
        ∧ bytes = file.extract (ByteSource.position s) there
        ∧ there = ByteSource.position s + count)
      (ByteSource.take count s)
  /-- A partial read delivers some of them. -/
  takeUpTo : ∀ limit s, sound s →
    Settled sound (ByteSource.position s) (fun bytes there =>
      bytes = file.extract (ByteSource.position s) there
        ∧ there ≤ ByteSource.position s + limit)
      (ByteSource.takeUpTo limit s)
  /-- A seek leads to its target. -/
  seek : ∀ target s, sound s →
    Settled sound (ByteSource.position s) (fun position there =>
      position = there ∧ (there : Int) = target.place file.size (ByteSource.position s))
      (ByteSource.seek target s)
  /-- Absolute positions are never refused. -/
  seek_start : ∀ position s, sound s → ∃ s', ByteSource.seek (.start position) s = .ok position s'

namespace ReaderOp

/-- Asks for one thing after another, also behind something that failed. -/
def performAll : List ReaderOp → σ → σ
  | [], source => source
  | op :: ops, source => performAll ops (behind (op.perform source))

/-- The reads that cannot fail: how many bytes they ask for, and what they make of them. -/
def sentinel? : ReaderOp → Option (Nat × (Bytes → Answer))
  | byteOrZero => some (1, fun bytes => .number (bytes[0]?.getD 0).toNat)
  | u16OrZero .little => some (2, fun bytes => .number bytes.littleEndian.toUInt16.toNat)
  | u16OrZero .big => some (2, fun bytes => .number bytes.bigEndian.toUInt16.toNat)
  | u32OrZero .little => some (4, fun bytes => .number bytes.littleEndian.toUInt32.toNat)
  | u32OrZero .big => some (4, fun bytes => .number bytes.bigEndian.toUInt32.toNat)
  | bytesOrZeros count => some (count, .bytes)
  | _ => none

end ReaderOp

/-- **A source that has reached its end**, and says so. -/
structure Ended (s : σ) : Prop where
  atEnd : ByteSource.atEnd s = .ok true
  asked : ∃ s', ReaderOp.askEnd.perform s = .ok (.flag true) s'

/-- **A reader that keeps its place**, unless it has read something or was moved. -/
structure KeepsPlace (file : Bytes) (s : σ) : Prop where
  /-- What fails leaves it where it is. -/
  failed : ∀ (op : ReaderOp) err s', op.perform s = .error err s' →
    ByteSource.position s' = ByteSource.position s
  /-- So does the question for its length, which is that of the file. -/
  length : ∀ answer s', ReaderOp.length.perform s = .ok answer s' →
    answer = .number file.size ∧ ByteSource.position s' = ByteSource.position s
  /-- A read that cannot fail serves the bytes that are asked for, or zeros. It has reached the
  end then. -/
  sentinel : ∀ (op : ReaderOp) count answer, op.sentinel? = some (count, answer) →
    ∃ bytes s', op.perform s = .ok (answer bytes) s'
      ∧ Served file count (ByteSource.position s) bytes (ByteSource.position s')
      ∧ (file.size - ByteSource.position s < count → Ended s')

namespace Faithful

variable {file : Bytes} {sound : σ → Prop} {s : σ} (faithful : Faithful file sound)

include faithful

/-- A seek to an absolute position leads there. -/
theorem exists_seek_start (position : Nat) (kept : sound s) :
    ∃ s', ByteSource.seek (.start position) s = .ok position s'
      ∧ sound s' ∧ ByteSource.position s' = position := by
  obtain ⟨s', ran⟩ := faithful.seek_start position s kept
  have settled := faithful.seek (.start position) s kept
  rw [ran] at settled
  cases settled with
  | ok kept' fine => exact ⟨s', ran, kept', fine.1.symm⟩

/-- Distances that are too large are refused before the source is moved. -/
theorem seek_distance (count : Nat) (target : Int → SeekTarget) (kept : sound s) :
    Settled sound (ByteSource.position s) (fun _ _ => True)
      ((ByteSource.distance count >>= fun far => ByteSource.seek (target far)) s) := by
  have checked : Settled sound (ByteSource.position s)
      (fun _ there => there = ByteSource.position s) (ByteSource.distance count s) := by
    unfold ByteSource.distance
    split
    · exact .ok kept rfl
    · exact .error kept rfl
  refine checked.bind fun far s' kept' same => ?_
  rw [← same]
  exact (faithful.seek _ s' kept').mono fun _ _ _ => trivial

/-- **The length of the file is found**, if at all, and the source is where it was. -/
theorem length (kept : sound s) :
    Settled sound (ByteSource.position s)
      (fun size there => size = file.size ∧ there = ByteSource.position s)
      (ByteSource.length s) := by
  have here : (get : SourceM σ σ) s = .ok s s := rfl
  unfold ByteSource.length
  rw [bind_of_ok here]
  refine (faithful.seek (.fromEnd 0) s kept).bind fun size ended kept' ⟨reached, place⟩ => ?_
  have found : size = file.size := by
    have sum : (ByteSource.position ended : Int) = file.size + 0 := place
    omega
  by_cases same : ByteSource.position s = size
  · rw [if_pos same]
    exact .ok kept' ⟨found, reached ▸ same.symm⟩
  · obtain ⟨back, ran, kept'', there⟩ := faithful.exists_seek_start (ByteSource.position s) kept'
    rw [if_neg same]
    show Settled sound _ _ ((ByteSource.seek (.start (ByteSource.position s)) >>= fun _ =>
      pure size : SourceM σ Nat) ended)
    rw [bind_of_ok ran]
    exact .ok kept'' ⟨found, there⟩

/-- A read that cannot fail serves what it should. -/
theorem perform_of_sentinel (kept : sound s) {op : ReaderOp} {count : Nat}
    {answer : Bytes → ReaderOp.Answer} (reads : op.sentinel? = some (count, answer)) :
    ∃ bytes s', op.perform s = .ok (answer bytes) s' ∧ sound s'
      ∧ Served file count (ByteSource.position s) bytes (ByteSource.position s') := by
  cases op with
  | byteOrZero =>
    cases reads
    exact ⟨_, _, rfl, faithful.nextOrZero s kept⟩
  | u16OrZero order =>
    cases order <;> cases reads <;> exact ⟨_, _, rfl, faithful.takeOrZeros 2 s kept⟩
  | u32OrZero order =>
    cases order <;> cases reads <;> exact ⟨_, _, rfl, faithful.takeOrZeros 4 s kept⟩
  | bytesOrZeros count =>
    cases reads
    exact ⟨_, _, rfl, faithful.takeOrZeros _ s kept⟩
  | _ => nomatch reads

/-- **Whatever is asked for settles.** -/
theorem perform (op : ReaderOp) (kept : sound s) :
    Settled sound (ByteSource.position s) (fun _ _ => True) (op.perform s) := by
  cases reads : op.sentinel? with
  | some read =>
    obtain ⟨bytes, s', ran, kept', -⟩ := faithful.perform_of_sentinel kept reads
    rw [ran]
    exact .ok kept' trivial
  | none =>
    cases op with
    | skip count => exact (faithful.seek_distance count .current kept).map _
    | rewind count => exact (faithful.seek_distance count (fun far => .current (-far)) kept).map _
    | seek target => exact (faithful.seek target s kept).map _
    | setPosition position =>
      exact ((faithful.seek (.start position) s kept).map fun _ => ()).map
        fun _ => ReaderOp.Answer.done
    | length => exact (faithful.length kept).map _
    | byte => exact ((faithful.take 1 s kept).map _).map _
    | u16 order => cases order <;> exact ((faithful.take 2 s kept).map _).map _
    | u32 order => cases order <;> exact ((faithful.take 4 s kept).map _).map _
    | exact count => exact (faithful.take count s kept).map _
    | upTo limit => exact (faithful.takeUpTo limit s kept).map _
    | position => exact .ok kept trivial
    | askEnd =>
      obtain ⟨s', asked, kept', -⟩ := faithful.askEnd s kept
      show Settled sound _ _ ((ByteReader.askEnd >>= fun ended => pure (.flag ended) :
        SourceM σ ReaderOp.Answer) s)
      rw [bind_of_ok asked]
      exact .ok kept' trivial
    | byteOrZero => nomatch reads
    | u16OrZero order => cases order <;> nomatch reads
    | u32OrZero order => cases order <;> nomatch reads
    | bytesOrZeros count => nomatch reads

/-- A source stays sound, whatever it is asked for. -/
theorem performAll (ops : List ReaderOp) (kept : sound s) :
    sound (ReaderOp.performAll ops s) := by
  induction ops generalizing s with
  | nil => exact kept
  | cons op ops ih => exact ih (faithful.perform op kept).sound_behind

theorem ended (kept : sound s) (beyond : file.size ≤ ByteSource.position s) : Ended s := by
  have known : decide (file.size ≤ ByteSource.position s) = true := decide_eq_true beyond
  refine ⟨?_, ?_⟩
  · rw [faithful.atEnd s kept, known]
  · obtain ⟨s', asked, -⟩ := faithful.askEnd s kept
    rw [known] at asked
    exact ⟨s', bind_of_ok asked⟩

/-- **A reader of a faithful source keeps its place.** -/
theorem keepsPlace (kept : sound s) : KeepsPlace file s where
  failed op err s' failed := by
    have settled := faithful.perform op kept
    rw [failed] at settled
    cases settled with
    | error _ same => exact same
  length answer s' ran := by
    obtain ⟨size, mid, found, answered⟩ := exists_of_bind_ok ran
    have settled := faithful.length kept
    rw [found] at settled
    cases answered
    cases settled with
    | ok _ fine => exact ⟨congrArg ReaderOp.Answer.number fine.1, fine.2⟩
  sentinel op count answer reads := by
    obtain ⟨bytes, s', ran, kept', served⟩ := faithful.perform_of_sentinel kept reads
    exact ⟨bytes, s', ran, served, fun few => faithful.ended kept' (served.of_lt few).2⟩

end Faithful

end WpgRaster
