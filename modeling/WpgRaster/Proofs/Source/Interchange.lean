import WpgRaster.Proofs.Source.Mirrors
import WpgRaster.Source.Reader

/-!
# Sources that are interchanged

What a reader answers to a sequence of operations is its `trace`: after each operation the
answer, if there is one, and what the source then says of its position and its end. Two
sources can be *interchanged* if all operations that sources are made of are answered alike
(`Interchanges`), at least as long as seeks lead where they are allowed to. Then the traces
are the same (`Interchanges.trace_eq`).
-/

namespace WpgRaster

section

variable {σ τ α : Type} {alike : SourceError → SourceError → Prop} {rel : σ → τ → Prop}

/-- The terms on which sources are interchanged: how errors are related, and sources. -/
abbrev interchange (alike : SourceError → SourceError → Prop) (rel : σ → τ → Prop) :
    Terms SourceError σ τ := { alike, failed := rel }

/-- Nothing ends an interchange, so it is enough to compare results. -/
theorem interchange_matches {step : SourceM σ α} {step' : SourceM τ α}
    (compared : ∀ s t, rel s t →
      Compared (interchange alike rel) (fun _ => rel) (step s) (step' t)) :
    Matches (interchange alike rel) rel step step' :=
  ⟨compared, fun _ beyond => beyond.elim⟩

/-- So it is of reads that cannot fail. -/
theorem interchange_reads {read : σ → α × σ} {read' : τ → α × τ}
    (same : ∀ s t, rel s t → (read s).1 = (read' t).1 ∧ rel (read s).2 (read' t).2) :
    ReadsCompare (fun _ => False) rel read read' :=
  ⟨fun s t related => .inl (same s t related), fun _ beyond => beyond.elim⟩

end

variable {σ τ : Type} [ByteReader σ] [ByteReader τ]

/-! ## Traces -/

/-- What can be seen of a reader behind an operation. -/
structure Observation where
  /-- The answer, unless the operation failed. -/
  answer : Option ReaderOp.Answer
  /-- The position. -/
  position : Nat
  /-- Whether this is the end, if the source can tell. -/
  ended : Option Bool
  deriving DecidableEq, Repr

namespace ReaderOp

/-- An operation and what can be seen behind it. -/
def observe (op : ReaderOp) (source : σ) : Observation × σ :=
  let (answer, source) := answered op.perform source
  (⟨answer, ByteSource.position source, (ByteSource.atEnd source).toOption⟩, source)

/-- **What can be seen of a reader** that is asked for one thing after another. -/
def trace : List ReaderOp → σ → List Observation
  | [], _ => []
  | op :: ops, source =>
    let (observation, source) := op.observe source
    observation :: trace ops source

/-- **Operations whose seeks are allowed** where the source stands when they are made. -/
def Stays (allowed : SeekTarget → σ → Prop) : List ReaderOp → σ → Prop
  | [], _ => True
  | op :: ops, source =>
    (∀ target ∈ op.target?, allowed target source) ∧ Stays allowed ops (op.observe source).2

instance decidableStays {allowed : SeekTarget → σ → Prop}
    [∀ target source, Decidable (allowed target source)] :
    (ops : List ReaderOp) → (source : σ) → Decidable (Stays allowed ops source)
  | [], _ => isTrue trivial
  | op :: ops, source =>
    have : Decidable (Stays allowed ops (op.observe source).2) := decidableStays ops _
    inferInstanceAs (Decidable ((∀ target ∈ op.target?, allowed target source) ∧ _))

end ReaderOp

/-! ## Interchanging sources -/

/-- **Sources that can be interchanged**, as long as the seeks of the second one are
allowed. -/
structure Interchanges (alike : SourceError → SourceError → Prop)
    (allowed : SeekTarget → τ → Prop) (rel : σ → τ → Prop) : Prop where
  /-- Errors of the same kind are alike. -/
  refl : ∀ err, alike err err
  /-- Both stand at the same position. -/
  position : ∀ s t, rel s t → ByteSource.position s = ByteSource.position t
  /-- Both know whether this is the end. -/
  atEnd : ∀ s t, rel s t → ByteSource.atEnd s = ByteSource.atEnd t
  /-- Both can be asked for that. -/
  askEnd : Matches (interchange alike rel) rel (ByteReader.askEnd : SourceM σ Bool)
    ByteReader.askEnd
  /-- The next byte or zero is the same. -/
  nextOrZero : ReadsCompare (fun _ => False) rel ByteSource.nextOrZero ByteSource.nextOrZero
  /-- So are the next bytes or zeros. -/
  takeOrZeros : ∀ count, ReadsCompare (fun _ => False) rel (ByteSource.takeOrZeros count)
    (ByteSource.takeOrZeros count)
  /-- Exact reads deliver the same. -/
  take : ∀ count, Matches (interchange alike rel) rel (ByteSource.take count : SourceM σ Bytes)
    (ByteSource.take count)
  /-- So do partial reads. -/
  takeUpTo : ∀ limit, Matches (interchange alike rel) rel
    (ByteSource.takeUpTo limit : SourceM σ Bytes) (ByteSource.takeUpTo limit)
  /-- Seeks that are allowed lead to the same position. -/
  seek : ∀ target s t, rel s t → allowed target t →
    Compared (interchange alike rel) (fun _ => rel) (ByteSource.seek target s)
      (ByteSource.seek target t)
  /-- Both have the same length. -/
  length : Matches (interchange alike rel) rel (ByteSource.length : SourceM σ Nat)
    ByteSource.length

namespace Interchanges

variable {alike : SourceError → SourceError → Prop} {allowed : SeekTarget → τ → Prop}
  {rel : σ → τ → Prop} (interchanges : Interchanges alike allowed rel)

include interchanges

/-- Distances that are signed numbers are moved by a seek, others are refused. -/
theorem seek_distance (count : Nat) (target : Int → SeekTarget) {s : σ} {t : τ}
    (related : rel s t) (near : count < Size.signedLimit → allowed (target count) t) :
    Compared (interchange alike rel) (fun _ => rel)
      ((ByteSource.distance count >>= fun far => ByteSource.seek (target far)) s)
      ((ByteSource.distance count >>= fun far => ByteSource.seek (target far)) t) := by
  by_cases small : count < Size.signedLimit
  · have far : ∀ {ρ : Type} [ByteSource ρ] (source : ρ),
        ByteSource.distance count source = .ok (count : Int) source := fun _ => if_pos small
    rw [bind_of_ok (far s), bind_of_ok (far t)]
    exact interchanges.seek _ s t related (near small)
  · have far : ∀ {ρ : Type} [ByteSource ρ] (source : ρ),
        ByteSource.distance count source = .error .outOfRange source := fun _ => if_neg small
    rw [bind_of_error (far s), bind_of_error (far t)]
    exact .error (interchanges.refl _) related

/-- Numbers that are zero if their bytes are missing are the same. -/
theorem numberOrZero {β : Type} (count : Nat) (f : Bytes → β) :
    Matches (interchange alike rel) rel
      (modifyGet fun s : σ => (f (ByteSource.takeOrZeros count s).1,
        (ByteSource.takeOrZeros count s).2))
      (modifyGet fun t : τ => (f (ByteSource.takeOrZeros count t).1,
        (ByteSource.takeOrZeros count t).2)) :=
  ((interchanges.takeOrZeros count).map f).steps

/-- Numbers whose bytes may not be missing are the same. -/
theorem number {β : Type} (count : Nat) (f : Bytes → β) :
    Matches (interchange alike rel) rel
      (do return f (← ByteSource.take count) : SourceM σ β)
      (do return f (← ByteSource.take count) : SourceM τ β) :=
  (interchanges.take count).bind fun _ => .pure _

/-- **Operations are answered alike** if their seeks are allowed. -/
theorem perform (op : ReaderOp) {s : σ} {t : τ} (related : rel s t)
    (stays : ∀ target ∈ op.target?, allowed target t) :
    Compared (interchange alike rel) (fun _ => rel) (op.perform s) (op.perform t) := by
  have answer : ∀ {α : Type} (f : α → ReaderOp.Answer), ∀ a, Matches (interchange alike rel) rel
      (pure (f a) : SourceM σ ReaderOp.Answer) (pure (f a)) := fun _ _ => .pure _
  cases op with
  | skip count =>
    refine (interchanges.seek_distance count (fun far => .current far) related fun small =>
      stays _ ?_).bind (answer .number)
    exact if_pos small
  | rewind count =>
    refine (interchanges.seek_distance count (fun far => .current (-far)) related fun small =>
      stays _ ?_).bind (answer .number)
    exact if_pos small
  | seek target =>
    exact (interchanges.seek target s t related (stays target rfl)).bind (answer .number)
  | setPosition target =>
    have moved := interchanges.seek (.start target) s t related (stays _ rfl)
    exact (moved.bind fun _ => .pure ()).bind fun _ => .pure _
  | length => exact (interchanges.length.bind (answer .number)).compared s t related
  | byteOrZero =>
    exact (interchanges.nextOrZero.steps.bind fun _ => .pure _).compared s t related
  | byte => exact ((interchanges.number 1 _).bind fun _ => .pure _).compared s t related
  | u16OrZero order =>
    cases order with
    | little =>
      exact ((interchanges.numberOrZero 2 fun bytes => bytes.littleEndian.toUInt16).bind
        (answer fun n => .number n.toNat)).compared s t related
    | big =>
      exact ((interchanges.numberOrZero 2 fun bytes => bytes.bigEndian.toUInt16).bind
        (answer fun n => .number n.toNat)).compared s t related
  | u16 order =>
    cases order with
    | little =>
      exact ((interchanges.number 2 fun bytes => bytes.littleEndian.toUInt16).bind
        (answer fun n => .number n.toNat)).compared s t related
    | big =>
      exact ((interchanges.number 2 fun bytes => bytes.bigEndian.toUInt16).bind
        (answer fun n => .number n.toNat)).compared s t related
  | u32OrZero order =>
    cases order with
    | little =>
      exact ((interchanges.numberOrZero 4 fun bytes => bytes.littleEndian.toUInt32).bind
        (answer fun n => .number n.toNat)).compared s t related
    | big =>
      exact ((interchanges.numberOrZero 4 fun bytes => bytes.bigEndian.toUInt32).bind
        (answer fun n => .number n.toNat)).compared s t related
  | u32 order =>
    cases order with
    | little =>
      exact ((interchanges.number 4 fun bytes => bytes.littleEndian.toUInt32).bind
        (answer fun n => .number n.toNat)).compared s t related
    | big =>
      exact ((interchanges.number 4 fun bytes => bytes.bigEndian.toUInt32).bind
        (answer fun n => .number n.toNat)).compared s t related
  | bytesOrZeros count =>
    exact ((interchanges.takeOrZeros count).steps.bind (answer .bytes)).compared s t related
  | exact count => exact ((interchanges.take count).bind (answer .bytes)).compared s t related
  | upTo limit => exact ((interchanges.takeUpTo limit).bind (answer .bytes)).compared s t related
  | position =>
    show Compared _ _ (.ok (ReaderOp.Answer.number (ByteSource.position s)) s)
      (.ok (ReaderOp.Answer.number (ByteSource.position t)) t)
    rw [interchanges.position s t related]
    exact .ok related
  | askEnd => exact (interchanges.askEnd.bind (answer .flag)).compared s t related

/-- **The same is seen of them** behind an operation. -/
theorem observe (op : ReaderOp) {s : σ} {t : τ} (related : rel s t)
    (stays : ∀ target ∈ op.target?, allowed target t) :
    (op.observe s).1 = (op.observe t).1 ∧ rel (op.observe s).2 (op.observe t).2 := by
  have performed := interchanges.perform op related stays
  have seen : ∀ {answer : Option ReaderOp.Answer} {s : σ} {t : τ}, rel s t →
      (⟨answer, ByteSource.position s, (ByteSource.atEnd s).toOption⟩ : Observation)
        = ⟨answer, ByteSource.position t, (ByteSource.atEnd t).toOption⟩ := by
    intro answer s t related
    rw [interchanges.position s t related, interchanges.atEnd s t related]
  unfold ReaderOp.observe answered
  generalize (op.perform : SourceM σ ReaderOp.Answer) s = result,
    (op.perform : SourceM τ ReaderOp.Answer) t = result' at performed
  cases performed with
  | ok behind => exact ⟨seen behind, behind⟩
  | error _ behind => exact ⟨seen behind, behind⟩
  | fatal failed => exact failed.elim
  | late beyond => exact beyond.elim

/-- What is allowed for one of them is allowed for the other, if it is so for related
states. -/
theorem stays {allowed' : SeekTarget → σ → Prop}
    (implied : ∀ target s t, rel s t → allowed target t → allowed' target s)
    {ops : List ReaderOp} {s : σ} {t : τ} (related : rel s t)
    (stays : ReaderOp.Stays allowed ops t) : ReaderOp.Stays allowed' ops s := by
  induction ops generalizing s t with
  | nil => trivial
  | cons op ops ih =>
    obtain ⟨here, later⟩ := stays
    refine ⟨fun target aims => implied target s t related (here target aims), ?_⟩
    exact ih (interchanges.observe op related here).2 later

/-- **Sources that can be interchanged have the same traces.** -/
theorem trace_eq {ops : List ReaderOp} {s : σ} {t : τ} (related : rel s t)
    (stays : ReaderOp.Stays allowed ops t) : ReaderOp.trace ops s = ReaderOp.trace ops t := by
  induction ops generalizing s t with
  | nil => rfl
  | cons op ops ih =>
    obtain ⟨here, later⟩ := stays
    obtain ⟨same, behind⟩ := interchanges.observe op related here
    show (op.observe s).1 :: ReaderOp.trace ops (op.observe s).2
      = (op.observe t).1 :: ReaderOp.trace ops (op.observe t).2
    rw [same, ih behind later]

end Interchanges

end WpgRaster
