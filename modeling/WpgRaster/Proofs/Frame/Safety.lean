import WpgRaster.Proofs.Row.Assembly
import WpgRaster.Frame.Decode

/-!
# Every source, every stop, every sink

Whatever a source delivers, whenever the decoding is stopped and whichever
row the consumer refuses: the rows that were handed over are those of a
sheet, and an error has one of few reasons (`Explains`). Every step keeps
that (`Keeps`), and a run of steps keeps it therefore as well. When a frame
is reported as decoded, or as aborted, all its rows were handed over
(`decodeSession_settles`).
-/

namespace WpgRaster

/-- A step on a source that fails with errors of some kind only. -/
def Reports {σ α : Type} (kind : RasterError → Prop) (step : EStateM RasterError σ α) : Prop :=
  ∀ source err source', step source = .error err source' → kind err

namespace Reports

variable {σ α β : Type} {kind : RasterError → Prop}

theorem pure (a : α) : Reports kind (Pure.pure a : EStateM RasterError σ α) :=
  fun _ _ _ failed => nomatch failed

theorem throw {err : RasterError} (known : kind err) :
    Reports kind (MonadExcept.throw err : EStateM RasterError σ α) := by
  intro source err' source' failed
  cases failed
  exact known

theorem bind {step : EStateM RasterError σ α} {next : α → EStateM RasterError σ β}
    (first : Reports kind step) (second : ∀ a, Reports kind (next a)) :
    Reports kind (step >>= next) := by
  intro source err source' failed
  cases run : step source with
  | ok a mid =>
    rw [bind_of_ok run] at failed
    exact second a mid err source' failed
  | error err' mid =>
    rw [bind_of_error run] at failed
    cases failed
    exact first source err source' run

theorem mono {kind' : RasterError → Prop} {step : EStateM RasterError σ α}
    (reports : Reports kind step) (weaker : ∀ err, kind err → kind' err) : Reports kind' step :=
  fun source err source' failed => weaker err (reports source err source' failed)

end Reports

/-! ## Reading -/

/-- **Errors of reading bytes**: there are none left, or they cannot be read. -/
inductive RasterError.OfBytes : RasterError → Prop
  /-- The source ended. -/
  | truncated : OfBytes .streamTruncated
  /-- The source failed. -/
  | source (cause : SourceError) : OfBytes (.source cause)

/-- **Errors of reading tokens**: those of their bytes, and sizes that no sample has. -/
inductive RasterError.OfTokens : RasterError → Prop
  /-- A byte is missing. -/
  | bytes {err : RasterError} : err.OfBytes → OfTokens err
  /-- The size of a sample makes no sense. -/
  | sampleSize (size : Nat) : OfTokens (.invalidSampleSize size)

section Reading

variable {σ : Type} [ByteSource σ]

namespace Token

theorem nextByte_reports :
    Reports RasterError.OfBytes (nextByte : EStateM RasterError σ UInt8) := by
  intro source err source' failed
  unfold nextByte at failed
  repeat' split at failed
  all_goals cases failed
  · exact .source _
  · exact .truncated
  · exact .truncated

theorem nextBytes_reports (count : Nat) :
    Reports RasterError.OfBytes (nextBytes count : EStateM RasterError σ (List UInt8)) := by
  induction count with
  | zero => exact .pure []
  | succ count ih => exact nextByte_reports.bind fun _ => ih.bind fun _ => .pure _

theorem read_reports (generation : Generation) (reg : SampleRegister) :
    Reports RasterError.OfTokens
      (read generation reg : EStateM RasterError σ (Token × SampleRegister)) := by
  have nextByte : Reports RasterError.OfTokens (nextByte : EStateM RasterError σ UInt8) :=
    nextByte_reports.mono fun _ => .bytes
  have operand : Reports RasterError.OfTokens (operand : EStateM RasterError σ Nat) :=
    nextByte.bind fun _ => .pure _
  cases generation with
  | first =>
    refine Reports.bind (operand.bind fun control => ?_) fun _ => .pure _
    dsimp only
    repeat' split
    · exact operand.bind fun _ => .pure _
    · exact .pure _
    · exact operand.bind fun _ => .pure _
    · exact nextByte.bind fun _ => .pure _
  | second =>
    refine operand.bind fun control => ?_
    dsimp only
    split
    · refine operand.bind fun size => ?_
      split
      · exact .pure _
      · exact .throw (.sampleSize size)
    · exact .pure _
    · exact operand.bind fun _ => .pure _
    · exact operand.bind fun _ => .pure _
    · exact operand.bind fun _ => .pure _
    · exact operand.bind fun _ => .pure _
    · split
      · exact .pure _
      · exact ((nextBytes_reports _).mono fun _ => .bytes).bind fun _ => .pure _

end Token

theorem FrameFormat.nextRow_reports (width : Nat) :
    Reports RasterError.OfBytes (nextRow width : EStateM RasterError σ Bytes) := by
  intro source err source' failed
  unfold nextRow EStateM.adaptExcept at failed
  split at failed
  all_goals cases failed
  exact .source _

end Reading

/-! ## Steps -/

section Steps

variable {σ κ α β : Type} [RowConsumer κ] {start : κ} {shape : Shape} {asked : Nat}
  {sheet : Sheet} {session : Session σ κ}

/-- **A frame that is underway**: it holds a sheet, and the stop was asked so many
times at least. -/
structure Underway (start : κ) (shape : Shape) (asked : Nat) (sheet : Sheet)
    (session : Session σ κ) : Prop where
  /-- The rows make up the sheet. -/
  holds : Holds start shape sheet session.rows
  /-- The stop was asked. -/
  checks : asked ≤ session.stop.checks

/-- **Why reading rows ends** with an error, unless a row is refused: all rows are
there, a byte is missing or cannot be read, a token makes no sense while rows are
missing, or the stop was asked once more and did not let it pass. -/
inductive Explains (shape : Shape) (asked : Nat) (sheet : Sheet) (checks : Nat) :
    RasterError → Prop
  /-- All rows are there. -/
  | full : sheet.IsComplete shape → Explains shape asked sheet checks .rowsExhausted
  /-- A byte could not be had. -/
  | bytes {err : RasterError} : err.OfBytes → Explains shape asked sheet checks err
  /-- A token makes no sense. -/
  | violation {err : RasterError} : ¬ sheet.IsComplete shape → err.abortsFrame = true →
    Explains shape asked sheet checks err
  /-- The caller stopped it. -/
  | stopped (reason : StopReason) : asked < checks →
    Explains shape asked sheet checks (.stopped reason)

/-- There is no room for more only if all rows are there. -/
theorem Explains.isComplete {checks : Nat}
    (explains : Explains shape asked sheet checks .rowsExhausted) : sheet.IsComplete shape := by
  cases explains with
  | full complete => exact complete
  | bytes reported => cases reported
  | violation _ aborts => cases aborts

/-- **A step that keeps to the sheet**: it goes well with a sheet that it
says something about, or it fails with a sheet that explains why, or the
consumer refused a row. -/
def Keeps (start : κ) (shape : Shape) (asked : Nat) (post : α → Sheet → Prop)
    (result : EStateM.Result RasterError (Session σ κ) α) : Prop :=
  match result with
  | .ok a session => ∃ sheet, Underway start shape asked sheet session ∧ post a sheet
  | .error err session =>
    (∃ sheet, Holds start shape sheet session.rows
      ∧ Explains shape asked sheet session.stop.checks err)
    ∨ Refused start shape.rows err session.rows.consumer

namespace Keeps

variable {post : α → Sheet → Prop} {post' : β → Sheet → Prop}

/-- One step after another. -/
theorem bind {step : SessionM σ κ α} {next : α → SessionM σ κ β}
    (first : Keeps start shape asked post (step session))
    (second : ∀ a sheet mid, Underway start shape asked sheet mid → post a sheet →
      Keeps start shape asked post' (next a mid)) :
    Keeps start shape asked post' ((step >>= next) session) := by
  cases run : step session with
  | ok a mid =>
    rw [run] at first
    obtain ⟨sheet, underway, known⟩ := first
    rw [bind_of_ok run]
    exact second a sheet mid underway known
  | error err mid =>
    rw [run] at first
    rw [bind_of_error run]
    exact first

/-- What is said about the sheet may be said more weakly. -/
theorem mono {post' : α → Sheet → Prop} {result : EStateM.Result RasterError (Session σ κ) α}
    (keeps : Keeps start shape asked post result)
    (weaker : ∀ a sheet, post a sheet → post' a sheet) :
    Keeps start shape asked post' result := by
  cases result with
  | ok a session =>
    obtain ⟨sheet, underway, known⟩ := keeps
    exact ⟨sheet, underway, weaker a sheet known⟩
  | error err session => exact keeps

/-- A step on the source, whose errors explain themselves. -/
theorem onSource (underway : Underway start shape asked sheet session)
    {kind : RasterError → Prop} {step : EStateM RasterError σ α} (reports : Reports kind step)
    (explains : ∀ err, kind err → Explains shape asked sheet session.stop.checks err) :
    Keeps start shape asked (fun _ after => after = sheet) (Session.onSource step session) := by
  rw [Session.onSource_eq]
  cases run : step session.source with
  | ok a source => exact ⟨sheet, ⟨underway.holds, underway.checks⟩, rfl⟩
  | error err source =>
    exact .inl ⟨sheet, underway.holds, explains err (reports _ err _ run)⟩

/-- A step on the rows. -/
theorem onRows (underway : Underway start shape asked sheet session) {op : RowM κ Unit}
    {fits : Prop} [Decidable fits] {sheet' : Sheet}
    (lands : Lands start shape fits sheet' (op session.rows))
    (full : ¬ fits → sheet'.IsComplete shape) :
    Keeps start shape asked (fun _ after => after = sheet' ∧ fits)
      (Session.onRows op session) := by
  rw [Session.onRows_eq]
  obtain ⟨rows, holds, landed⟩ | ⟨err, rows, refused, failed⟩ := lands
  · rw [landed]
    by_cases room : fits
    · rw [if_pos room]
      exact ⟨sheet', ⟨holds, underway.checks⟩, rfl, room⟩
    · rw [if_neg room]
      exact .inl ⟨sheet', holds, .full (full room)⟩
  · rw [failed]
    exact .inr refused

/-- A question to the stop. -/
theorem checkStop (underway : Underway start shape asked sheet session) :
    Keeps start shape asked (fun _ after => after = sheet) (Session.checkStop session) := by
  have later : asked < session.stop.checks + 1 := Nat.lt_succ_of_le underway.checks
  rw [Session.checkStop_eq]
  unfold Stop.check
  cases session.stop.answer session.stop.checks with
  | none => exact ⟨sheet, ⟨underway.holds, Nat.le_of_lt later⟩, rfl⟩
  | some reason => exact .inl ⟨sheet, underway.holds, .stopped reason later⟩

/-- A byte that finds no room finds all rows there. -/
theorem append (underway : Underway start shape asked sheet session) (byte : UInt8) :
    Keeps start shape asked (fun _ _ => True)
      (Session.onRows (RowAssembler.append byte) session) := by
  refine (onRows underway (underway.holds.append_lands byte) fun full => ?_).mono
    fun _ _ _ => trivial
  rw [Decidable.not_not] at full
  rwa [Sheet.write_of_isComplete full]

theorem appendAll (underway : Underway start shape asked sheet session) (bytes : List UInt8) :
    Keeps start shape asked
      (fun _ after => after = sheet.writeAll shape bytes ∧ bytes.length ≤ sheet.room shape)
      (Session.onRows (RowAssembler.appendAll bytes) session) := by
  refine onRows underway (underway.holds.appendAll_lands bytes) fun beyond => ?_
  exact (underway.holds.isComplete_writeAll_iff bytes).mpr (by omega)

theorem appendRepeated (underway : Underway start shape asked sheet session)
    (bytes : List UInt8) (count : Nat) :
    Keeps start shape asked (fun _ _ => True)
      (Session.onRows (RowAssembler.appendRepeated bytes count) session) := by
  refine (onRows underway (underway.holds.appendRepeated_lands bytes count)
    fun beyond => ?_).mono fun _ _ _ => trivial
  refine (underway.holds.isComplete_writeAll_iff _).mpr ?_
  rw [List.length_flatten, List.map_replicate, List.sum_replicate_nat]
  omega

theorem repeatRow (underway : Underway start shape asked sheet session)
    (short : ¬ sheet.IsComplete shape) (count : Nat) :
    Keeps start shape asked (fun _ _ => True)
      (Session.onRows (RowAssembler.repeatRow count) session) := by
  by_cases fresh : sheet.current = []
  · exact (onRows underway (underway.holds.repeatRow_lands fresh count)
      fun no => absurd trivial no).mono fun _ _ _ => trivial
  · rw [Session.onRows_eq, underway.holds.repeatRow_of_current_ne_nil fresh]
    exact .inl ⟨sheet, underway.holds, .violation short rfl⟩

end Keeps

end Steps

/-! ## Compressed rows -/

namespace RunLength

variable {σ κ : Type} [ByteSource σ] [RowConsumer κ] {start : κ} {shape : Shape} {asked : Nat}
  {sheet : Sheet} {session : Session σ κ}

theorem copy_keeps (underway : Underway start shape asked sheet session) (count : Nat) :
    Keeps start shape asked (fun _ _ => True) (copy count session) := by
  induction count generalizing sheet session with
  | zero => exact ⟨sheet, underway, trivial⟩
  | succ count ih =>
    refine (Keeps.onSource underway Token.nextByte_reports fun _ => .bytes).bind
      fun byte _ mid underway' _ => ?_
    exact (Keeps.append underway' byte).bind fun _ _ _ underway'' _ => ih underway''

theorem perform_keeps (underway : Underway start shape asked sheet session)
    (short : ¬ sheet.IsComplete shape) (token : Token) (reg : SampleRegister) :
    Keeps start shape asked (fun _ _ => True) (perform token reg session) := by
  have last : ∀ {action : SessionM σ κ Unit},
      Keeps start shape asked (fun _ _ => True) (action session) →
      Keeps start shape asked (fun _ _ => True)
        ((do action; pure reg : SessionM σ κ SampleRegister) session) :=
    fun keeps => keeps.bind fun _ sheet' _ underway' _ => ⟨sheet', underway', trivial⟩
  cases token with
  | copy count => exact last (copy_keeps underway count)
  | fill value count => exact last (.appendRepeated underway [value] count)
  | repeatSample count => exact last (.appendRepeated underway reg.sample count)
  | repeatRow count => exact last (.repeatRow underway short count)
  | setSampleSize size => exact ⟨sheet, underway, trivial⟩
  | toggleDelta => exact ⟨_, ⟨underway.holds.toggleDelta, underway.checks⟩, trivial⟩

/-- **A token keeps to the sheet**, whatever the stop says about it. -/
theorem step_keeps (underway : Underway start shape asked sheet session)
    (short : ¬ sheet.IsComplete shape) (generation : Generation) (reg : SampleRegister) :
    Keeps start shape asked (fun _ _ => True) (step generation reg session) := by
  have explains : ∀ err : RasterError, err.OfTokens →
      Explains shape asked sheet session.stop.checks err := by
    rintro _ (bytes | size)
    · exact .bytes bytes
    · exact .violation short rfl
  unfold step
  rw [bind_of_ok session.assembler_eq]
  refine (Keeps.onSource underway (Token.read_reports generation reg) explains).bind
    fun read _ mid underway' same => ?_
  subst same
  obtain ⟨token, reg⟩ := read
  refine (perform_keeps underway' short token reg).bind fun reg _ mid underway' _ => ?_
  rw [bind_of_ok mid.assembler_eq]
  split
  · exact (Keeps.checkStop underway').bind
      fun _ sheet' _ underway'' _ => ⟨sheet', underway'', trivial⟩
  · exact ⟨_, underway', trivial⟩

/-- **Tokens are carried out until all rows are there.** -/
theorem run_keeps (underway : Underway start shape asked sheet session)
    (generation : Generation) (fuel : Nat) (reg : SampleRegister) :
    Keeps start shape asked (fun _ after => after.IsComplete shape)
      (run generation fuel reg session) := by
  induction fuel generalizing sheet session reg with
  | zero => exact .inl ⟨sheet, underway.holds, .bytes .truncated⟩
  | succ fuel ih =>
    unfold run
    rw [bind_of_ok session.assembler_eq]
    by_cases full : sheet.IsComplete shape
    · rw [if_pos (underway.holds.isComplete_iff.mpr full)]
      exact ⟨sheet, underway, full⟩
    · rw [if_neg (fun yes => full (underway.holds.isComplete_iff.mp yes))]
      exact (step_keeps underway full generation reg).bind
        fun reg _ _ underway' _ => ih underway' reg

end RunLength

/-! ## Frames -/

namespace FrameFormat

variable {σ κ : Type} [ByteSource σ] [RowConsumer κ] {start : κ} {shape : Shape} {asked : Nat}
  {sheet : Sheet} {session : Session σ κ}

/-- Packed rows are read until all rows are there. A source that delivers
more than it is asked for only gets there earlier. -/
theorem decodePacked_keeps (underway : Underway start shape asked sheet session) (count : Nat)
    (few : sheet.room shape ≤ count * shape.width) :
    Keeps start shape asked (fun _ after => after.IsComplete shape)
      (decodePacked shape.width count session) := by
  induction count generalizing sheet session with
  | zero =>
    rw [Nat.zero_mul] at few
    exact ⟨sheet, underway, underway.holds.room_eq_zero_iff.mp (Nat.eq_zero_of_le_zero few)⟩
  | succ count ih =>
    refine (Keeps.onSource underway (nextRow_reports shape.width) fun _ => .bytes).bind
      fun bytes before mid read same => ?_
    subst same
    refine (Keeps.appendAll read bytes.toList).bind fun _ after mid written same => ?_
    obtain ⟨rfl, -⟩ := same
    by_cases short : bytes.size < shape.width
    · rw [if_pos short]
      exact .inl ⟨_, written.holds, .bytes .truncated⟩
    · rw [if_neg short]
      refine (Keeps.checkStop written).bind fun _ asked mid underway' same => ih underway' ?_
      rw [same, underway.holds.room_writeAll, Array.length_toList]
      rw [Nat.succ_mul] at few
      omega

/-- **Reading rows keeps to the sheet**, and succeeds only with all of
them. -/
theorem decodeRows_keeps (underway : Underway start shape asked {} session)
    (compression : Compression) :
    Keeps start shape asked (fun _ after => after.IsComplete shape)
      (decodeRows compression session) := by
  cases compression with
  | none =>
    rw [underway.holds.decodeRows_none]
    exact decodePacked_keeps underway shape.rows (Nat.le_of_eq Sheet.room_empty)
  | first => exact RunLength.run_keeps underway .first _ {}
  | second => exact RunLength.run_keeps underway .second _ {}

/-- **A frame that came to its end**: if it is reported as decoded or as
aborted, all rows were handed over. Otherwise some of them were, and
perhaps the next one was refused. -/
def Settled (start : κ) (shape : Shape)
    (result : EStateM.Result RasterError (Session σ κ) Outcome) : Prop :=
  match result with
  | .ok _ session =>
    ∃ rows, Handed start rows session.rows.consumer ∧ rows.length = shape.rows
  | .error err session =>
    (∃ rows, Handed start rows session.rows.consumer ∧ rows.length ≤ shape.rows
      ∧ (err.abortsFrame → rows.length = shape.rows))
    ∨ Refused start shape.rows err session.rows.consumer

/-- A refusal that cannot be taken for something else: that all rows are
there, that the source ended, or that the frame is to be aborted. -/
def Plainly (err : RasterError) : Prop :=
  err ≠ .rowsExhausted ∧ err ≠ .streamTruncated ∧ err.abortsFrame = false

omit [ByteSource σ] in
/-- A step after the rows were filled up comes to an end with all of them,
unless one is refused. -/
theorem settled_of_fill (holds : Holds start shape sheet session.rows)
    {next : Nat → SessionM σ κ Outcome}
    (last : ∀ count mid, (∃ outcome, next count mid = .ok outcome mid)
      ∨ ∃ err, next count mid = .error err mid) :
    Settled start shape ((Session.onRows RowAssembler.fillRemaining >>= next) session) := by
  have fill := Session.onRows_eq RowAssembler.fillRemaining session
  obtain ⟨count, rows, filled, handed⟩ | ⟨err, rows, failed, refused⟩ :=
    holds.fillRemaining_lands
  · have all : (sheet.frame shape).length = shape.rows := sheet.length_frame
    rw [filled] at fill
    rw [bind_of_ok fill]
    obtain ⟨outcome, ended⟩ | ⟨err, ended⟩ := last count { session with rows }
    · rw [ended]
      exact ⟨_, handed, all⟩
    · rw [ended]
      exact .inl ⟨_, handed, Nat.le_of_eq all, fun _ => all⟩
  · rw [failed] at fill
    rw [bind_of_error fill]
    exact .inr refused

/-- **A frame is brought to its end**, whatever happens. -/
theorem decodeSession_settles (holds : Holds start shape {} session.rows)
    (plainly : ∀ err consumer, Refused start shape.rows err consumer → Plainly err)
    (compression : Compression) :
    Settled start shape (decodeSession compression session) := by
  have keeps := decodeRows_keeps ⟨holds, Nat.zero_le _⟩ compression
  cases rows : decodeRows compression session with
  | ok _ mid =>
    rw [rows] at keeps
    obtain ⟨sheet, ⟨held, -⟩, full⟩ := keeps
    rw [decodeSession_of_ok rows]
    exact ⟨_, held.handed, Nat.le_antisymm held.toWithin.rows full⟩
  | error err mid =>
    rw [rows] at keeps
    obtain ⟨sheet, held, explains⟩ | refused := keeps
    · have few := held.toWithin.rows
      by_cases more : err = .rowsExhausted
      · subst more
        rw [decodeSession_of_rowsExhausted rows]
        exact ⟨_, held.handed, Nat.le_antisymm few explains.isComplete⟩
      by_cases early : err = .streamTruncated
      · subst early
        rw [decodeSession_of_streamTruncated rows]
        exact settled_of_fill held fun _ _ => .inl ⟨_, rfl⟩
      rw [decodeSession_of_error rows more early]
      split
      · exact settled_of_fill held fun _ _ => .inr ⟨_, rfl⟩
      · next quiet => exact .inl ⟨_, held.handed, few, fun aborts => absurd aborts quiet⟩
    · -- A refusal is neither taken for the end of the frame nor answered by filling up.
      obtain ⟨more, early, quiet⟩ := plainly err _ refused
      rw [decodeSession_of_error rows more early, quiet]
      exact .inr refused

/-- The stop is asked once before the frame is begun. -/
theorem checkedSession_settles (holds : Holds start shape {} session.rows)
    (plainly : ∀ err consumer, Refused start shape.rows err consumer → Plainly err)
    (compression : Compression) :
    Settled start shape (checkedSession compression session) := by
  have checked := Session.checkStop_eq session
  unfold Stop.check at checked
  unfold checkedSession
  cases asked : session.stop.answer session.stop.checks with
  | none =>
    rw [asked] at checked
    rw [bind_of_ok checked]
    have begun : Holds start shape {} ({ session with
        stop := { session.stop with checks := session.stop.checks + 1 } } : Session σ κ).rows :=
      holds
    exact decodeSession_settles begun plainly compression
  | some reason =>
    rw [asked] at checked
    rw [bind_of_error checked]
    exact .inl ⟨[], holds.handed, Nat.zero_le _, nofun⟩

end FrameFormat

end WpgRaster
