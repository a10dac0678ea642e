import WpgRaster.Proofs.Frame.Simulation

/-!
# Recorded sinks

To speak of the calls that a row sink is sent, the sink is recorded: a
`Recorded` sink does what the sink in it does, and keeps a list of the
calls and of how they went. Decoding does not notice (`decode_recorded`),
so the calls it sends to a recorded sink are those it sends to the sink
itself (`sinkCalls`).
-/

namespace WpgRaster

/-- A call of a row sink that may fail. -/
inductive RowCall
  /-- A row is begun. -/
  | begin (row : Nat)
  /-- A row is committed. -/
  | commit (row : Nat)
  deriving DecidableEq, Repr

/-- The calls for so many rows. -/
def protocol (rows : Nat) : List RowCall :=
  (List.range rows).flatMap fun row => [.begin row, .commit row]

/-- A sink and the calls it was sent. -/
structure Recorded (κ : Type) where
  /-- The sink. -/
  sink : κ
  /-- The calls in order, each with whether it went well. -/
  calls : List (RowCall × Bool) := []

namespace Recorded

variable {κ α : Type}

/-- Sends a call and keeps it. -/
def record (call : RowCall) (step : EStateM RasterError κ α) :
    EStateM RasterError (Recorded κ) α := fun ⟨sink, calls⟩ =>
  match step sink with
  | .ok a sink => .ok a ⟨sink, calls ++ [(call, true)]⟩
  | .error err sink => .error err ⟨sink, calls ++ [(call, false)]⟩

instance [RowSink κ] : RowSink (Recorded κ) where
  width recorded := RowSink.width recorded.sink
  height recorded := RowSink.height recorded.sink
  colorSpace recorded := RowSink.colorSpace recorded.sink
  beginRow row := record (.begin row) (RowSink.beginRow row)
  writeRow row samples recorded :=
    { recorded with sink := RowSink.writeRow row samples recorded.sink }
  commitRow row := record (.commit row) (RowSink.commitRow row)

end Recorded

namespace Recorded

variable {κ α : Type} {call : RowCall} {step : EStateM RasterError κ α} {sink after : κ}
  {calls : List (RowCall × Bool)}

theorem record_of_ok {a : α} (ok : step sink = .ok a after) :
    record call step ⟨sink, calls⟩ = .ok a ⟨after, calls ++ [(call, true)]⟩ := by
  unfold record
  dsimp only
  rw [ok]

theorem record_of_error {err : RasterError} (failed : step sink = .error err after) :
    record call step ⟨sink, calls⟩ = .error err ⟨after, calls ++ [(call, false)]⟩ := by
  unfold record
  dsimp only
  rw [failed]

end Recorded

/-- A recorded sink simulates the sink in it. -/
theorem Recorded.simulates (κ : Type) [RowSink κ] :
    SinkSimulates fun (sink : κ) (recorded : Recorded κ) => recorded.sink = sink := by
  have recorded : ∀ {α : Type} (call : RowCall) (step : EStateM RasterError κ α),
      Simulates (fun sink recorded => recorded.sink = sink) step (record call step) := by
    rintro α call step sink ⟨_, calls⟩ rfl
    dsimp only
    cases run : step _ with
    | ok a after =>
      rw [record_of_ok run]
      exact .ok rfl
    | error err after =>
      rw [record_of_error run]
      exact .error rfl
  exact
    { width := by rintro sink recorded rfl; rfl
      height := by rintro sink recorded rfl; rfl
      colorSpace := by rintro sink recorded rfl; rfl
      beginRow := fun row => recorded (.begin row) _
      writeRow := by rintro row samples sink recorded rfl; rfl
      commitRow := fun row => recorded (.commit row) _ }

/-- A source simulates itself. -/
theorem SourceSimulates.refl (σ : Type) [ByteSource σ] :
    SourceSimulates (Eq : σ → σ → Prop) where
  size source source' same := by rw [same]
  nextByte := .refl _
  nextRow width := .refl _

namespace FrameFormat

variable {σ κ : Type} [ByteSource σ] [RowSink κ]

/-- The calls that decoding a frame sends to its sink. -/
def sinkCalls (format : FrameFormat) (source : σ) (sink : κ) (stop : Stop) :
    List (RowCall × Bool) :=
  (format.decode source (Recorded.mk sink []) stop).sink.calls

/-- **Recording changes nothing**: the frame ends the same way, and the
source and the sink are left as they would be. -/
theorem decode_recorded (format : FrameFormat) (source : σ) (sink : κ) (stop : Stop) :
    Decoded.Related Eq (fun sink (recorded : Recorded κ) => recorded.sink = sink)
      (format.decode source sink stop) (format.decode source (Recorded.mk sink []) stop) := by
  have kept : (Recorded.mk sink []).sink = sink := rfl
  exact decode_simulates (.refl σ) (Recorded.simulates κ) format rfl kept stop

end FrameFormat

end WpgRaster
