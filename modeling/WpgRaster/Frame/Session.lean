import WpgRaster.Frame.Stop
import WpgRaster.Row.Assembler

/-!
# Decoding sessions

While a frame is decoded there is a source that bytes come from, an
assembler and a consumer that rows go to, and a stop that is asked now
and then. A `Session` holds the three, and a step that concerns one of
them is lifted to it.
-/

namespace WpgRaster

/-- The state of decoding a frame. -/
structure Session (σ κ : Type) where
  /-- Where bytes come from. -/
  source : σ
  /-- Where rows go. -/
  rows : RowState κ
  /-- What is asked whether to go on. -/
  stop : Stop

/-- A step of decoding a frame. -/
abbrev SessionM (σ κ α : Type) := EStateM RasterError (Session σ κ) α

namespace Session

variable {σ κ α : Type}

/-- A step that concerns the source. -/
def onSource (step : EStateM RasterError σ α) : SessionM σ κ α :=
  fun ⟨source, rows, stop⟩ =>
    match step source with
    | .ok a source => .ok a ⟨source, rows, stop⟩
    | .error err source => .error err ⟨source, rows, stop⟩

/-- A step that concerns the rows. -/
def onRows (step : RowM κ α) : SessionM σ κ α :=
  fun ⟨source, rows, stop⟩ =>
    match step rows with
    | .ok a rows => .ok a ⟨source, rows, stop⟩
    | .error err rows => .error err ⟨source, rows, stop⟩

/-- Asks the stop. -/
def checkStop : SessionM σ κ Unit :=
  fun ⟨source, rows, stop⟩ =>
    match Stop.check stop with
    | .ok () stop => .ok () ⟨source, rows, stop⟩
    | .error err stop => .error err ⟨source, rows, stop⟩

/-- The assembler of the session. -/
def assembler : SessionM σ κ RowAssembler := return (← get).rows.assembler

end Session

end WpgRaster
