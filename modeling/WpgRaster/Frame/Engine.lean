import WpgRaster.Frame.Decode

/-!
# The engine

Decoding needs an engine that runs. An `Engine` is started when it is
needed and can be shut down; it counts its starts.
-/

namespace WpgRaster

/-- The state of the decoding engine. -/
structure Engine where
  /-- Whether it runs. -/
  initialized : Bool := false
  /-- How often it was started. -/
  generation : Nat := 0
  deriving DecidableEq, Repr

namespace Engine

/-- Starts the engine unless it runs, and answers which start this is. -/
def ensure (engine : Engine) : Nat × Engine :=
  if engine.initialized then (engine.generation, engine)
  else
    let generation := engine.generation + 1
    (generation, { initialized := true, generation })

/-- Shuts the engine down and answers whether it ran. -/
def shutdown (engine : Engine) : Bool × Engine :=
  (engine.initialized, { engine with initialized := false })

/-- Decodes a frame, starting the engine if necessary. -/
def decode {σ κ : Type} [ByteSource σ] [RowSink κ] (engine : Engine)
    (format : FrameFormat) (source : σ) (sink : κ) (stop : Stop) : Decoded σ κ × Engine :=
  (format.decode source sink stop, engine.ensure.2)

end Engine

end WpgRaster
