import Replay.Trace.Basic
import Replay.Render.Renderer

/-! The calls a module gets in the course of its life. -/
namespace Replay

inductive Call where
  /-- The module gets its own surface; the other one is the root. -/
  | init (root own : Surface)
  /-- An event, and all events so far with this one for the last. -/
  | handle (event : Event) (history : Trace)
  /-- What the events have built up is dropped; surface and subscriptions stay. -/
  | reset
  | destroy
  /-- Time has passed, in milliseconds. -/
  | update (elapsed : UInt64)
  deriving DecidableEq

end Replay
