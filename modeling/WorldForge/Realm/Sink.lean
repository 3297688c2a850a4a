import WorldForge.Realm.Basic

/-!
# Telling sinks

A sink first keeps the event it is told of, and then reacts. Its reaction may run any code, and so
may change anything, before it returns or raises. Event logs and scripted sinks are sinks; that a
value is none comes out when it is to be told of an event.
-/

namespace WorldForge

variable {κ : Type}

namespace Reaction

/-- Runs the code of a reaction, and raises its error. -/
def perform (run : κ → Act κ Unit) (x : Reaction κ) : Act κ Unit := do
  x.code.forM run
  x.error.forM fun e => throw (.raised e.1 e.2)

end Reaction

namespace Sink

/-- The reaction to the next event. -/
def nextReaction? (s : Sink κ) : Option (Reaction κ) := (s.script[s.events.length]?).join

/-- Tells a sink of an event. -/
def emit (run : κ → Act κ Unit) (i : Nat) (event : Value) : Act κ Unit := do
  let s := (← get).sink i
  modify (Realm.putSink i { s with events := s.events ++ [event] })
  s.nextReaction?.forM (Reaction.perform run)

/-- Tells what stands for a sink of an event. -/
def tell (run : κ → Act κ Unit) (sink event : Value) : Act κ Unit :=
  match sink with
  | .object .eventLog i | .object .scriptSink i => emit run i event
  | other => throw (.lacking other "emit")

/-- Tells a sink of events one after the other; null is told of nothing. -/
def deliver (run : κ → Act κ Unit) (sink : Value) (events : List Value) : Act κ Unit :=
  match sink with
  | .null => pure ()
  | sink => events.forM (tell run sink)

end Sink

end WorldForge
