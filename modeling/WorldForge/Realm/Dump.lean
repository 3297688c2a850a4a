import WorldForge.Error.Shown
import WorldForge.Ledger.Basic

/-!
# The state of objects

An object can be asked for its whole state. What it gives is plain data, so whoever keeps it keeps
the state of that moment.
-/

namespace WorldForge

/-- The state of an object, as far as it can be asked for. -/
inductive Dump where
  | catalog (size : Nat)
  | allocator (alive : List InstanceHandle)
  | ledger (alive : List InstanceHandle) (worlds : List World) (declared : Nat)
  | world (w : World)
  | events (delivered : List Value)
  | budget (b : Budget)
  | configuration (s : Configuration)
  | transaction (pending : Nat)
  | factory (recipe : Except Error Recipe)

def World.shown (w : World) : Shown :=
  .record
    [("handle", w.handle.shown), ("template", w.template.shown), ("name", .str w.name),
     ("executor", w.executor.shown), ("components", w.components.value.shown),
     ("systems", w.systems.value.shown)]

namespace Dump

/-- What is shown of a state. A factory that has no recipe shows the error of asking for it. -/
def shown : Dump → Shown
  | catalog size => .record [("len", .int size)]
  | allocator alive => .record [("alive", .list (alive.map InstanceHandle.shown))]
  | ledger alive worlds declared =>
    .record
      [("live", .list (alive.map InstanceHandle.shown)),
       ("worlds", .list (worlds.map World.shown)), ("catalog", .int declared)]
  | world w => w.shown
  | events delivered => .record [("events", .list (Value.shownAll delivered))]
  | budget b =>
    .record
      [("limit", .ofOption .ofNumeral b.limit), ("used", .int b.used),
       ("remaining", .ofOption .int b.remaining?), ("metered", .bool b.isMetered)]
  | configuration s =>
    .record
      [("initialized", .bool s.isSetUp), ("config", .ofOption (·.value.shown) s.current)]
  | transaction pending => .record [("pending", .int pending)]
  | factory (.ok r) =>
    .record [("world_template", r.template.shown), ("executor", r.executor.shown)]
  | factory (.error e) => e.shown

end Dump

end WorldForge
