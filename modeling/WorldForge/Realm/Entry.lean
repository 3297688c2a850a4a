import WorldForge.Datum
import WorldForge.Log
import WorldForge.Realm.Dump

/-!
# What a session shows

A session leaves a trace: the records that were written, the labels that undoings left, and how
every step came out.
-/

namespace WorldForge

/-- What a step that succeeds answers. -/
inductive Answer where
  | value (v : Value)
  | dump (d : Dump)

namespace Answer

/-- What is shown of an answer. -/
def shown : Answer → Shown
  | value v => v.shown
  | dump d => d.shown

/-- The value that a name is bound to for an answer. -/
def bound : Answer → Value
  | value v => v
  | dump d => d.shown.value

end Answer

/-- How a step came out. -/
inductive Outcome where
  | done (a : Answer)
  | failed (e : Error)
  /-- The step was not run: a name in it was bound to nothing. -/
  | skipped (name : String)

/-- One entry of a trace. -/
inductive Entry where
  | log (r : LogRecord)
  | undone (label : Datum)
  | step (call : String) (o : Outcome)

/-- Whether an entry is a record of the library's own log. -/
def Entry.isLog : Entry → Bool
  | log _ => true
  | _ => false

end WorldForge
