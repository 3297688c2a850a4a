import WorldForge.Error.Kind
import WorldForge.Value

/-!
# Arguments of a deployment

What is handed over for a new instance may be of any type. As a rule it is a value of a known type.
Anything else is a *stranger*, and is told by what a ledger can find out about it: whether it is a
handle, and how it is written down and shown. Each of these may come to nothing, because an error is
raised instead.

A handle that has something other than a whole number in it is a stranger, too. Handles are compared
by what is in them, so it may still be equal to the handle of a number; or it is equal to none, or
what is in it can change and cannot be looked up. Where there is a limit to how long an integer may
be written, one that exceeds it is a stranger as well: an error is raised in place of its digits. -/

namespace WorldForge

/-- An error that is raised by something that is handed over. -/
structure Raised where
  kind : ErrorKind
  message : Text
  deriving DecidableEq

/-- Something of a type that is not known, and that is no text. -/
structure Stranger where
  /-- For the handle of an instance, the number of the handle that it is equal to, if there is one,
  or what is raised when it is looked up. None for what is no handle. -/
  handle? : Option (Except Raised (Option Int))
  /-- How it is written down. -/
  literal : Except Raised Text
  /-- How it is shown in running text. -/
  text : Except Raised Text

/-- An argument of any type. -/
inductive Argument where
  | value (v : Value)
  | stranger (o : Stranger)

namespace Argument

/-- Arguments of known types. -/
abbrev values (vs : List Value) : List Argument := vs.map value

/-- Arguments of known types, with strangers at some of the places. -/
def withStrangers (vs : List Value) (strangers : List (Nat × Stranger)) : List Argument :=
  vs.zipIdx.map fun (v, place) =>
    match strangers.lookup place with
    | some o => stranger o
    | none => value v

/-- The handle of an instance that an argument is, or is equal to. -/
def handle? : Argument → Option InstanceHandle
  | value (.handle h) => some h
  | value _ => none
  | stranger o =>
    match o.handle? with
    | some (.ok (some n)) => some (.ofInt n)
    | _ => none

/-- What an argument raises when it is looked at. -/
inductive Raises : Argument → Raised → Prop
  | lookUp {o : Stranger} {e : Raised} (h : o.handle? = some (.error e)) : Raises (stranger o) e
  | literal {o : Stranger} {e : Raised} (h : o.literal = .error e) : Raises (stranger o) e
  | text {o : Stranger} {e : Raised} (h : o.text = .error e) : Raises (stranger o) e

end Argument

end WorldForge
