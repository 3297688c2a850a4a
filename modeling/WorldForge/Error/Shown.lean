import WorldForge.Error.Basic
import WorldForge.Value.Shown

/-!
# What is shown of errors

An answer shows an error as a record of its kind and its message, of the data that errors of its
kind have, and of the errors behind it: those of failed compensations, and the cause. Settings that
do not read have no message, but a list of the fields.
-/

namespace WorldForge

def Settings.Problem.shown (p : Settings.Problem) : Shown :=
  .record
    [("loc", .list [.str p.field]), ("type", .str p.cause.label),
     ("msg", .str p.cause.message)]

namespace Error

/-- The kind of an error, and what it says. -/
def heading (e : Error) : List (String × Shown) :=
  ("error", .str e.kind.label) ::
    match e with
    | settings report => [("errors", .list (report.problems.map Settings.Problem.shown))]
    | e => [("message", .str e.message)]

mutual

/-- What an error has besides its heading. -/
def details : Error → List (String × Shown)
  | budget (.exhausted limit used) => [("limit", .ofNumeral limit), ("used", .int used)]
  | deploymentFailed _ _ cause => [("cause", .record (cause.heading ++ details cause))]
  | cannotDispatch _ cause => [("cause", .record (cause.heading ++ details cause))]
  | registrationRejected given kind cause =>
    [("template_id", given.shown), ("kind", kind.toTemplateKind.shown),
     ("cause", .record (cause.heading ++ details cause))]
  | registrationFailed _ _ cause => [("cause", .record (cause.heading ++ details cause))]
  | rollbackFailed failures none => [("failures", .list (shownAll failures))]
  | rollbackFailed failures (some cause) =>
    [("failures", .list (shownAll failures)),
     ("cause", .record (cause.heading ++ details cause))]
  | _ => []

/-- What is shown of each of several errors. -/
def shownAll : List Error → List Shown
  | [] => []
  | e :: rest => .record (e.heading ++ details e) :: shownAll rest

end

/-- What an answer has of an error, by name. -/
def fields (e : Error) : List (String × Shown) := e.heading ++ e.details

/-- What is shown of an error. -/
def shown (e : Error) : Shown := .record e.fields

end Error

end WorldForge
