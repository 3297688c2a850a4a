import WorldForge.Factory.Purse
import WorldForge.Ledger.Site

/-!
# Factory work

What a factory does on a ledger when it makes or extends a world, before anybody is told. Each
side effect is followed by an entry in the journal that undoes it, and each registration is paid
for beforehand with a step. The work stops at the first error, and leaves the
journal to whoever called for it.
-/

namespace WorldForge

/-- How a side effect on a ledger is undone. -/
inductive Undo where
  | destroy (h : InstanceHandle)
  | deregister (world : InstanceHandle) (k : PartKind) (template : Value)

namespace Undo

/-- An entry of the journal as records show it. -/
def text : Undo → CallText
  | destroy h => ⟨"destroy", [h.literal]⟩
  | deregister _ k template => ⟨(LedgerCall.deregister k).label, [template.literal]⟩

def run : Undo → SiteM Unit
  | destroy h => Site.destroy h
  | deregister world k template => Site.deregister world k template

/-- Undoes everything in a journal, and gives what failed. -/
def runAll (journal : List Undo) : SiteM (List Error) := unwind Site.report text run journal

end Undo

/-- What one operation of a factory works on. -/
structure Workbench where
  site : Site
  /-- What pays for the steps. -/
  purse : Purse
  /-- How to undo what has been done, newest first. -/
  journal : List Undo

/-- A computation on a workbench. -/
abbrev Work := EStateM Error Workbench

namespace Work

/-- Does something on the site. -/
def onSite {α : Type} (x : SiteM α) : Work α := fun w =>
  match x w.site with
  | .ok a site => .ok a { w with site }
  | .error e site => .error e { w with site }

def report (r : LogRecord) : Work Unit := onSite (Site.report r)

/-- Enters an undoing in the journal. -/
def enter (u : Undo) : Work Unit := do
  modify fun w => { w with journal := u :: w.journal }
  report (.journaled u.text)

/-- Pays for one step. -/
def payStep : Work Unit := fun w =>
  match w.purse.payStep with
  | .ok purse => .ok () { w with purse }
  | .error e => .error e w

/-- Deploys a world by a recipe. -/
def deployWorld (c : Catalog) (recipe : Recipe) (name : Value) : Work InstanceHandle := do
  let h ← wrapping .ledger (.deploymentFailed name recipe.template)
    (onSite (Site.deploy c recipe.template (Argument.values [name, .handle recipe.executor])))
  enter (.destroy h)
  report (.worldPrepared name h)
  return h

/-- Pays for and registers one part. -/
def registerPart (c : Catalog) (world : InstanceHandle) (k : PartKind) (given : Value) :
    Work Unit := do
  payStep
  wrapping .ledger (.registrationRejected given k) (onSite (Site.register c world k given))
  enter (.deregister world k given)
  report (.partRegistered k given (← release (← get).purse.used))

/-- Pays for and registers what a value gives, one part after the other. -/
def registerEach (c : Catalog) (world : InstanceHandle) (k : PartKind) (parts : Value) :
    Work Unit := do
  let items ← release parts.items
  items.forM (registerPart c world k)

/-- Registers components in their order, and then systems in theirs, in a live world. Neither is
looked at before its turn. -/
def registerParts (c : Catalog) (world components systems : Value) : Work Unit := do
  let w ← wrapping .ledger (.cannotDispatch world) (onSite (Site.dispatcher world))
  registerEach c w.handle .component components
  registerEach c w.handle .system systems

/-- Deploys a world and registers all its parts. -/
def makeWorld (c : Catalog) (recipe : Recipe) (name : Value)
    (components systems : List Value) : Work InstanceHandle := do
  let h ← deployWorld c recipe name
  wrapping .registration (.registrationFailed name h)
    (registerParts c h (.list components) (.list systems))
  return h

end Work

end WorldForge
