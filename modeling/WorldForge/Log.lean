import WorldForge.Error.Basic

/-!
# Log records

What the library reports while it works. Each record has a level, names the part that reports, and
has a message. `LogRecord` lists everything there is to report; the texts are in one place.
-/

namespace WorldForge

/-- How grave a record is. -/
inductive LogLevel where
  | debug
  | info
  | warning
  | error
  deriving DecidableEq

def LogLevel.label : LogLevel → String
  | debug => "DEBUG"
  | info => "INFO"
  | warning => "WARNING"
  | error => "ERROR"

/-- The part of the library that reports. -/
inductive Reporter where
  | ledger
  | factory
  | transaction
  deriving DecidableEq

def Reporter.label : Reporter → String
  | ledger => "worldfactory.ledger.local"
  | factory => "worldfactory.factory.factory"
  | transaction => "worldfactory.factory.transaction"

/-- A call that undoes something, as records show it: what it is called, and its arguments. -/
structure CallText where
  description : Text
  /-- Each argument as it would be written down. -/
  arguments : List String

def CallText.text (c : CallText) : Text := c.description ++ Text.roundList c.arguments

/-- Something to report. -/
inductive LogRecord where
  | executorDeployed (h : InstanceHandle) (template : Value)
  | worldDeployed (name : Text) (h : InstanceHandle) (template : Value)
  | instanceDestroyed (given : Value)
  | partEntered (world : InstanceHandle) (kind : PartKind) (template name : Value)
  | configured (r : Recipe)
  | executorSet (h : InstanceHandle)
  | templateSet (id : TemplateId)
  | worldPrepared (name : Value) (h : InstanceHandle)
  | partRegistered (kind : PartKind) (template : Value) (used : Int)
  | worldSpawned (name : Value) (h : InstanceHandle) (components systems : Nat) (used : Int)
  | journaled (call : CallText)
  | deliveryFailed (actions : Nat) (e : Error)
  | rollingBack (actions : Nat) (e : Error)
  | compensationFailed (call : CallText)

namespace LogRecord

def level : LogRecord → LogLevel
  | executorDeployed .. | worldDeployed .. | instanceDestroyed _ | partEntered ..
  | worldPrepared .. | partRegistered .. | journaled _ => .debug
  | configured _ | executorSet _ | templateSet _ | worldSpawned .. => .info
  | deliveryFailed .. | rollingBack .. => .warning
  | compensationFailed _ => .error

def reporter : LogRecord → Reporter
  | executorDeployed .. | worldDeployed .. | instanceDestroyed _ | partEntered .. => .ledger
  | configured _ | executorSet _ | templateSet _ | worldPrepared .. | partRegistered ..
  | worldSpawned .. => .factory
  | journaled _ | deliveryFailed .. | rollingBack .. | compensationFailed _ => .transaction

def message : LogRecord → Text
  | executorDeployed h template =>
    "Deployed executor " ++ h.text ++ " from " ++ template.plain
  | worldDeployed name h template =>
    "Deployed world " ++ Text.quoted name ++ " at " ++ h.text ++ " from " ++ template.plain
  | instanceDestroyed v => "Destroyed instance " ++ v.plain
  | partEntered world kind template name =>
    world.text ++ " registered " ++ kind.label ++ " " ++ template.plain ++ " as " ++ name.literal
  | configured r =>
    "Factory initialized with world template " ++ r.template.text ++ ", executor "
      ++ r.executor.text
  | executorSet h => "Executor set to " ++ h.text
  | templateSet id => "World template set to " ++ id.text
  | worldPrepared name h => "Deployed world " ++ name.literal ++ " at " ++ h.text
  | partRegistered kind template used =>
    "Registered " ++ kind.label ++ " " ++ template.plain ++ " (" ++ toString used ++ " steps used)"
  | worldSpawned name h components systems used =>
    "Spawned world " ++ name.literal ++ " at " ++ h.text ++ " (" ++ toString components
      ++ " components, " ++ toString systems ++ " systems, " ++ toString used ++ " steps)"
  | journaled call => "Journaled compensation " ++ call.text
  | deliveryFailed actions e =>
    "Delivery failed, rolling back " ++ toString actions ++ " action(s): " ++ e.message
  | rollingBack actions e =>
    "Rolling back " ++ toString actions ++ " action(s) after " ++ e.kind.label
  | compensationFailed call => "Compensation " ++ call.text ++ " failed"

end LogRecord

end WorldForge
