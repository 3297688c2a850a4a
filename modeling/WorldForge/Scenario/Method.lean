import WorldForge.Identity

/-!
# The calls of objects

Every call that a scenario can make on an object, by the name it goes by there. Objects of
different kinds share a name where they share a meaning.
-/

namespace WorldForge.Scenario

/-- The calls that objects answer. -/
inductive Method where
  | declare
  | get
  | isDeclared
  | len
  | allocate
  | deallocate
  | isAlive
  | alive
  | deploy
  | destroy
  | dispatcher
  | templateOf
  | liveInstances
  | worlds
  | catalog
  | register (k : PartKind)
  | resolve (k : PartKind)
  | deregister (k : PartKind)
  | parts (k : PartKind)
  | emit
  | events
  | ofType
  | clear
  | charge
  | limit
  | used
  | remaining
  | isMetered
  | isSetUp
  | setUp
  | snapshot
  | setExecutor
  | setTemplate
  | getExecutor
  | getTemplate
  | stage
  | pending
  | commit
  | rollback
  | executor
  | worldTemplate
  | spawn
  | spawnRequest
  | registerAll
  | dump
  deriving DecidableEq

namespace Method

def label : Method → String
  | declare => "declare"
  | get => "get"
  | isDeclared => "is_declared"
  | len => "len"
  | allocate => "allocate"
  | deallocate => "deallocate"
  | isAlive => "is_alive"
  | alive => "alive"
  | deploy => "deploy"
  | destroy => "destroy"
  | dispatcher => "dispatcher"
  | templateOf => "template_of"
  | liveInstances => "live_instances"
  | worlds => "worlds"
  | catalog => "catalog"
  | register k => "register_" ++ k.noun
  | resolve k => "resolve_" ++ k.noun
  | deregister k => "deregister_" ++ k.noun
  | parts k => k.noun ++ "s"
  | emit => "emit"
  | events => "events"
  | ofType => "of_type"
  | clear => "clear"
  | charge => "charge"
  | limit => "limit"
  | used => "used"
  | remaining => "remaining"
  | isMetered => "is_metered"
  | isSetUp => "initialized"
  | setUp => "initialize"
  | snapshot => "snapshot"
  | setExecutor => "set_executor"
  | setTemplate => "set_world_template"
  | getExecutor => "get_executor"
  | getTemplate => "get_world_template"
  | stage => "stage"
  | pending => "pending"
  | commit => "commit"
  | rollback => "rollback"
  | executor => "executor"
  | worldTemplate => "world_template"
  | spawn => "spawn"
  | spawnRequest => "spawn_request"
  | registerAll => "register_all"
  | dump => "dump"

def all : List Method :=
  [declare, get, isDeclared, len, allocate, deallocate, isAlive, alive, deploy, destroy, dispatcher,
   templateOf, liveInstances, worlds, catalog, register .component, register .system,
   resolve .component, resolve .system, deregister .component, deregister .system,
   parts .component, parts .system, emit, events, ofType, clear, charge, limit, used, remaining,
   isMetered, isSetUp, setUp, snapshot, setExecutor, setTemplate, getExecutor, getTemplate, stage,
   pending, commit, rollback, executor, worldTemplate, spawn, spawnRequest, registerAll, dump]

/-- The call with a given name. -/
def ofLabel? (s : String) : Option Method := all.find? fun m => m.label = s

end Method

end WorldForge.Scenario
