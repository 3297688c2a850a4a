import WorldForge.Proofs.Ledger.Coherence
import WorldForge.Proofs.Ledger.Permanence
import WorldForge.Proofs.Realm.Histories
import WorldForge.Proofs.Scenario.Changes

/-!
# Ledgers in a session

In every state of a session, each ledger has a history of moves. Calls that are made on the ledger
itself are among its moves, and so is what the operations of factories have done there and undone
again, wherever they were called from. So what holds of all histories of a ledger holds in all
states of a session, and what a history settles for good stays settled in all later states.

A ledger deploys from a catalog that was there when the ledger was made. Of the two objects the
catalog has the lower number.

Main results:

* `ledger_coherent` — what a ledger answers fits together, and the executor of a live world was a
  live executor, and never is a world;
* `handles_spent_once` — handles are given out in ascending order, and a dead one stays dead.
-/

namespace WorldForge

/-! ## Histories of a state -/

namespace Scenario

variable {r r' : Realm Code} {j i : Nat}

theorem lawful_of_later (h : Later .empty r) : r.Lawful :=
  h.holds Realm.stable_lawful Realm.lawful_empty

/-- **Later states go on with the history of a ledger.** -/
theorem goesOn_of_later (hLawful : r.Lawful) (hOwn : (r.ledger j).catalog = .object .catalog i)
    (hOlder : i < j) (h : Later r r') : r.GoesOn j i r' :=
  (h.holds (Realm.stable_goesOn r hOlder) ⟨hLawful, hOwn, .refl _⟩).2

end Scenario

namespace Scene

variable {c : Catalog} {moves more : List Move} {w : World} {x : InstanceHandle}

/-- **A world has been founded** in a history: there was a time at which it was deployed on a live
executor, and at no time was its executor a world, live or destroyed. -/
structure Founded (c : Catalog) (moves : List Move) (w : World) : Prop where
  deployed : ∃ before rest,
    moves = before ++ .deploy w.template [.str w.name, .handle w.executor] :: rest ∧
      ((opening c).after before).Ready w
  executor : ∀ before rest, moves = before ++ rest →
    ((opening c).after before).ledger.world? w.executor = none

/-- **A world that is known after a history was deployed in it**: some move of the history has
founded it, and the rest of them has changed its rosters at most. -/
theorem founded_of_known (hCatalog : c.Reached)
    (hKnown : ((opening c).after moves).ledger.world? x = some w) : Founded c moves w where
  deployed := exists_deployment hCatalog moves hKnown
  executor before rest hSplit := by
    have hAll : moves ++ [] = before ++ rest := by rw [List.append_nil, hSplit]
    exact executor_not_known hCatalog hKnown hAll

end Scene

namespace Scenario

variable {r r' : Realm Code} {j i : Nat}

/-! ## A small session

Theorems on sessions are seen at work in one with a catalog, a ledger, a sink and a factory. At the
first event that the sink is told of, it deploys a second executor, and then it raises an error. So
of two spawns the first one is undone; and then the first executor is destroyed. -/

namespace Rehearsal

/-- A step that calls an object by its name, and may give its result one. -/
def calling (on : String) (m : Method) (args : List Arg) (result : Option String) : Step :=
  .mk (.call m) ⟨args, some on, none⟩ result false

def world : Arg := .value (.template (.ofInt 1))

def engine : Arg := .value (.template (.ofInt 2))

/-- The ledger is object 1: its catalog, object 0, comes with it. -/
def opening : Step := .mk (.create (.ledger [])) ⟨[], none, none⟩ (some "ledger") false

/-- What the sink does at the first event. -/
def reaction : Reaction Code :=
  ⟨some [calling "ledger" .deploy [engine, .list []] none], some (.badState, "deaf")⟩

def steps : Code :=
  [calling "ledger" .declare [.value (.str "arena"), .value (.kind .world), world] none,
   calling "ledger" .declare [.value (.str "engine"), .value (.kind .executor), engine] none,
   calling "ledger" .deploy [engine, .list []] (some "engine"),
   .mk (.createScripted [some reaction]) ⟨[], none, none⟩ (some "sink") false,
   .mk (.create .factory) ⟨[.name "ledger", .name "sink"], none, none⟩ (some "factory") false,
   calling "factory" .setUp [world, .name "engine"] none,
   calling "factory" .spawn [.value (.str "pit")] none,
   calling "factory" .spawn [.value (.str "pit")] none,
   calling "ledger" .destroy [.name "engine"] none]

/-- The realm when the ledger has been made. -/
def opened : Realm Code := (ends (opening.run (runCode 3)) .empty).2

/-- The realm at the end. -/
def closed : Realm Code := steps.foldl (fun r s => (ends (s.run (runCode 3)) r).2) opened

/-- The realm with a ledger in it is a state of a session, after its first step. -/
theorem later_opened : Later .empty opened := Later.here.step 3 opening

/-- The realm in the end is a state of the same session. -/
theorem later_closed : Later .empty closed := later_opened.trans (later_foldl 3 steps opened)

/-- The ledger in the end still deploys from the catalog that was made with it. -/
theorem catalog_closed : (closed.ledger 1).catalog = .object .catalog 0 := by
  have hOwn : (opened.ledger 1).catalog = .object .catalog 0 := rfl
  exact (goesOn_of_later (lawful_of_later later_opened) hOwn Nat.zero_lt_one
    (later_foldl 3 steps opened)).catalog

end Rehearsal

/-! ## Coherence -/

/-- **In every state of a session a ledger is coherent**, and has a history. In whichever history
leads to the state, each live world has been founded; and in no later state is there a world, live
or destroyed, at the handle of its executor. -/
theorem ledger_coherent (hLater : Later .empty r)
    (hOwn : (r.ledger j).catalog = .object .catalog i) (hOlder : i < j) :
    Ledger.Coherent (r.catalog i) (r.ledger j).ledger ∧
    (∃ c moves, c.Reached ∧ (Scene.opening c).after moves = r.scene j) ∧
    ∀ v w, (r.ledger j).ledger.dispatcher v = .ok w →
      (∀ c moves, c.Reached → (Scene.opening c).after moves = r.scene j →
        Scene.Founded c moves w) ∧
      ∀ r', Later r r' → (r'.ledger j).ledger.world? w.executor = none := by
  have hLawful := lawful_of_later hLater
  obtain ⟨c₀, moves₀, hReached₀, hHistory₀⟩ := hLawful.histories j i hOwn hOlder
  have hScene := Realm.scene_of_catalog hOwn
  have hReached := Scene.reached_of_opening hReached₀ moves₀
  rw [hHistory₀, hScene] at hReached
  refine ⟨hReached.coherent, ⟨c₀, moves₀, hReached₀, hHistory₀⟩, fun v w hWorld => ?_⟩
  -- a live world is a known one
  have hFind := Ledger.dispatcher_eq_ok_iff.1 hWorld
  have hHandle := (hReached.sound.worlds hFind).1
  have hKnown : (r.scene j).ledger.world? w.handle = some w :=
    Ledger.world?_of_find? (by rw [hHandle]; exact hFind)
  refine ⟨fun c moves hCatalog hHistory => ?_, fun r' hLater' => ?_⟩
  · rw [← hHistory] at hKnown
    exact Scene.founded_of_known hCatalog hKnown
  · obtain ⟨more, hMore⟩ := (goesOn_of_later hLawful hOwn hOlder hLater').leads
    rw [← hHistory₀] at hKnown hMore
    rw [← Scene.after_append] at hMore
    have hAll : moves₀ ++ more = (moves₀ ++ more) ++ [] := (List.append_nil _).symm
    have hNone := Scene.executor_not_known hReached₀ hKnown hAll
    rw [hMore] at hNone
    exact hNone

/-- At the end of the small session one world is alive, and its executor has been destroyed. -/
theorem ledger_coherent_rehearsal :
    Ledger.Coherent (Rehearsal.closed.catalog 0) (Rehearsal.closed.ledger 1).ledger ∧
    ∃ w, (Rehearsal.closed.ledger 1).ledger.dispatcher (.handle (.ofInt 0x1003)) = .ok w ∧
      (Rehearsal.closed.ledger 1).ledger.isAlive w.executor = false ∧
      ∀ r', Later Rehearsal.closed r' → (r'.ledger 1).ledger.world? w.executor = none := by
  obtain ⟨hCoherent, -, hWorlds⟩ :=
    ledger_coherent Rehearsal.later_closed Rehearsal.catalog_closed Nat.zero_lt_one
  refine ⟨hCoherent, ?_⟩
  have hLone : (match (Rehearsal.closed.ledger 1).ledger.dispatcher (.handle (.ofInt 0x1003)) with
      | .ok w => (Rehearsal.closed.ledger 1).ledger.isAlive w.executor
      | .error _ => true) = false := by decide +kernel
  -- if the world were not known, the computation above would have come out otherwise
  cases hWorld : (Rehearsal.closed.ledger 1).ledger.dispatcher (.handle (.ofInt 0x1003)) with
  | error e =>
    rw [hWorld] at hLone
    cases hLone
  | ok w =>
    rw [hWorld] at hLone
    exact ⟨w, rfl, hLone, (hWorlds _ w hWorld).2⟩

/-! ## Handles -/

/-- **The handles that a ledger has given out** in a state of a session, oldest first. -/
structure Numbered (r : Realm Code) (j : Nat) (handed : List InstanceHandle) : Prop where
  numbers : handed.map InstanceHandle.number = numbersFrom Allocator.firstHandle handed.length
  /-- The next deployment that is accepted gives the next number. -/
  next : ∀ given args x s, Site.deploy (r.catalogFor j) given args (r.site j) = .ok x s →
    x.number = Allocator.firstHandle + handed.length
  /-- A handle that is dead by now is gone for good. -/
  gone : ∀ x ∈ handed, (r.ledger j).ledger.isAlive x = false →
    ∀ r', Later r r' → (r'.scene j).Gone x

/-- A deployment that is accepted gives the next handle. -/
theorem handle_of_deploy {c : Catalog} {given : Value} {args : List Argument} {s s' : Site}
    {x : InstanceHandle} (h : Site.deploy c given args s = .ok x s') :
    x = s.ledger.allocator.fresh := by
  obtain ⟨-, -, -, p, l, hDeploy, -⟩ := Site.deploy_eq_ok_iff.1 h
  exact Ledger.fresh_of_deploy hDeploy

/-- **Handles are given out in ascending order, and a dead one stays dead**, on every ledger of a
session and in every allocator, from whichever number on it counts. -/
theorem handles_spent_once (hLater : Later .empty r)
    (hOwn : (r.ledger j).catalog = .object .catalog i) (hOlder : i < j) :
    (∃ c moves, c.Reached ∧ (Scene.opening c).after moves = r.scene j) ∧
    (∀ c moves, c.Reached → (Scene.opening c).after moves = r.scene j →
      Numbered r j ((Scene.opening c).handedOut moves)) ∧
    ∀ first, Allocator.Permanent first := by
  have hLawful := lawful_of_later hLater
  refine ⟨hLawful.histories j i hOwn hOlder, fun c moves hCatalog hHistory => ?_,
    Allocator.permanent⟩
  refine ⟨Scene.numbers_handedOut _ moves, fun given args x s hDeploy => ?_,
    fun x hMem hDead r' hLater' => ?_⟩
  · rw [handle_of_deploy hDeploy]
    have hNext := Scene.next_after (Scene.opening c) moves
    rw [hHistory] at hNext
    exact hNext
  · have hReached := Scene.reached_of_opening hCatalog moves
    rw [hHistory] at hReached
    -- every later state is reached by more moves of the same history
    obtain ⟨more, hMore⟩ := (goesOn_of_later hLawful hOwn hOlder hLater').leads
    rw [← hMore]
    exact Scene.gone_after hReached hMem hDead more

/-- In the small session a handle has been destroyed by a call, and one by the undoing of a spawn.
Both are gone for good. -/
theorem handles_spent_once_rehearsal :
    (∃ x : InstanceHandle, x.number = 0x1000 ∧
      ∀ r', Later Rehearsal.closed r' → (r'.scene 1).Gone x) ∧
    ∃ x : InstanceHandle, x.number = 0x1001 ∧
      ∀ r', Later Rehearsal.closed r' → (r'.scene 1).Gone x := by
  obtain ⟨⟨c, moves, hCatalog, hHistory⟩, hNumbered, -⟩ :=
    handles_spent_once Rehearsal.later_closed Rehearsal.catalog_closed Nat.zero_lt_one
  have hAll := hNumbered c moves hCatalog hHistory
  -- the count tells how many handles have been given out
  have hFirst : Allocator.firstHandle = 0x1000 := rfl
  have hNext : (Rehearsal.closed.scene 1).ledger.allocator.next.toInt = 0x1004 := by
    decide +kernel
  have hCount : (Rehearsal.closed.scene 1).ledger.allocator.next.toInt =
      Allocator.firstHandle + ((Scene.opening c).handedOut moves).length := by
    rw [← hHistory]
    exact Scene.next_after (Scene.opening c) moves
  have hGone : ∀ n, 0x1000 ≤ n → n < 0x1004 →
      (Rehearsal.closed.ledger 1).ledger.isAlive (.handle (.ofInt n)) = false →
        ∃ x : InstanceHandle, x.number = n ∧
          ∀ r', Later Rehearsal.closed r' → (r'.scene 1).Gone x := by
    intro n hLow hHigh hDead
    have hMem : n ∈ ((Scene.opening c).handedOut moves).map InstanceHandle.number := by
      rw [hAll.numbers, mem_numbersFrom]
      omega
    obtain ⟨x, hx, rfl⟩ := List.mem_map.1 hMem
    exact ⟨x, rfl, hAll.gone x hx hDead⟩
  exact ⟨hGone 0x1000 (by decide) (by decide) (by decide +kernel),
    hGone 0x1001 (by decide) (by decide) (by decide +kernel)⟩

end Scenario

end WorldForge
