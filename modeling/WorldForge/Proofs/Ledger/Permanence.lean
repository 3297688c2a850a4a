import WorldForge.Proofs.Ledger.History
import WorldForge.Proofs.Ledger.Site

/-!
# Handles are given out once, and death is for good

An allocator counts: the handle that it gives out next has the number after the last one, and
nothing takes the count back. So a handle whose number has been passed and which is not alive stays
so, whatever is allocated and given back later (`Allocator.Spent`).

A ledger moves its allocator only by allocating and giving back. Hence what holds of every history
of an allocator holds of the handles of every history of a ledger. No question to the ledger finds
a handle that is spent, and no call on the ledger takes it for alive (`Scene.Gone`).

Main results:

* `Allocator.numbers_handedOut`, `Scene.numbers_handedOut` — the numbers of the handles that are
  given out follow each other without a gap;
* `Allocator.spent_after` — a dead handle stays dead;
* `Allocator.permanent` — both hold from the start, whichever number an allocator counts from;
* `Scene.gone_after` — a handle that has died on a ledger is gone in every later state of it.
-/

namespace WorldForge

/-! ## Allocators -/

/-- A handle is plain if its number was given as one, and not as a truth value. -/
def InstanceHandle.Plain (h : InstanceHandle) : Prop := h = .ofInt h.number

/-- Some numbers that follow each other, from the given one on. -/
def numbersFrom (first : Int) (count : Nat) : List Int :=
  (List.range count).map fun n : Nat => first + n

/-- The numbers from one on are this number and those from the next one on. -/
theorem numbersFrom_succ (first : Int) (count : Nat) :
    numbersFrom first (count + 1) = first :: numbersFrom (first + 1) count := by
  rw [numbersFrom, numbersFrom, List.range_succ_eq_map, List.map_cons, List.map_map]
  have hShift : ∀ n : Nat, first + (n + 1 : Nat) = first + 1 + n := by
    intro n
    omega
  congr 1
  · exact Int.add_zero first
  · exact List.map_congr_left fun n _ => hShift n

/-- A number is among as many from one on exactly if it lies between the two ends. -/
theorem mem_numbersFrom {first n : Int} {count : Nat} :
    n ∈ numbersFrom first count ↔ first ≤ n ∧ n < first + count := by
  rw [numbersFrom, List.mem_map]
  constructor
  · rintro ⟨m, hm, rfl⟩
    have hBound := List.mem_range.1 hm
    omega
  · rintro ⟨hFirst, hLast⟩
    exact ⟨(n - first).toNat, List.mem_range.2 (by omega), by omega⟩

namespace Allocator

/-- What can be asked of an allocator. -/
inductive Move where
  | allocate
  | deallocate (k : Key)

/-- The allocator after a move. A handle that is not alive is not given back. -/
def perform (a : Allocator) : Move → Allocator
  | .allocate => a.allocate.2
  | .deallocate k => (a.deallocate? k).getD a

/-- The handle that a move gives out, if it gives one. -/
def handsOut? (a : Allocator) : Move → Option InstanceHandle
  | .allocate => some a.allocate.1
  | .deallocate _ => none

/-- The allocator after several moves. -/
def after (a : Allocator) (moves : List Move) : Allocator := moves.foldl perform a

/-- The handles that moves give out, in the order of the moves. -/
def handedOut (a : Allocator) : List Move → List InstanceHandle
  | [] => []
  | m :: rest => (a.handsOut? m).toList ++ (a.perform m).handedOut rest

/-- A handle is spent: allocation has passed its number, and it is not alive. -/
structure Spent (a : Allocator) (h : InstanceHandle) : Prop where
  below : h.number < a.next.toInt
  dead : h.key ∉ a.keys

variable {a : Allocator} {h x : InstanceHandle} {k j : Key} {m : Move} {moves more : List Move}

@[simp] theorem after_cons : a.after (m :: moves) = (a.perform m).after moves := rfl

@[simp] theorem after_append : a.after (moves ++ more) = (a.after moves).after more :=
  List.foldl_append

/-- What is handed out in two stretches of moves is what is handed out in the one and then in the
other. -/
theorem handedOut_append :
    a.handedOut (moves ++ more) = a.handedOut moves ++ (a.after moves).handedOut more := by
  induction moves generalizing a with
  | nil => rfl
  | cons m rest ih => rw [List.cons_append, handedOut, handedOut, ih, List.append_assoc, after_cons]

/-- Giving back, or being refused to, leaves the count as it is. -/
theorem next_perform_deallocate (a : Allocator) (k : Key) :
    (a.perform (.deallocate k)).next = a.next := by
  rw [perform]
  cases hDead : a.deallocate? k with
  | none => rfl
  | some b =>
    obtain ⟨-, rfl⟩ := deallocate?_eq_some_iff.1 hDead
    rfl

/-- No handle comes alive by giving one back. -/
theorem mem_keys_of_perform_deallocate (h : j ∈ (a.perform (.deallocate k)).keys) : j ∈ a.keys := by
  rw [perform] at h
  cases hDead : a.deallocate? k with
  | none =>
    rw [hDead] at h
    exact h
  | some b =>
    obtain ⟨-, rfl⟩ := deallocate?_eq_some_iff.1 hDead
    rw [hDead] at h
    obtain ⟨x, hMem, rfl⟩ := List.mem_map.1 h
    exact List.mem_map_of_mem (List.mem_filter.1 hMem).1

theorem handedOut_allocate (a : Allocator) (rest : List Move) :
    a.handedOut (.allocate :: rest) = a.fresh :: (a.perform .allocate).handedOut rest := rfl

theorem handedOut_deallocate (a : Allocator) (k : Key) (rest : List Move) :
    a.handedOut (.deallocate k :: rest) = (a.perform (.deallocate k)).handedOut rest := rfl

theorem next_perform_allocate (a : Allocator) :
    (a.perform .allocate).next.toInt = a.next.toInt + 1 := rfl

/-- **Handles are given out one after the other**, without a gap and without going back. -/
theorem numbers_handedOut (a : Allocator) (moves : List Move) :
    (a.handedOut moves).map InstanceHandle.number =
      numbersFrom a.next.toInt (a.handedOut moves).length := by
  induction moves generalizing a with
  | nil => rfl
  | cons m rest ih =>
    cases m with
    -- the first number is the count itself, and the others follow the next one
    | allocate =>
      rw [handedOut_allocate, List.map_cons, ih, List.length_cons, numbersFrom_succ,
        next_perform_allocate]
      rfl
    | deallocate k => rw [handedOut_deallocate, ih, next_perform_deallocate]

/-- The count has passed exactly the handles that were given out. -/
theorem next_after (a : Allocator) (moves : List Move) :
    (a.after moves).next.toInt = a.next.toInt + (a.handedOut moves).length := by
  induction moves generalizing a with
  | nil => exact (Int.add_zero _).symm
  | cons m rest ih =>
    rw [after_cons, ih]
    cases m with
    | allocate =>
      rw [handedOut_allocate, List.length_cons, next_perform_allocate]
      omega
    | deallocate k => rw [handedOut_deallocate, next_perform_deallocate]

/-- Whoever counts from a number goes on with numbers. -/
theorem plain_after (h : a.fresh.Plain) (moves : List Move) : (a.after moves).fresh.Plain := by
  induction moves generalizing a with
  | nil => exact h
  | cons m rest ih =>
    cases m with
    | allocate => exact ih rfl
    | deallocate k =>
      refine ih ?_
      rw [fresh, next_perform_deallocate]
      exact h

/-- What has been given out lies below the count. -/
theorem below_of_mem_handedOut (hMem : h ∈ a.handedOut moves) :
    h.number < (a.after moves).next.toInt := by
  have hNumber := List.mem_map_of_mem (f := InstanceHandle.number) hMem
  rw [numbers_handedOut, mem_numbersFrom] at hNumber
  rw [next_after]
  exact hNumber.2

/-- A spent handle is not the one that comes next. -/
theorem Spent.ne_fresh (hSpent : a.Spent h) : h.key ≠ a.fresh.key := by
  intro hKey
  have hNumber := InstanceHandle.number_of_key hKey
  have hFresh : a.fresh.number = a.next.toInt := rfl
  have hBelow := hSpent.below
  omega

/-- A handle that is spent stays so by a move: it is not handed out again, since the count lies
above its number. -/
theorem Spent.perform (hSpent : a.Spent h) (m : Move) : (a.perform m).Spent h := by
  have hBelow := hSpent.below
  -- what has been handed out is below the next number, and this only grows
  cases m with
  | allocate =>
    refine ⟨?_, fun hAlive => ?_⟩
    · show h.number < a.next.toInt + 1
      omega
    · rcases mem_keys_allocate.1 hAlive with hOld | hNew
      · exact hSpent.dead hOld
      · exact hSpent.ne_fresh hNew
  | deallocate k =>
    refine ⟨?_, fun hAlive => hSpent.dead (mem_keys_of_perform_deallocate hAlive)⟩
    rw [next_perform_deallocate]
    exact hBelow

/-- **A dead handle stays dead**, whatever is allocated and given back. -/
theorem spent_after (hSpent : a.Spent h) (moves : List Move) : (a.after moves).Spent h := by
  induction moves generalizing a with
  | nil => exact hSpent
  | cons m rest ih => exact ih (hSpent.perform m)

/-- No live handle is found by the key of one that is spent. -/
theorem Spent.isAlive (hSpent : a.Spent h) : a.isAlive h.key = false := by
  rw [← Bool.not_eq_true, isAlive_iff]
  exact hSpent.dead

/-- A handle that is spent cannot be given back once more. -/
theorem Spent.deallocate? (hSpent : a.Spent h) : a.deallocate? h.key = none := by
  rw [Allocator.deallocate?, hSpent.isAlive]
  rfl

/-- A spent handle is none of those alive, nor one that differs only in how its number was given. -/
theorem Spent.number_ne (hSpent : a.Spent h) (hMem : x ∈ a.alive) : x.number ≠ h.number := by
  intro hNumber
  refine hSpent.dead (List.mem_map.2 ⟨x, hMem, ?_⟩)
  rw [InstanceHandle.key, InstanceHandle.key, hNumber]

/-- **An allocator that counts from a number on never gives out a handle twice**, and a handle that
has died stays dead, whatever is done with the allocator. -/
structure Permanent (first : Numeral) : Prop where
  numbers : ∀ moves, ((startingAt first).handedOut moves).map InstanceHandle.number =
    numbersFrom first.toInt ((startingAt first).handedOut moves).length
  gone : ∀ moves more h, h ∈ (startingAt first).handedOut moves →
    ((startingAt first).after moves).isAlive h.key = false →
      ((startingAt first).after (moves ++ more)).isAlive h.key = false ∧
        ((startingAt first).after (moves ++ more)).deallocate? h.key = none ∧
        ∀ x ∈ ((startingAt first).after (moves ++ more)).alive, x.number ≠ h.number

/-- **The handles of an allocator are permanent**, whatever number it begins with: they come in one
row without a gap, and none of them is alive twice. -/
theorem permanent (first : Numeral) : Permanent first where
  numbers moves := numbers_handedOut (startingAt first) moves
  gone := by
    intro moves more h hMem hDead
    have hSpent : ((startingAt first).after moves).Spent h := by
      refine ⟨below_of_mem_handedOut hMem, fun hAlive => ?_⟩
      rw [isAlive_iff.2 hAlive] at hDead
      cases hDead
    have hLater := spent_after hSpent more
    rw [← after_append] at hLater
    exact ⟨hLater.isAlive, hLater.deallocate?, fun x hx => hLater.number_ne hx⟩

end Allocator

/-! ## Ledgers -/

namespace Scene

variable {s s' : Scene} {m : Move} {moves more : List Move} {out handed : List InstanceHandle}
  {c : Catalog} {h : InstanceHandle}

/-- **A move on a ledger moves its allocator by allocating and giving back**, and gives out the
handles that are allocated. -/
theorem Effect.allocator (h : s.Effect m s' out) :
    ∃ moves : List Allocator.Move, s.ledger.allocator.after moves = s'.ledger.allocator ∧
      s.ledger.allocator.handedOut moves = out := by
  cases h with
  | refused => exact ⟨[], rfl, rfl⟩
  | declared => exact ⟨[], rfl, rfl⟩
  | @deployed given args p x l hDeploy =>
    rw [Ledger.fresh_of_deploy hDeploy]
    exact ⟨[.allocate], (Ledger.allocator_of_deploy hDeploy).symm, rfl⟩
  -- only these two kinds of moves go to the allocator, one call each
  | @destroyed given l hDestroy =>
    obtain ⟨hAlive, rfl⟩ := Ledger.destroy_eq_ok hDestroy
    refine ⟨[.deallocate given.key], ?_, rfl⟩
    show ((s.ledger.allocator.deallocate? given.key).getD s.ledger.allocator) = _
    rw [Allocator.deallocate?_eq_some_iff.2 ⟨hAlive, rfl⟩]
    rfl
  | registered hRegister =>
    obtain ⟨w, w', -, -, rfl⟩ := Ledger.register_eq_ok hRegister
    exact ⟨[], (Ledger.allocator_putWorld ..).symm, rfl⟩
  | deregistered hDeregister =>
    obtain ⟨w, w', -, -, rfl⟩ := Ledger.deregister_eq_ok hDeregister
    exact ⟨[], (Ledger.allocator_putWorld ..).symm, rfl⟩

/-- What a history of a ledger does to its allocator is a history of the allocator, with the same
handles given out. -/
theorem exists_allocator_history (s : Scene) (moves : List Move) :
    ∃ steps : List Allocator.Move,
      s.ledger.allocator.after steps = (s.after moves).ledger.allocator ∧
        s.ledger.allocator.handedOut steps = s.handedOut moves := by
  induction moves generalizing s with
  | nil => exact ⟨[], rfl, rfl⟩
  | cons m rest ih =>
    obtain ⟨first, hFirst, hOut⟩ := (s.effect m).allocator
    obtain ⟨later, hLater, hMore⟩ := ih (s.perform m)
    refine ⟨first ++ later, ?_, ?_⟩
    · rw [Allocator.after_append, hFirst, hLater, after_cons]
    · rw [Allocator.handedOut_append, hFirst, hOut, hMore, handedOut]

/-- **The handles of a ledger are given out one after the other**, without a gap. -/
theorem numbers_handedOut (s : Scene) (moves : List Move) :
    (s.handedOut moves).map InstanceHandle.number =
      numbersFrom s.ledger.allocator.next.toInt (s.handedOut moves).length := by
  obtain ⟨steps, -, hOut⟩ := s.exists_allocator_history moves
  rw [← hOut]
  exact Allocator.numbers_handedOut ..

/-- In a scene, too, the count moves on by one for each handle that is handed out. Declarations,
registrations and destructions leave it alone. -/
theorem next_after (s : Scene) (moves : List Move) :
    (s.after moves).ledger.allocator.next.toInt =
      s.ledger.allocator.next.toInt + (s.handedOut moves).length := by
  obtain ⟨steps, hAfter, hOut⟩ := s.exists_allocator_history moves
  rw [← hAfter, ← hOut]
  exact Allocator.next_after ..

/-- A ledger goes on counting upwards. -/
theorem LeadsTo.next_le {s s' : Scene} (h : s.LeadsTo s') :
    s.ledger.allocator.next.toInt ≤ s'.ledger.allocator.next.toInt := by
  obtain ⟨moves, rfl⟩ := h
  rw [next_after]
  omega

/-- If the next handle is plain, then so is the next one at any later time. All handles that are
given out in between are plain then. -/
theorem LeadsTo.plain {s s' : Scene} (h : s.LeadsTo s') (hPlain : s.ledger.allocator.fresh.Plain) :
    s'.ledger.allocator.fresh.Plain := by
  obtain ⟨moves, rfl⟩ := h
  obtain ⟨steps, hAfter, -⟩ := s.exists_allocator_history moves
  rw [← hAfter]
  exact Allocator.plain_after hPlain steps

/-- **A handle is gone**: nothing that is asked of the ledger finds it, and a call that takes it for
alive is refused, unless a planned fault comes first. -/
structure Gone (s : Scene) (h : InstanceHandle) : Prop where
  notAlive : s.ledger.isAlive h = false
  notListed : ∀ x ∈ s.ledger.allocator.alive, x.number ≠ h.number
  notWorld : ∀ w ∈ s.ledger.worlds.values, w.handle.number ≠ h.number
  templateOf : s.ledger.templateOf h = .error (.noInstance h)
  dispatcher : ∀ site : Site, site.ledger = s.ledger →
    (Fault.meet .dispatcher site.faults).1 = none →
      Site.dispatcher h site = .error (.ledger (.noWorld h)) (site.met .dispatcher)
  destroy : ∀ site : Site, site.ledger = s.ledger → (Fault.meet .destroy site.faults).1 = none →
    Site.destroy h site = .error (.ledger (.noInstance h)) (site.met .destroy)
  executor : ∀ (template name : Value) (d : Declaration), s.catalog.get? template = some d →
    d.isOf .world = true → ∀ site : Site, site.ledger = s.ledger →
      (Fault.meet .deploy site.faults).1 = none →
        ∃ e, Site.deploy s.catalog template (Argument.values [name, h]) site =
          .error (.ledger e) (site.met .deploy) ∧
          e.kind = .deployRejected

/-- No world is deployed on an executor whose handle is spent. -/
theorem exists_error_of_spent (hSpent : s.ledger.allocator.Spent h) (template name : Value) :
    ∃ e, s.ledger.deploy s.catalog template (Argument.values [name, h]) = .error e ∧
      e.kind = .deployRejected := by
  cases hDeploy : s.ledger.deploy s.catalog template (Argument.values [name, h]) with
  | ok deployed =>
    obtain ⟨⟨p, x⟩, l⟩ := deployed
    obtain ⟨hPlan, -⟩ := Ledger.deploy_eq_ok hDeploy
    -- a deployment that is accepted has a live executor
    obtain ⟨-, -, -, hAlive⟩ := Ledger.plan_eq_ok_iff.1 hPlan
    rw [hSpent.isAlive] at hAlive
    cases hAlive
  | error e => exact ⟨e, rfl, (Ledger.told_of_deploy_error hDeploy).2⟩

/-- On a sound ledger a spent handle is gone. -/
theorem gone_of_spent (hs : Ledger.Sound s.catalog s.ledger handed)
    (hSpent : s.ledger.allocator.Spent h) : s.Gone h := by
  have hKey : (Value.handle h).key = h.key := Value.key_handle h
  -- a sound ledger keeps neither a template nor a world at a handle that is not alive
  have hTemplate : s.ledger.templates.find? h.key = none := by
    rw [Table.find?_eq_none_iff, hs.templates]
    exact hSpent.dead
  have hWorld : s.ledger.worlds.find? h.key = none := by
    rw [Table.find?_eq_none_iff]
    exact fun hMem => hSpent.dead (hs.worlds_alive _ hMem)
  have hTemplateOf : s.ledger.templateOf h = .error (.noInstance h) := by
    rw [Ledger.templateOf, hKey, hTemplate]
  have hDispatcher : s.ledger.dispatcher h = .error (.noWorld h) := by
    rw [Ledger.dispatcher, Ledger.liveWorld?, hKey, hWorld]
  have hDestroy : s.ledger.destroy h = .error (.noInstance h) := by
    rw [Ledger.destroy, hKey, hSpent.deallocate?]
  exact
    { notAlive := by rw [Ledger.isAlive, hKey, hSpent.isAlive]
      notListed := fun x hMem => hSpent.number_ne hMem
      notWorld := by
        intro w hMem hNumber
        obtain ⟨j, hFind⟩ := Table.mem_values_iff.1 hMem
        have hSame : w.handle.key = h.key := by
          rw [InstanceHandle.key, InstanceHandle.key, hNumber]
        rw [← (hs.worlds hFind).1, hSame, hWorld] at hFind
        cases hFind
      templateOf := hTemplateOf
      dispatcher := by
        intro site hLedger hMeet
        refine Site.callBy_of_refused hMeet rfl ?_
        rw [hLedger, hDispatcher]
        rfl
      destroy := by
        intro site hLedger hMeet
        refine bind_of_error (Site.callBy_of_refused hMeet rfl ?_)
        rw [hLedger, hDestroy]
      executor := by
        intro template name d hGet hKind site hLedger hMeet
        have hFlaw : s.catalog.deploymentFlaw? template = none :=
          Catalog.deploymentFlaw?_of_kind (hs.catalog.strays _) hGet (Declaration.isOf_iff.1 hKind)
        -- the template has no flaw, so that it is the ledger that refuses
        obtain ⟨e, hDeploy, hRejected⟩ := exists_error_of_spent hSpent template name
        refine ⟨e, ?_, hRejected⟩
        rw [Site.deploy, hFlaw]
        refine bind_of_error (Site.callBy_of_refused hMeet (hs.catalog.fixed hGet) ?_)
        rw [hLedger, hDeploy] }

/-- **A handle that has died on a ledger is gone in every later state of it.** -/
theorem gone_after (hReached : Ledger.Reached s.catalog s.ledger handed) (hHanded : h ∈ handed)
    (hDead : s.ledger.isAlive h = false) (moves : List Move) : (s.after moves).Gone h := by
  have hSpent : s.ledger.allocator.Spent h := by
    refine ⟨hReached.sound.below h hHanded, fun hMem => ?_⟩
    rw [Ledger.isAlive, Value.key_handle, Allocator.isAlive_iff.2 hMem] at hDead
    cases hDead
  obtain ⟨steps, hAfter, -⟩ := s.exists_allocator_history moves
  refine gone_of_spent (reached_after hReached moves).sound ?_
  rw [← hAfter]
  exact Allocator.spent_after hSpent steps

end Scene

end WorldForge
