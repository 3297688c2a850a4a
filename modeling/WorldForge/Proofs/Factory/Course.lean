import WorldForge.Proofs.Factory.Spawn
import WorldForge.Proofs.Realm.Histories

/-!
# The course of an operation

Nobody else has a turn while an operation does its work. When the work is done (`Operation.Done`),
the sink is told, in the realm that the work has left; whatever happens from then on is between the
sink and the undoing. `Operation.Course` lists the four ways that an operation can go, for every
sink, whatever it does when it is told, and for all planned faults.

What an operation makes is at most one world, and its handle is the next one of the ledger.

Main results:

* `course` — every operation goes one of the four ways;
* `act_of_told`, `act_of_refused` — once the work is done, the sink alone decides the outcome;
* `course_of_not_done` — an operation whose work is not done tells nobody;
* `enrolled_of_work`, `made_of_work` — what is made stands at the next handle, with all its parts.
-/

namespace WorldForge

variable {κ : Type}

/-- What a new world is to be: its name, and the parts to register in it. -/
structure Order where
  name : Value
  components : List Value
  systems : List Value

/-- The parts in the order in which they are registered. -/
def Order.parts (x : Order) : List Part :=
  x.components.map (Prod.mk .component) ++ x.systems.map (Prod.mk .system)

namespace Operation

variable {run : κ → Act κ Unit} {i j : Nat} {o : Operation} {r r₁ r₂ r' : Realm κ}
  {recipe : Recipe} {c : Catalog} {l : Ledger} {handed : List InstanceHandle} {p : Purse}
  {e : Error} {a : o.Result} {b b' : Workbench} {x : InstanceHandle}

/-! ## What an operation makes -/

/-- The world that an operation is to make, if it is to make one. -/
def order? : Operation → Option Order
  | spawn name components systems _ | request (.request name components systems) _ =>
    some ⟨name, components, systems⟩
  | deploy name => some ⟨name, [], []⟩
  | request .. | registerAll .. => none

/-- The handles of the worlds that an operation gives. -/
def made : (o : Operation) → o.Result → List InstanceHandle
  | spawn .., h | request .., h | deploy _, h => [h]
  | registerAll .., _ => []

/-- The sink is told of what an operation makes, and of nothing else. -/
theorem events_eq (a : o.Result) : o.events a = (o.made a).map .worldCreated := by
  cases o <;> rfl

/-- An operation makes one instance at most, so what it has made is told by any of them. -/
theorem made_eq (hMem : x ∈ o.made a) : o.made a = [x] := by
  cases o with
  | registerAll world components systems budget => cases hMem
  | _ =>
    obtain rfl := List.mem_singleton.1 hMem
    rfl

/-- As an operation makes one instance at most, anything can be said of each two that it makes. -/
theorem pairwise_made (o : Operation) (a : o.Result)
    (R : InstanceHandle → InstanceHandle → Prop) : (o.made a).Pairwise R := by
  cases o with
  | registerAll world components systems budget => exact .nil
  | _ => exact List.pairwise_singleton R _

/-- A value that is no request makes nothing: if it has a name, a world is deployed, but then the
parts are found to be missing. -/
theorem work_ne_ok {given budget : Value} {h : InstanceHandle}
    (hRequest : ¬∃ name components systems, given = .request name components systems) :
    work recipe c (request given budget) b ≠ .ok h b' := by
  rw [work_of_not_request hRequest, misrequest]
  intro hWork
  cases hName : given.name? with
  | none =>
    rw [hName] at hWork
    cases hWork
  -- the deployment may succeed, but then there are no parts to go on with
  | some name =>
    rw [hName] at hWork
    obtain ⟨y, b₁, -, hRest⟩ := bind_eq_ok_iff.1 hWork
    cases hRest

/-- **What is made has been ordered.** It has been deployed, and all its parts have been
registered. -/
theorem enrolled_of_work (h : o.work recipe c b = .ok a b') (hMem : x ∈ o.made a) :
    ∃ order n b₁, o.order? = some order ∧ Work.deployWorld c recipe order.name b = .ok x b₁ ∧
      Work.Enrolled c x order.parts n b₁ b' := by
  have hMade : ∀ {name : Value} {components systems : List Value},
      Work.makeWorld c recipe name components systems b = .ok x b' →
        ∃ n b₁, Work.deployWorld c recipe name b = .ok x b₁ ∧
          Work.Enrolled c x (Order.mk name components systems).parts n b₁ b' := by
    intro name components systems hMake
    obtain ⟨b₁, hDone, hEnrolled⟩ := Work.enrolled_of_makeWorld hMake
    exact ⟨_, b₁, hDone, hEnrolled⟩
  cases o with
  | registerAll world components systems budget => cases hMem
  | spawn name components systems budget =>
    obtain rfl := List.mem_singleton.1 hMem
    obtain ⟨n, b₁, hDone⟩ := hMade h
    exact ⟨_, n, b₁, rfl, hDone⟩
  -- a request stands for the spawn that it asks for, and nothing else makes anything
  | request given budget =>
    obtain rfl := List.mem_singleton.1 hMem
    by_cases hRequest : ∃ name components systems, given = .request name components systems
    · obtain ⟨name, components, systems, rfl⟩ := hRequest
      obtain ⟨n, b₁, hDone⟩ := hMade h
      exact ⟨_, n, b₁, rfl, hDone⟩
    · exact absurd h (work_ne_ok hRequest)
  -- a deployment alone registers no parts
  | deploy name =>
    obtain rfl := List.mem_singleton.1 hMem
    exact ⟨⟨name, [], []⟩, 0, b', rfl, h, .refl c x b'⟩

/-- **What an operation makes stands at the next handle**, and the ledger goes on counting. -/
theorem made_of_work (h : o.work recipe c b = .ok a b') (hMem : x ∈ o.made a) :
    x = b.site.ledger.allocator.fresh ∧
      b'.site.ledger.allocator = b.site.ledger.allocator.allocate.2 := by
  obtain ⟨order, n, b₁, -, hDone, hEnrolled⟩ := enrolled_of_work h hMem
  obtain ⟨text, w, -, -, hLedger⟩ := hEnrolled.made hDone
  exact ⟨(Work.deployWorld_spec hDone).1, by rw [hLedger]; rfl⟩

/-- The work of an operation is paid for, with no more steps than there are parts. -/
theorem exists_paid (o : Operation) (recipe : Recipe) (c : Catalog) (hJournal : b.journal = []) :
    ∃ n ≤ o.size, (ends (o.work recipe c) b).2.purse = b.purse.after n := by
  cases o with
  | spawn name components systems budget =>
    obtain ⟨new?, n, hn, hDone⟩ :=
      Work.accounted_makeWorld hJournal c recipe name components systems
    exact ⟨n, hn, hDone.purse⟩
  | deploy name =>
    obtain ⟨new?, hDone⟩ := Work.accounted_deployWorld hJournal c recipe name
    exact ⟨0, Nat.zero_le _, hDone.purse⟩
  | request given budget =>
    by_cases hRequest : ∃ name components systems, given = .request name components systems
    · obtain ⟨name, components, systems, rfl⟩ := hRequest
      obtain ⟨new?, n, hn, hDone⟩ :=
        Work.accounted_makeWorld hJournal c recipe name components systems
      exact ⟨n, hn, hDone.purse⟩
    · obtain ⟨new?, hDone⟩ := accounted_misrequest recipe c given hJournal
      rw [work_of_not_request hRequest]
      exact ⟨0, Nat.zero_le _, hDone.purse⟩
  | registerAll world components systems budget =>
    change ∃ n ≤ _, (ends (Work.registerParts c world components systems) b).2.purse = _
    cases hFind : b.site.ledger.worlds.find? world.key with
    | none =>
      rw [Work.registerParts_of_none components systems hFind]
      exact ⟨0, Nat.zero_le _, by simp⟩
    -- whichever world stands there, it is the one that the parts are registered in
    | some w =>
      obtain ⟨done, n, hDone, -, hn, -⟩ :=
        Work.enrolls_registerParts_of_find? (c := c) components systems hFind
      exact ⟨n, hn, hDone.purse⟩

/-! ## The four ways -/

/-- **The work of an operation is done.** It was done by the recipe in force, it has come to the
result `a`, and the workbench that it has left is `b`. All that remains is to tell the sink, in the
realm `r₁`. -/
inductive Done (i j : Nat) (recipe : Recipe) (o : Operation) (r : Realm κ) (a : o.Result)
    (b : Workbench) : Realm κ → Prop
  | intro {p : Purse} (hRecipe : (r.factory i).configuration = .holding recipe)
      (hPurse : o.purse (r.factory i) r = .ok p r)
      (hWork : o.work recipe (r.catalogFor j) ⟨r.site j, p, []⟩ = .ok a b) :
      Done i j recipe o r a b ((r.closed j b.site).kept b.purse o.budget)

/-- An operation that has been done has done its work: on the ledger as it found it, with some
purse, and with nothing in its journal at first. -/
theorem Done.work (h : o.Done i j recipe r a b r₁) :
    ∃ p, o.work recipe (r.catalogFor j) ⟨r.site j, p, []⟩ = .ok a b := by
  obtain ⟨-, -, hWork⟩ := h
  exact ⟨_, hWork⟩

/-- **The ways that an operation can go**, with what it gives or raises in the end, and the realm
that it leaves. -/
inductive Course (run : κ → Act κ Unit) (i j : Nat) (o : Operation) (r : Realm κ) :
    Except Error o.Result → Realm κ → Prop
  /-- There is no recipe in force, or nothing to pay with. -/
  | idle {e : Error} : Course run i j o r (.error e) r
  /-- The work fails, and is undone. -/
  | undone {recipe : Recipe} {p : Purse} {e : Error} {b : Workbench} {n : Nat} {r₁ : Realm κ}
      {os : List (Except Error Unit)} {s : Site}
      (hWork : o.work recipe (r.catalogFor j) ⟨r.site j, p, []⟩ = .error e b)
      (hWorked : r.Worked j o.budget n b.site r₁)
      (hUnwound : Unwound Site.report Undo.text Undo.run (r₁.site j) b.journal os s) :
      Course run i j o r (.error (afterRollback (raised os) e))
        ((r₁.appendTrace [.log (.rollingBack b.journal.length e)]).closed j s)
  /-- The work is done, and the sink takes what it is told. -/
  | told {recipe : Recipe} {a : o.Result} {b : Workbench} {r₁ r₂ : Realm κ} {entries : List Entry}
      (hDone : o.Done i j recipe r a b r₁)
      (hTold : Sink.deliver run (r.factory i).sink (o.events a) r₁ = .ok () r₂) :
      Course run i j o r (.ok a) (r₂.appendTrace entries)
  /-- The work is done, but the sink raises an error, and so the work is undone. -/
  | refused {recipe : Recipe} {a : o.Result} {b : Workbench} {e : Error} {r₁ r₂ : Realm κ}
      {os : List (Except Error Unit)} {s : Site} (hDone : o.Done i j recipe r a b r₁)
      (hTold : Sink.deliver run (r.factory i).sink (o.events a) r₁ = .error e r₂)
      (hUnwound : Unwound Site.report Undo.text Undo.run (r₂.site j) b.journal os s) :
      Course run i j o r (.error (afterRollback (raised os) e))
        ((r₂.appendTrace [.log (.deliveryFailed b.journal.length e)]).closed j s)

section Ways

variable (hLedger : (r.factory i).ledger = .object .ledger j)
  (hBudget : o.budget = .null ∨ ∃ k, o.budget = .object .budget k)

/-- Every journal can be unwound. -/
theorem exists_undone (r : Realm κ) (j : Nat) (journal : List Undo) :
    ∃ os s, Unwound Site.report Undo.text Undo.run (r.site j) journal os s :=
  exists_unwound (fun r s => ⟨_, Site.report_eq r s⟩) journal (r.site j)

include hLedger in
/-- That the undoing is reported has no part in it. -/
theorem abandon_reported {α : Type} {os : List (Except Error Unit)} {s : Site}
    {journal : List Undo}
    (hUnwound : Unwound Site.report Undo.text Undo.run (r₁.site j) journal os s) (e : Error)
    (entries : List Entry) :
    (Factory.abandon (r.factory i) journal e : Act κ α) (r₁.appendTrace entries) =
      .error (afterRollback (raised os) e) ((r₁.appendTrace entries).closed j s) :=
  Factory.abandon_of_unwound (r := r₁.appendTrace entries) hLedger hUnwound e

include hBudget in
/-- Work that is done has been paid for by a budget: the one that was handed over, if one was. -/
theorem Done.paid (hDone : o.Done i j recipe r a b r₁) :
    ∃ q n, o.purse (r.factory i) r = .ok (.budget q) r ∧
      (∀ k, o.budget = .object .budget k → q = r.budget k) ∧
      o.work recipe (r.catalogFor j) ⟨r.site j, .budget q, []⟩ = .ok a b ∧ n ≤ o.size ∧
      b.purse = (Purse.budget q).after n := by
  obtain ⟨hRecipe, hPurse, hWork⟩ := hDone
  -- the purse was not refused, so it is the one that has paid
  rcases purse_cases (r.factory i) r hBudget with ⟨e₀, hNone⟩ | ⟨p, hPays, q, rfl, hBudgets⟩
  · rw [hNone] at hPurse
    cases hPurse
  · rw [hPays] at hPurse
    cases hPurse
    obtain ⟨n, hn, hPaid⟩ :=
      exists_paid (b := ⟨r.site j, .budget q, []⟩) o recipe (r.catalogFor j) rfl
    rw [ends_of_ok hWork] at hPaid
    exact ⟨q, n, hPays, hBudgets, hWork, hn, hPaid⟩

include hLedger hBudget in
/-- What pays for work that is done is a budget, and still is one afterwards. -/
theorem act_of_done (hDone : o.Done i j recipe r a b r₁) :
    (∃ q, b.purse = .budget q) ∧ ∀ run : κ → Act κ Unit, o.act run i r =
      (Factory.conclude run (r.factory i) b.journal (.ok a) o.events >>=
        o.farewell b.purse) r₁ := by
  obtain ⟨q, n, hPays, hBudgets, hWork, hn, hPaid⟩ := hDone.paid hBudget
  obtain ⟨hRecipe, -, -⟩ := hDone
  obtain ⟨r₁, -, hSame, hAct⟩ :=
    act_eq hLedger hRecipe hPays ⟨q, rfl, hBudgets⟩ (ends_of_ok hWork) hn hPaid
  obtain rfl := hSame a rfl
  exact ⟨⟨_, hPaid⟩, hAct⟩

include hLedger hBudget in
/-- **If the sink takes what it is told, the operation succeeds.** -/
theorem act_of_told (hDone : o.Done i j recipe r a b r₁)
    (hTold : Sink.deliver run (r.factory i).sink (o.events a) r₁ = .ok () r₂) :
    ∃ entries, o.act run i r = .ok a (r₂.appendTrace entries) := by
  obtain ⟨hPurse, hAct⟩ := act_of_done hLedger hBudget hDone
  obtain ⟨entries, hFarewell⟩ := farewell_eq hPurse hBudget a r₂
  refine ⟨entries, ?_⟩
  rw [hAct, bind_of_ok ((Factory.conclude_eq_ok_iff hLedger).2 ⟨rfl, hTold⟩), hFarewell]

include hLedger hBudget in
/-- **If the sink raises an error, the work is undone**, from the realm that the sink has left. -/
theorem act_of_refused {os : List (Except Error Unit)} {s : Site}
    (hDone : o.Done i j recipe r a b r₁)
    (hTold : Sink.deliver run (r.factory i).sink (o.events a) r₁ = .error e r₂)
    (hUnwound : Unwound Site.report Undo.text Undo.run (r₂.site j) b.journal os s) :
    o.act run i r = .error (afterRollback (raised os) e)
      ((r₂.appendTrace [.log (.deliveryFailed b.journal.length e)]).closed j s) := by
  obtain ⟨-, hAct⟩ := act_of_done hLedger hBudget hDone
  have hConclude : Factory.conclude run (r.factory i) b.journal (.ok a) o.events r₁ =
      .error (afterRollback (raised os) e)
        ((r₂.appendTrace [.log (.deliveryFailed b.journal.length e)]).closed j s) := by
    change (attempt (Sink.deliver run (r.factory i).sink (o.events a)) >>= _) r₁ = _
    rw [bind_of_ok (attempt_eq ..), ends_of_error hTold]
    -- the failure of the delivery is reported, and then the journal is undone
    exact abandon_reported hLedger hUnwound e _
  rw [hAct, bind_of_error hConclude]

include hLedger hBudget in
/-- **An operation whose work is not done tells nobody.** It fails in the same way, however code is
run. -/
theorem course_of_not_done (hNot : ∀ recipe a b r₁, ¬o.Done i j recipe r a b r₁) :
    ∃ e r', r'.sinks = r.sinks ∧ ∀ run : κ → Act κ Unit,
      o.act run i r = .error e r' ∧ Course run i j o r (.error e) r' := by
  obtain ⟨recipe?, hRecipe⟩ : ∃ recipe?, (r.factory i).configuration = ⟨recipe?⟩ := ⟨_, rfl⟩
  -- without a recipe or a purse nothing is begun; else it is the work that fails, and is undone
  cases recipe? with
  | none => exact ⟨_, r, rfl, fun run => ⟨act_of_blank hRecipe, .idle⟩⟩
  | some recipe =>
    rcases purse_cases (r.factory i) r hBudget with ⟨e₀, hNone⟩ | ⟨p, hPays, hBudgets⟩
    · exact ⟨_, r, rfl, fun run => ⟨act_of_purse_error hRecipe hNone, .idle⟩⟩
    · cases hWork : o.work recipe (r.catalogFor j) ⟨r.site j, p, []⟩ with
      | ok a b => exact absurd ⟨hRecipe, hPays, hWork⟩ (hNot recipe a b _)
      | error e b =>
        obtain ⟨n, hn, hPaid⟩ := exists_paid (b := ⟨r.site j, p, []⟩) o recipe (r.catalogFor j) rfl
        rw [ends_of_error hWork] at hPaid
        obtain ⟨r₁, hWorked, -, hAct⟩ :=
          act_eq hLedger hRecipe hPays hBudgets (ends_of_error hWork) hn hPaid
        obtain ⟨os, s, hUnwound⟩ := exists_undone r₁ j b.journal
        refine ⟨_, _, ?_, fun run => ⟨?_, .undone hWork hWorked hUnwound⟩⟩
        · obtain ⟨ledgers, budgets, entries, rfl⟩ := hWorked.rest
          rfl
        · have hConclude : Factory.conclude run (r.factory i) b.journal (.error e) o.events r₁ =
              .error (afterRollback (raised os) e)
                ((r₁.appendTrace [.log (.rollingBack b.journal.length e)]).closed j s) :=
            abandon_reported hLedger hUnwound e _
          rw [hAct, bind_of_error hConclude]

include hLedger hBudget in
/-- **Every operation goes one of the four ways**: it does not begin, its work fails, its events are
not taken, or it comes out well. The realm that it leaves is known for each of them. -/
theorem course (run : κ → Act κ Unit) :
    Course run i j o r (ends (o.act run i) r).1 (ends (o.act run i) r).2 := by
  by_cases hDone : ∃ recipe a b r₁, o.Done i j recipe r a b r₁
  -- the sink is told, and it decides
  · obtain ⟨recipe, a, b, r₁, hDone⟩ := hDone
    cases hTold : Sink.deliver run (r.factory i).sink (o.events a) r₁ with
    | ok _ r₂ =>
      obtain ⟨entries, hAct⟩ := act_of_told hLedger hBudget hDone hTold
      rw [ends_of_ok hAct]
      exact .told hDone hTold
    | error e r₂ =>
      obtain ⟨os, s, hUnwound⟩ := exists_undone r₂ j b.journal
      rw [ends_of_error (act_of_refused hLedger hBudget hDone hTold hUnwound)]
      exact .refused hDone hTold hUnwound
  · have hNot : ∀ recipe a b r₁, ¬o.Done i j recipe r a b r₁ :=
      fun recipe a b r₁ h => hDone ⟨recipe, a, b, r₁, h⟩
    obtain ⟨e, r', -, hAct⟩ := course_of_not_done hLedger hBudget hNot
    rw [ends_of_error (hAct run).1]
    exact (hAct run).2

include hBudget in
/-- The realm in which the sink is told is one after work on the ledger. -/
theorem Done.worked (hDone : o.Done i j recipe r a b r₁) :
    ∃ n, r.Worked j o.budget n b.site r₁ := by
  obtain ⟨q, n, -, hBudgets, -, -, hPaid⟩ := hDone.paid hBudget
  obtain ⟨-, -, -⟩ := hDone
  refine ⟨n, ?_⟩
  rw [hPaid]
  exact Realm.worked_kept b.site ⟨q, rfl, hBudgets⟩

end Ways

/-! ## What it does to the ledger -/

/-- Work takes the ledger further, however it comes out. -/
theorem leads_of_work {res : Except Error o.Result}
    (hWork : ends (o.work recipe (r.catalogFor j)) ⟨r.site j, p, []⟩ = (res, b)) :
    (r.scene j).LeadsTo ⟨r.catalogFor j, b.site.ledger⟩ :=
  (follows_work hWork).site.leads

end Operation

namespace Realm

variable {r r₁ : Realm κ} {j n : Nat} {budget : Value} {s : Site} {journal : List Undo}
  {os : List (Except Error Unit)}

/-- When the work on a ledger is over, its scene has the ledger that the work has left, and the
catalog as it was before. -/
theorem scene_closed (r : Realm κ) (j : Nat) (s : Site) :
    (r.closed j s).scene j = ⟨r.catalogFor j, s.ledger⟩ := by
  rw [scene, catalogFor, ledger_closed]
  simp [closed, catalogFor]
  rfl

/-- The same with what has been paid from a budget meanwhile, which is no part of the scene. -/
theorem Worked.scene_eq (h : r.Worked j budget n s r₁) :
    r₁.scene j = ⟨r.catalogFor j, s.ledger⟩ := by
  obtain ⟨ledgers, budgets, entries, rfl⟩ := h.rest
  rw [scene, catalogFor, h.ledger]
  rfl

/-- When its work is done, an operation stands where the ledger is as the work has left it. -/
theorem scene_of_begun {o : Operation} {p : Purse} {b : Workbench} (h : o.Begun j r p b r₁) :
    r₁.scene j = ⟨r.catalogFor j, b.site.ledger⟩ := by
  cases h with
  | kept =>
    obtain ⟨budgets, hKept⟩ := (r.closed j b.site).kept_eq b.purse o.budget
    rw [hKept]
    exact scene_closed r j b.site
  | closed _ => exact scene_closed r j b.site
  | idle _ hIdle =>
    rw [hIdle]
    rfl

/-- The realm in which the sink is told has the ledger that the work has left. -/
theorem scene_of_done {i : Nat} {recipe : Recipe} {o : Operation} {a : o.Result} {b : Workbench}
    (h : o.Done i j recipe r a b r₁) : r₁.scene j = ⟨r.catalogFor j, b.site.ledger⟩ := by
  obtain ⟨-, -, -⟩ := h
  exact scene_of_begun (.kept : o.Begun j r b.purse b _)

/-- Undoing takes the ledger further, too. -/
theorem leads_of_unwound
    (h : Unwound Site.report Undo.text Undo.run (r.site j) journal os s) :
    (r.scene j).LeadsTo ((r.closed j s).scene j) := by
  have hStart : (r.site j).Follows (r.catalogFor j) (r.ledger j).ledger := Site.follows_opened ..
  have hKept := (Site.keeps_undoAll journal).holds hStart
  rw [Undo.runAll, ends_of_ok h.unwind_eq] at hKept
  rw [scene_closed]
  exact hKept.leads

end Realm

end WorldForge
