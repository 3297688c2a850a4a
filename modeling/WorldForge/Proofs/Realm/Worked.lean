import WorldForge.Proofs.Factory.Work
import WorldForge.Realm.Factory

/-!
# Realms that differ in little

What a factory does changes few of the objects in a realm. `Realm.Worked` says what work on a ledger
changes: the site of the ledger and the budget that pays, while the trace grows. `Realm.Same` and
`Realm.SameBut` say what stays of the objects that factories work with.

A sink may run any code when it is told of an event. It is *discreet* if it leaves the catalogs, the
ledgers and the factories alone, and *silent* if it runs none.

* `worked_kept` — what a purse has spent is charged to the budget that it was handed over as;
* `Worked.sameBut`, `SameBut.closed` — work on a ledger changes nothing but this ledger;
* `discreet_of_silent` — a silent sink is discreet, whatever it raises.
-/

namespace WorldForge

variable {κ : Type}

/-! ## Realms that differ in little -/

namespace Realm

variable {r r₁ : Realm κ} {j m k : Nat} {o : LedgerObject} {b : Budget} {budget : Value}
  {entries : List Entry}

@[simp] theorem ledger_putLedger :
    (r.putLedger j o).ledger m = if m = j then o else r.ledger m := by
  rw [ledger, putLedger, Table.find?_insert]
  split <;> rfl

@[simp] theorem budget_putBudget :
    (r.putBudget k b).budget m = if m = k then b else r.budget m := by
  rw [budget, putBudget, Table.find?_insert]
  split <;> rfl

/-- A sink that is written is found where it was put, and the others as before. -/
theorem sink_putSink (k m : Nat) (s : Sink κ) (r : Realm κ) :
    (r.putSink k s).sink m = if m = k then s else r.sink m := by
  rw [sink, putSink, Table.find?_insert]
  split <;> rfl

/-- A factory that is written is found where it was put, and the others as before. -/
theorem factory_putFactory (i m : Nat) (f : Factory) (r : Realm κ) :
    (r.putFactory i f).factory m = if m = i then f else r.factory m := by
  rw [factory, putFactory, Table.find?_insert]
  split <;> rfl

@[simp] theorem ledger_appendTrace : (r.appendTrace entries).ledger m = r.ledger m := rfl

@[simp] theorem ledger_putBudget : (r.putBudget k b).ledger m = r.ledger m := rfl

@[simp] theorem budget_appendTrace : (r.appendTrace entries).budget m = r.budget m := rfl

@[simp] theorem budget_putLedger : (r.putLedger j o).budget m = r.budget m := rfl

/-- The realm after something was done on the site of a ledger, with its records in the trace. -/
def closed (r : Realm κ) (j : Nat) (s : Site) : Realm κ :=
  (r.putLedger j { r.ledger j with ledger := s.ledger, faults := s.faults }).appendTrace
    (s.log.map .log)

/-- The site of a ledger as it is opened. -/
def site (r : Realm κ) (j : Nat) : Site := .opened (r.ledger j).ledger (r.ledger j).faults

/-- What a ledger deploys from. -/
def catalogFor (r : Realm κ) (j : Nat) : Catalog := r.catalogOf (r.ledger j).catalog

/-- The realm with what was spent from a budget that was handed over. -/
def kept (r : Realm κ) (purse : Purse) (budget : Value) : Realm κ :=
  match purse, budget with
  | .budget b, .object .budget k => r.putBudget k b
  | _, _ => r

/-- Where no budget has been handed over, nothing is written back. -/
theorem kept_of_ne (h : ∀ k, budget ≠ .object .budget k) (p : Purse) : r.kept p budget = r := by
  cases p with
  | other v => rfl
  | budget b =>
    cases budget with
    | object kind k =>
      cases kind with
      | budget => exact absurd rfl (h k)
      | _ => rfl
    | _ => rfl

/-- All that is kept is a budget. -/
theorem kept_eq (r : Realm κ) (p : Purse) (budget : Value) :
    ∃ budgets, r.kept p budget = { r with budgets } := by
  unfold kept
  split
  · exact ⟨_, rfl⟩
  · exact ⟨r.budgets, rfl⟩

/-- **A realm after work on a ledger.** The site of the ledger has become `s`, and `n` steps were
charged to the budget that was handed over, if one was. All else is as it was. -/
structure Worked (r : Realm κ) (j : Nat) (budget : Value) (n : Nat) (s : Site)
    (r₁ : Realm κ) : Prop where
  rest : ∃ ledgers budgets entries,
    r₁ = { r with ledgers, budgets, trace := r.trace ++ entries }
  ledger : r₁.ledger j = { r.ledger j with ledger := s.ledger, faults := s.faults }
  ledgers : ∀ m, m ≠ j → r₁.ledger m = r.ledger m
  charged : ∀ k, budget = .object .budget k →
    r₁.budget k = { r.budget k with used := (r.budget k).used + n }
  budgets : ∀ k, budget ≠ .object .budget k → r₁.budget k = r.budget k

/-- What is done on the site of a ledger is work that charges no budget. -/
theorem worked_closed (r : Realm κ) (j : Nat) (budget : Value) (s : Site) :
    Worked r j budget 0 s (r.closed j s) where
  rest := ⟨_, r.budgets, s.log.map .log, rfl⟩
  ledger := by simp [closed]
  ledgers m hm := by simp [closed, hm]
  charged k _ := by simp [closed]
  budgets k _ := rfl

/-- A realm in which nothing has been done. -/
theorem worked_self (r : Realm κ) (j : Nat) (budget : Value) :
    Worked r j budget 0 (r.site j) r where
  rest := ⟨r.ledgers, r.budgets, [], by simp⟩
  ledger := rfl
  ledgers _ _ := rfl
  charged k _ := by simp
  budgets k _ := rfl

/-- What a purse has spent is charged to the budget that it was handed over as. -/
theorem worked_kept {p : Purse} {budget : Value} {n : Nat} (s : Site)
    (hPurse : ∃ b, p = .budget b ∧ ∀ k, budget = .object .budget k → b = r.budget k) :
    Worked r j budget n s ((r.closed j s).kept (p.after n) budget) := by
  obtain ⟨b, rfl, hBudget⟩ := hPurse
  by_cases hObject : ∃ k, budget = .object .budget k
  · obtain ⟨k, rfl⟩ := hObject
    obtain rfl := hBudget k rfl
    refine ⟨⟨_, _, s.log.map .log, rfl⟩, by simp [kept, Purse.after, closed], ?_, ?_, ?_⟩
    · intro m hm
      simp [kept, Purse.after, closed, hm]
    · intro k' hk
      cases hk
      simp [kept, Purse.after, closed]
    · intro k' hk
      have hNe : k' ≠ k := fun hEq => hk (by rw [hEq])
      simp [kept, Purse.after, closed, hNe]
  -- there is no budget to charge
  · have hNone : ∀ k, budget ≠ .object .budget k := fun k hk => hObject ⟨k, hk⟩
    rw [kept_of_ne hNone]
    have hClosed := worked_closed r j budget s
    refine ⟨hClosed.rest, hClosed.ledger, hClosed.ledgers, ?_, hClosed.budgets⟩
    intro k hk
    exact absurd hk (hNone k)

/-- What is reported afterwards has nothing to do with the work. -/
theorem Worked.appendTrace {n : Nat} {s : Site} (h : r.Worked j budget n s r₁)
    (entries : List Entry) :
    r.Worked j budget n s (r₁.appendTrace entries) where
  rest := by
    obtain ⟨ledgers, budgets, older, rfl⟩ := h.rest
    exact ⟨ledgers, budgets, older ++ entries, by simp [Realm.appendTrace]⟩
  ledger := h.ledger
  ledgers := h.ledgers
  charged := h.charged
  budgets := h.budgets

/-- Of two things that are done on the site of a ledger, the second one counts. -/
theorem Worked.closed {n : Nat} {s : Site} (h : r.Worked j budget n s r₁) (s' : Site) :
    r.Worked j budget n s' (r₁.closed j s') where
  rest := by
    obtain ⟨ledgers, budgets, older, rfl⟩ := h.rest
    exact ⟨_, budgets, older ++ s'.log.map .log, by rw [← List.append_assoc]; rfl⟩
  ledger := by simp [Realm.closed, h.ledger]
  ledgers m hm := by simpa [Realm.closed, hm] using h.ledgers m hm
  charged := h.charged
  budgets := h.budgets

/-- Work on a ledger tells nobody of anything. -/
theorem Worked.sinks {n : Nat} {s : Site} (h : r.Worked j budget n s r₁) :
    r₁.sinks = r.sinks := by
  obtain ⟨ledgers, budgets, entries, rfl⟩ := h.rest
  rfl

/-- Two realms agree in their catalogs, ledgers and factories. -/
structure Same (r r₁ : Realm κ) : Prop where
  catalogs : r₁.catalogs = r.catalogs
  ledgers : r₁.ledgers = r.ledgers
  factories : r₁.factories = r.factories

/-- A realm agrees with itself in its catalogs, ledgers and factories. -/
theorem Same.refl (r : Realm κ) : r.Same r := ⟨rfl, rfl, rfl⟩

instance : Std.Refl (Same (κ := κ)) := ⟨Same.refl⟩

theorem Same.appendTrace (h : r.Same r₁) : r.Same (r₁.appendTrace entries) :=
  ⟨h.catalogs, h.ledgers, h.factories⟩

theorem Same.ledger (h : r.Same r₁) (m : Nat) : r₁.ledger m = r.ledger m := by
  rw [Realm.ledger, Realm.ledger, h.ledgers]

/-- Two realms agree in their catalogs, ledgers and factories, but for the state of one ledger and
the faults that are planned for it. -/
structure SameBut (r : Realm κ) (j : Nat) (r₁ : Realm κ) : Prop where
  catalogs : r₁.catalogs = r.catalogs
  factories : r₁.factories = r.factories
  catalog : (r₁.ledger j).catalog = (r.ledger j).catalog
  ledgers : ∀ m, m ≠ j → r₁.ledger m = r.ledger m

/-- Work on a ledger changes no other ledger. -/
theorem Worked.sameBut {n : Nat} {s : Site} {r₂ : Realm κ} (h : r.Worked j budget n s r₁)
    (hSame : r₁.Same r₂) : r.SameBut j r₂ where
  catalogs := by
    obtain ⟨ledgers, budgets, entries, rfl⟩ := h.rest
    exact hSame.catalogs
  factories := by
    obtain ⟨ledgers, budgets, entries, rfl⟩ := h.rest
    exact hSame.factories
  catalog := by rw [hSame.ledger, h.ledger]
  ledgers m hm := by rw [hSame.ledger, h.ledgers m hm]

/-- What is done on the site of a ledger changes no other ledger. -/
theorem SameBut.closed (h : r.SameBut j r₁) (s : Site) : r.SameBut j (r₁.closed j s) where
  catalogs := h.catalogs
  factories := h.factories
  catalog := by simpa [Realm.closed] using h.catalog
  ledgers m hm := by simpa [Realm.closed, hm] using h.ledgers m hm

/-- What a discreet sink finds when it is told is the site that the work has left. -/
theorem Worked.site_eq {n : Nat} {s : Site} {r₂ : Realm κ} (h : r.Worked j budget n s r₁)
    (hSame : r₁.Same r₂) : r₂.site j = .opened s.ledger s.faults := by
  rw [site, hSame.ledger, h.ledger]

@[simp] theorem ledger_closed (r : Realm κ) (j : Nat) (s : Site) :
    ((r.closed j s).ledger j).ledger = s.ledger := by
  simp [closed]

end Realm

/-! ## Discreet sinks -/

/-- A sink that is told of events leaves catalogs, ledgers and factories alone, whatever state the
ledgers and budgets of the realm are in by then. -/
def Sink.Discreet (run : κ → Act κ Unit) (sink : Value) (r : Realm κ) : Prop :=
  ∀ ledgers budgets trace event,
    let r₀ : Realm κ := { r with ledgers, budgets, trace }
    r₀.Same (ends (Sink.tell run sink event) r₀).2

/-- A reaction without code changes nothing, and may raise an error. -/
theorem Reaction.perform_of_silent {x : Reaction κ} (hCode : x.code = none)
    (run : κ → Act κ Unit) (r : Realm κ) : (ends (x.perform run) r).2 = r := by
  obtain ⟨code, error⟩ := x
  obtain rfl : code = none := hCode
  cases error <;> rfl

/-- What stands for a sink is silent if it runs no code when it is told of the next event. It may
raise an error. -/
def Sink.Silent (sink : Value) (r : Realm κ) : Prop :=
  ∀ kind k, sink = .object kind k → ∀ x, (r.sink k).nextReaction? = some x → x.code = none

/-- Where there is no code, no sink runs any. -/
theorem Sink.silent_of_isEmpty [IsEmpty κ] {sink : Value} (r : Realm κ) : Sink.Silent sink r := by
  intro _ k _ x _
  cases hCode : x.code with
  | none => rfl
  | some code => exact isEmptyElim code

/-- A silent sink takes note of an event, and changes nothing else. -/
theorem Sink.tell_of_silent {sink : Value} {r : Realm κ} (hSilent : Sink.Silent sink r)
    (run : κ → Act κ Unit) (event : Value) :
    ∃ sinks, (ends (Sink.tell run sink event) r).2 = { r with sinks } := by
  have hEmit : ∀ kind k, sink = .object kind k →
      ∃ sinks, (ends (Sink.emit run k event) r).2 = { r with sinks } := by
    intro kind k hSink
    let s := r.sink k
    let r₁ := r.putSink k { s with events := s.events ++ [event] }
    have hEnds : ends (Sink.emit run k event) r =
        ends (s.nextReaction?.forM (Reaction.perform run)) r₁ := rfl
    rw [hEnds]
    cases hNext : s.nextReaction? with
    | none => exact ⟨r₁.sinks, rfl⟩
    -- a reaction without code can only raise
    | some x =>
      have hCode : x.code = none := hSilent kind k hSink x hNext
      refine ⟨r₁.sinks, ?_⟩
      show (ends (x.perform run) r₁).2 = r₁
      exact Reaction.perform_of_silent hCode run r₁
  cases sink with
  | object kind k =>
    cases kind with
    | eventLog => exact hEmit _ k rfl
    | scriptSink => exact hEmit _ k rfl
    | _ => exact ⟨r.sinks, rfl⟩
  | _ => exact ⟨r.sinks, rfl⟩

/-- **A silent sink is discreet**, whatever it raises, and so is what is no sink. -/
theorem Sink.discreet_of_silent {run : κ → Act κ Unit} {sink : Value} {r : Realm κ}
    (hSilent : Sink.Silent sink r) : Sink.Discreet run sink r := by
  intro ledgers budgets trace event r₀
  have hSilent₀ : Sink.Silent sink r₀ := hSilent
  obtain ⟨sinks, hTold⟩ : ∃ sinks, (ends (Sink.tell run sink event) r₀).2 = { r₀ with sinks } :=
    Sink.tell_of_silent hSilent₀ run event
  rw [hTold]
  exact ⟨rfl, rfl, rfl⟩

theorem Sink.deliver_nil (run : κ → Act κ Unit) (sink : Value) (r : Realm κ) :
    Sink.deliver run sink [] r = .ok () r := by
  cases sink <;> rfl

theorem Sink.deliver_null (run : κ → Act κ Unit) (events : List Value) (r : Realm κ) :
    Sink.deliver run .null events r = .ok () r := rfl

/-- To deliver one event is to tell the sink of it once. -/
theorem Sink.deliver_singleton (run : κ → Act κ Unit) {sink : Value} (hSink : sink ≠ .null)
    (event : Value) :
    Sink.deliver run sink [event] = Sink.tell run sink event >>= fun _ => pure () := by
  cases sink with
  | null => exact absurd rfl hSink
  | _ => rfl

/-- Telling of one event comes out as the sink does, if there is one. -/
theorem Sink.ends_deliver (run : κ → Act κ Unit) {sink : Value} (hSink : sink ≠ .null)
    (event : Value) (r : Realm κ) :
    ends (Sink.deliver run sink [event]) r = ends (Sink.tell run sink event) r := by
  rw [deliver_singleton run hSink, ends_bind]
  rcases ends (Sink.tell run sink event) r with ⟨_ | _, r₁⟩ <;> rfl

end WorldForge
