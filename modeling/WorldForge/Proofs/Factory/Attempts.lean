import WorldForge.Proofs.Factory.Operation
import WorldForge.Proofs.Overlooking

/-!
# Attempted registrations

How many registrations an operation attempts is seen at the ledger: a fault that never raises its
error still counts the calls that it waits for. So one such fault for each kind of part is put
before all that are planned, and there every call of a registration is counted, whether it is
accepted, refused or struck. Work comes out with these counters as it does without.

Main results:

* `Work.Tallies.bind` — what is put together of work that keeps tally keeps tally;
* `Operation.tallies_work` — all work of a factory keeps tally: for every registration that it
  attempts it pays one step, and for nothing else;
* `Operation.purse_of_work` — so what is left of a purse tells of the attempts.
-/

namespace WorldForge

variable {α β κ : Type} {c : Catalog} {m p : PartKind → Nat} {k : PartKind} {call : LedgerCall}

/-! ## Counters -/

/-- A fault that never strikes, after a number of calls. -/
def Fault.counter (call : LedgerCall) (seen : Nat) : Fault := ⟨call, .badState, "", 0, some 0, seen⟩

/-- A counter counts the calls that it waits for, and lets them pass. -/
theorem Fault.meet_counter (call : LedgerCall) (seen : Nat) (faults : List Fault) :
    meet call (counter call seen :: faults) =
      ((meet call faults).1, counter call (seen + 1) :: (meet call faults).2) := by
  have hPass : (counter call seen).counted.strikes = false := by
    simp [counter, counted, strikes]
  have hCall : (counter call seen).call = call := rfl
  rw [meet, if_pos hCall, hPass]
  rfl

/-- Other calls pass a counter by. -/
theorem Fault.meet_counter_of_ne {call' : LedgerCall} (h : call ≠ call') (seen : Nat)
    (faults : List Fault) :
    meet call (counter call' seen :: faults) =
      ((meet call faults).1, counter call' seen :: (meet call faults).2) := by
  have hCall : ¬(counter call' seen).call = call := fun hSame => h hSame.symm
  rw [meet, if_neg hCall]

/-- A single part of a kind. -/
def PartKind.once (k : PartKind) : PartKind → Nat := fun k' => if k' = k then 1 else 0

/-- The parts of both kinds together. -/
def PartKind.total (m : PartKind → Nat) : Nat := m .component + m .system

namespace Site

/-- A site at which registrations are counted, as many of each kind as there have been already. -/
def counting (m : PartKind → Nat) (s : Site) : Site where
  ledger := s.ledger
  faults := .counter (.register .component) (m .component) ::
    .counter (.register .system) (m .system) :: s.faults
  log := s.log

/-- What the counters of a site have counted. -/
def counted (s : Site) : Nat := (s.faults.take 2).foldr (fun f n => f.seen + n) 0

@[simp] theorem counted_counting (s : Site) : (s.counting m).counted = PartKind.total m := by
  simp [counted, counting, Fault.counter, PartKind.total]

/-- Counters concern neither the ledger nor the records: they are only put before the planned
faults. -/
theorem aside_counting (m : PartKind → Nat) : Aside (counting m) :=
  ⟨fun _ => rfl, fun _ _ => rfl, fun _ _ => rfl⟩

/-- The search for a fault always leaves the site on which the call has been counted. Whether it
raises an error is told by the fault that is met. -/
theorem ends_meetFaults (call : LedgerCall) (s : Site) :
    ends (meetFaults call) s = (Fault.verdict (Fault.meet call s.faults).1, s.met call) := by
  cases hMeet : (Fault.meet call s.faults).1 with
  | none => exact ends_of_ok (meetFaults_of_none hMeet)
  | some e => exact ends_of_error (meetFaults_of_some hMeet)

/-- Other calls pass the counters by. -/
theorem overlooks_meetFaults_counting (hCall : ∀ k, call ≠ .register k) :
    Overlooks (counting m) (meetFaults call) := by
  intro s
  have hMeet : Fault.meet call (s.counting m).faults =
      ((Fault.meet call s.faults).1, ((s.met call).counting m).faults) := by
    rw [counting, Fault.meet_counter_of_ne (hCall _), Fault.meet_counter_of_ne (hCall _)]
    rfl
  rw [ends_meetFaults, ends_meetFaults, met, hMeet]
  rfl

/-- A registration is counted once, and goes on to the faults behind the counters. -/
theorem turns_meetFaults (m : PartKind → Nat) (k : PartKind) :
    Turns (counting m) (counting fun k' => m k' + k.once k') (meetFaults (.register k)) := by
  intro s
  have hMeet : Fault.meet (.register k) (s.counting m).faults =
      ((Fault.meet (.register k) s.faults).1,
        ((s.met (.register k)).counting fun k' => m k' + k.once k').faults) := by
    -- there are two counters, one of which has a call counted
    cases k with
    | component =>
      rw [counting, Fault.meet_counter, Fault.meet_counter_of_ne (fun h => by cases h)]
      rfl
    | system =>
      rw [counting, Fault.meet_counter_of_ne (fun h => by cases h), Fault.meet_counter]
      rfl
  rw [ends_meetFaults, ends_meetFaults, met, hMeet]
  rfl

end Site

/-! ## Work that keeps tally -/

/-- A workbench with counters at its site. -/
abbrev Workbench.counting (m : PartKind → Nat) : Workbench → Workbench :=
  Workbench.over (Site.counting m) id []

namespace Work

/-- **How many registrations work attempts.** -/
def attempts (x : Work α) (b : Workbench) : Nat :=
  (ends x (b.counting fun _ => 0)).2.site.counted

/-- **Work keeps tally**, of `n` registrations at most: from every workbench, whatever the counters
show, it comes out as without them, and it has paid one step for each registration that they have
counted. -/
def Tallies (n : Nat) (x : Work α) : Prop :=
  ∀ b, ∃ p : PartKind → Nat, PartKind.total p ≤ n ∧
    (∀ m, ends x (b.counting m) = ((ends x b).1, (ends x b).2.counting fun k => m k + p k)) ∧
      (ends x b).2.purse = b.purse.after (PartKind.total p)

section Tally

variable {x : Work α} {n l : Nat}

/-- **What a tally tells**: there is a number of attempts of either kind, together within the bound,
and as many steps have been paid from the purse as there were attempts. -/
theorem Tallies.exists_attempts (h : Tallies n x) (b : Workbench) :
    ∃ p : PartKind → Nat, attempts x b = PartKind.total p ∧ PartKind.total p ≤ n ∧
      (ends x b).2.purse = b.purse.after (PartKind.total p) := by
  obtain ⟨p, hMost, hCount, hPaid⟩ := h b
  refine ⟨p, ?_, hMost, hPaid⟩
  simp only [attempts, hCount, Nat.zero_add]
  exact Site.counted_counting _

/-- **What is left of a purse** after work that keeps tally tells how many registrations the work
has attempted. -/
theorem Tallies.purse (h : Tallies n x) (b : Workbench) :
    (ends x b).2.purse = b.purse.after (attempts x b) := by
  obtain ⟨p, hAttempts, -, hPaid⟩ := h.exists_attempts b
  rw [hAttempts, hPaid]

/-- Work that keeps tally attempts no more registrations than its bound says, wherever it starts. -/
theorem Tallies.attempts_le (h : Tallies n x) (b : Workbench) : attempts x b ≤ n := by
  obtain ⟨p, hAttempts, hMost, -⟩ := h.exists_attempts b
  rwa [hAttempts]

/-! ## Rules -/

theorem Tallies.mono (h : Tallies n x) (hn : n ≤ l) : Tallies l x := by
  intro b
  obtain ⟨p, hMost, hRest⟩ := h b
  exact ⟨p, Nat.le_trans hMost hn, hRest⟩

/-- Work that overlooks counters, and whatever it has been given to pay with, attempts nothing. -/
theorem tallies_of_overlooks (hCount : ∀ m, Overlooks (Workbench.counting m) x)
    (hPay : ∀ p, Overlooks (Workbench.over id (fun _ => p) []) x) : Tallies 0 x := by
  intro b
  refine ⟨fun _ => 0, Nat.le_refl 0, fun m => hCount m b, ?_⟩
  -- nothing changes if it is given once more what it has already
  · have hSame : b.over id (fun _ => b.purse) [] = b := by simp [Workbench.over]
    have hLeft : (ends x (b.over id (fun _ => b.purse) [])).2.purse = b.purse := by
      rw [hPay b.purse b]
      rfl
    rw [hSame] at hLeft
    rw [hLeft]
    exact (Purse.after_zero _).symm

/-- To give a result back or to raise an error attempts nothing and pays nothing. -/
theorem tallies_release (res : Except Error α) : Tallies 0 (release res) :=
  tallies_of_overlooks (fun _ => overlooks_release res) fun _ => overlooks_release res

/-- A chain keeps tally if its links do. The attempts of both links add up, and the second link is
not made if the first one fails. -/
theorem Tallies.bind {f : α → Work β} (h : Tallies n x) (hNext : ∀ a, Tallies l (f a)) :
    Tallies (n + l) (x >>= f) := by
  intro b
  obtain ⟨p, hMost, hCount, hPaid⟩ := h b
  rcases hEnds : ends x b with ⟨e | a, b₁⟩
  -- after an error the second link attempts nothing
  · rw [hEnds] at hCount hPaid
    refine ⟨p, Nat.le_trans hMost (Nat.le_add_right n l), fun m => ?_, ?_⟩
    · rw [ends_bind, ends_bind, hCount, hEnds]
    · rw [ends_bind, hEnds]
      exact hPaid
  · rw [hEnds] at hCount hPaid
    obtain ⟨q, hMostNext, hCountNext, hPaidNext⟩ := hNext a b₁
    have hTotal : PartKind.total (fun k => p k + q k) = PartKind.total p + PartKind.total q := by
      simp only [PartKind.total]
      omega
    refine ⟨fun k => p k + q k, by omega, fun m => ?_, ?_⟩
    · rw [ends_bind, ends_bind, hCount, hEnds]
      simp only [← Nat.add_assoc]
      exact hCountNext _
    · rw [ends_bind, hEnds, hTotal]
      show (ends (f a) b₁).2.purse = _
      rw [hPaidNext, hPaid, Purse.after_after]

/-- A wrapping changes neither the attempts nor the steps paid for them, as it only looks at the
error at the end. -/
theorem Tallies.wrapping (h : Tallies n x) (family : ErrorKind) (wrap : Error → Error) :
    Tallies n (wrapping family wrap x) := by
  intro b
  obtain ⟨p, hMost, hCount, hPaid⟩ := h b
  refine ⟨p, hMost, fun m => ?_, ?_⟩
  · rw [ends_wrapping, ends_wrapping, hCount]
  · rw [ends_wrapping]
    exact hPaid

/-- A loop attempts at most one registration for each item, if its body attempts at most one. -/
theorem Tallies.forM {f : β → Work Unit} (h : ∀ b, Tallies 1 (f b)) (items : List β) :
    Tallies items.length (items.forM f) := by
  induction items with
  | nil => exact tallies_release (.ok ())
  | cons b rest ih =>
    rw [List.length_cons, Nat.add_comm]
    exact (h b).bind fun _ => ih

end Tally

/-! ## Pieces of work -/

/-- A deployment attempts no registration, and pays nothing. -/
theorem tallies_deployWorld (c : Catalog) (recipe : Recipe) (name : Value) :
    Tallies 0 (deployWorld c recipe name) :=
  tallies_of_overlooks
    (fun m => overlooks_deployWorld (Site.aside_counting m)
      (Site.overlooks_meetFaults_counting fun _ h => by cases h) recipe name)
    fun _ => overlooks_deployWorld Site.aside_id (fun _ => rfl) recipe name

/-- To look up the world that parts are to be registered in attempts no registration, whether the
world is found or not. -/
theorem tallies_dispatcher (world : Value) :
    Tallies 0 (wrapping .ledger (.cannotDispatch world) (onSite (Site.dispatcher world))) :=
  (tallies_of_overlooks
    (fun m => turns_onSite (Site.overlooks_dispatcher (Site.aside_counting m)
      (Site.overlooks_meetFaults_counting fun _ h => by cases h) world))
    fun _ => turns_onSite
      (Site.overlooks_dispatcher Site.aside_id (fun _ => rfl) world)).wrapping _ _

/-- What is left of a purse when a part has been paid for, and when it has not. -/
theorem purse_registerPart (c : Catalog) (x : InstanceHandle) (k : PartKind) (t : Value)
    (b : Workbench) {q : Purse} (hPay : b.purse.payStep = .ok q) :
    (ends (registerPart c x k t) b).2.purse = q := by
  cases h : registerPart c x k t b with
  | ok u b' =>
    obtain ⟨p, s, hPaid, -, rfl⟩ := registerPart_eq_ok_iff.1 h
    rw [ends_of_ok h]
    exact Except.ok.inj (hPaid.symm.trans hPay)
  -- the step is paid before the ledger is asked, so it is paid for a part that is refused as well
  | error e b' =>
    rw [ends_of_error h]
    rcases registerPart_eq_error h with ⟨-, hUnpaid⟩ | ⟨p, e₀, hPaid, rfl, -⟩
    · rw [hPay] at hUnpaid
      cases hUnpaid
    · exact Except.ok.inj (hPaid.symm.trans hPay)

/-- Once it has been paid for, a part is attempted at the ledger. -/
theorem turns_registerPaid (m : PartKind → Nat) (c : Catalog) (x : InstanceHandle) (k : PartKind)
    (t : Value) :
    Turns (Workbench.counting m) (Workbench.counting fun k' => m k' + k.once k') (do
      wrapping .ledger (.registrationRejected t k) (onSite (Site.register c x k t))
      enter (.deregister x k t)
      report (.partRegistered k t (← release (← get).purse.used)) : Work Unit) := by
  have hAside := Site.aside_counting fun k' => m k' + k.once k'
  refine ((turns_onSite (Site.turns_register hAside
    (Site.turns_meetFaults m k) x t)).wrapping _ _).bind fun _ => ?_
  refine (overlooks_enter hAside _).bind fun _ => ?_
  exact Overlooks.get (fun _ => rfl) fun b =>
    (overlooks_release _).bind fun _ => overlooks_report hAside _

/-- **A part that is paid for is attempted once**, and one that is not paid for is not attempted. -/
theorem tallies_registerPart (c : Catalog) (x : InstanceHandle) (k : PartKind) (t : Value) :
    Tallies 1 (registerPart c x k t) := by
  intro b
  cases hPay : b.purse.payStep with
  | error e =>
    have hUnpaid : ∀ m, registerPart c x k t (b.counting m) = .error e (b.counting m) := fun m =>
      bind_of_error (by simp only [payStep, Workbench.over, id, hPay])
    have hHere : registerPart c x k t b = .error e b :=
      bind_of_error (by simp only [payStep, hPay])
    refine ⟨fun _ => 0, Nat.zero_le _, fun m => ?_, ?_⟩
    · rw [ends_of_error (hUnpaid m), ends_of_error hHere]
      rfl
    · rw [ends_of_error hHere]
      exact (Purse.after_zero _).symm
  | ok q =>
    have hOnce : PartKind.total k.once = 1 := by cases k <;> rfl
    refine ⟨k.once, Nat.le_of_eq hOnce, fun m => ?_, ?_⟩
    -- behind the payment, the call is counted where it is made
    · have hPaid : ∀ b₁ : Workbench, b₁.purse = b.purse →
          ends payStep b₁ = (.ok (), { b₁ with purse := q }) := fun b₁ hSame =>
        ends_of_ok (payStep_eq_ok_iff.2 ⟨q, by rw [hSame, hPay], rfl⟩)
      rw [registerPart, ends_bind, ends_bind, hPaid b rfl, hPaid (b.counting m) rfl]
      exact turns_registerPaid m c x k t { b with purse := q }
    · rw [purse_registerPart c x k t b hPay, Purse.eq_after_of_payStep hPay, hOnce]

/-- To register the parts of one kind attempts at most as many registrations as there are parts. An
error leaves out those behind it. -/
theorem tallies_registerEach (c : Catalog) (x : InstanceHandle) (k : PartKind) (parts : Value) :
    Tallies (partsOf k parts).length (registerEach c x k parts) := by
  rw [registerEach, Value.items, partsOf, List.length_map]
  cases parts.items? with
  | none => exact tallies_release (.error _)
  | some ids => exact .forM (tallies_registerPart c x k) ids

/-- **To register parts attempts at most as many registrations as there are parts**, components and
systems together, and pays one step for each attempt. -/
theorem tallies_registerParts (c : Catalog) (world components systems : Value) :
    Tallies (partsOf .component components ++ partsOf .system systems).length
      (registerParts c world components systems) := by
  rw [List.length_append]
  refine ((tallies_dispatcher world).bind fun w =>
    (tallies_registerEach c w.handle .component components).bind fun _ =>
      tallies_registerEach c w.handle .system systems).mono ?_
  omega

/-- To make a world attempts registrations for its parts alone. The deployment in front of them
counts for none. -/
theorem tallies_makeWorld (c : Catalog) (recipe : Recipe) (name : Value)
    (components systems : List Value) :
    Tallies (components.length + systems.length)
      (makeWorld c recipe name components systems) := by
  have hParts : ∀ h : InstanceHandle, Tallies (components.length + systems.length)
      (registerParts c h (.list components) (.list systems)) := fun h => by
    simpa [partsOf, Value.items?] using
      tallies_registerParts c h (.list components) (.list systems)
  refine ((tallies_deployWorld c recipe name).bind fun h =>
    ((hParts h).wrapping _ _).bind fun _ => tallies_release (.ok h)).mono ?_
  omega

end Work

/-! ## Operations -/

namespace Operation

variable {o : Operation} {i j : Nat} {r : Realm κ} {recipe : Recipe} {q : Purse} {b : Workbench}
  {res : Except Error o.Result}

/-- **All work of a factory keeps tally**: a step is paid for each registration that is attempted,
taken or not, and for nothing else. So the budget counts the calls that the ledger has got. -/
theorem tallies_work (o : Operation) (recipe : Recipe) (c : Catalog) :
    Work.Tallies o.size (o.work recipe c) := by
  cases o with
  | spawn name components systems budget => exact Work.tallies_makeWorld c recipe name _ _
  | deploy name => exact Work.tallies_deployWorld c recipe name
  | registerAll world components systems budget => exact Work.tallies_registerParts c _ _ _
  | request given budget =>
    by_cases hRequest : ∃ name components systems, given = .request name components systems
    · obtain ⟨name, components, systems, rfl⟩ := hRequest
      exact Work.tallies_makeWorld c recipe name _ _
    · rw [work_of_not_request hRequest, size_of_not_request hRequest]
      -- no part is attempted for what is no request
      unfold misrequest
      split
      · exact Work.tallies_release (.error _)
      · exact (Work.tallies_deployWorld c recipe _).bind fun _ => Work.tallies_release (.error _)

/-- **How many registrations an operation attempts** that is asked of a factory: those of its work.
A factory without a ledger or a recipe, or without anything to pay with, does not get to work. -/
def attempts (o : Operation) (i : Nat) (r : Realm κ) : Nat :=
  match (r.factory i).ledger, (r.factory i).configuration.current, o.purse (r.factory i) r with
  | .object .ledger j, some recipe, .ok p _ =>
    Work.attempts (o.work recipe (r.catalogFor j)) ⟨r.site j, p, []⟩
  | _, _, _ => 0

/-- The attempts of an operation are those of its work, if the factory gets to work at all: on its
ledger, by its recipe, with the purse that it was handed. -/
theorem attempts_eq (hLedger : (r.factory i).ledger = .object .ledger j)
    (hRecipe : (r.factory i).configuration = .holding recipe)
    (hPurse : o.purse (r.factory i) r = .ok q r) :
    o.attempts i r = Work.attempts (o.work recipe (r.catalogFor j)) ⟨r.site j, q, []⟩ := by
  have hCurrent : (r.factory i).configuration.current = some recipe := by rw [hRecipe]; rfl
  simp only [attempts, hLedger, hCurrent, hPurse]

/-- Without work, nothing is attempted: an operation that finds no recipe, no purse or no ledger
makes no call. -/
theorem attempts_of_barred (h : o.Barred i r) : o.attempts i r = 0 := by
  unfold attempts
  split
  · rename_i j recipe p _ hLedger hCurrent hPurse
    cases h with
    | blank hBlank =>
      rw [hBlank] at hCurrent
      cases hCurrent
    | unpaid hNone =>
      rw [hNone] at hPurse
      cases hPurse
    | astray hAstray => exact absurd hLedger (hAstray j)
  · rfl

/-- **What the work of an operation leaves of a purse** tells how many registrations were attempted.
-/
theorem purse_of_work (hLedger : (r.factory i).ledger = .object .ledger j)
    (hRecipe : (r.factory i).configuration = .holding recipe)
    (hPurse : o.purse (r.factory i) r = .ok q r)
    (hWork : ends (o.work recipe (r.catalogFor j)) ⟨r.site j, q, []⟩ = (res, b)) :
    b.purse = q.after (o.attempts i r) ∧ o.attempts i r ≤ o.size := by
  have hTally := tallies_work o recipe (r.catalogFor j)
  rw [attempts_eq hLedger hRecipe hPurse]
  refine ⟨?_, hTally.attempts_le _⟩
  have hLeft := hTally.purse ⟨r.site j, q, []⟩
  rwa [hWork] at hLeft

end Operation

end WorldForge
