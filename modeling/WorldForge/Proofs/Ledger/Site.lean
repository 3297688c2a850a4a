import WorldForge.Ledger.Site
import WorldForge.Proofs.Journal
import WorldForge.Proofs.Ledger.Acceptance

/-!
# How calls of a ledger come out

A call of a site meets the faults that are planned for it, and reaches the ledger only if none of
them strikes. Either way the faults have counted it (`Site.met`). A call that fails leaves the
ledger and the records as they were.

Several calls one after the other meet the faults in turn. `Fault.meetAll` tells which of them are
struck, from the faults alone.

* `callBy_eq_ok_iff`, `callBy_eq_error` — when a call goes through, and what a failed one leaves;
* `meetAll_of_spared` — calls that no fault waits for all go through.
-/

namespace WorldForge

/-! ## Faults -/

namespace Fault

/-- No fault waits for a call. -/
def Spare (faults : List Fault) (c : LedgerCall) : Prop := ∀ f ∈ faults, f.call ≠ c

instance (faults : List Fault) (c : LedgerCall) : Decidable (Spare faults c) :=
  inferInstanceAs (Decidable (∀ f ∈ faults, f.call ≠ c))

/-- What comes of a call that meets faults, as far as they are concerned. -/
def verdict : Option Error → Except Error Unit
  | none => .ok ()
  | some e => .error e

/-- What comes of calls that meet faults one after the other, and the faults when they have counted
each of the calls. -/
def meetAll : List LedgerCall → List Fault → List (Except Error Unit) × List Fault
  | [], faults => ([], faults)
  | c :: calls, faults =>
    let later := meetAll calls (meet c faults).2
    (verdict (meet c faults).1 :: later.1, later.2)

variable {c : LedgerCall} {calls : List LedgerCall} {faults : List Fault} {e : Error}

/-- To meet a call counts some faults down and leaves them planned for the calls that they were
planned for. -/
theorem calls_meet (c : LedgerCall) (faults : List Fault) :
    (meet c faults).2.map Fault.call = faults.map Fault.call := by
  induction faults with
  | nil => rfl
  | cons f rest ih =>
    rw [meet]
    split
    · split
      · rfl
      · simp [ih, counted]
    · simp [ih]

/-- Counting a call makes no fault wait for another one. -/
theorem Spare.meet {d : LedgerCall} (h : Spare faults d) : Spare (meet c faults).2 d := by
  -- counting changes how often faults were met, and not for what they wait
  have hCalls : ∀ l : List Fault, Spare l d ↔ d ∉ l.map Fault.call := by
    intro l
    rw [List.mem_map]
    constructor
    · rintro hSpare ⟨f, hMem, hCall⟩
      exact hSpare f hMem hCall
    · intro hNot f hMem hCall
      exact hNot ⟨f, hMem, hCall⟩
  rw [hCalls] at h ⊢
  rwa [calls_meet]

/-- Counting a call changes no error. -/
theorem errors_meet (c : LedgerCall) (faults : List Fault) :
    (meet c faults).2.map error = faults.map error := by
  induction faults with
  | nil => rfl
  | cons f rest ih =>
    rw [meet]
    split
    · split
      · rfl
      · simp [ih, counted, error]
    · simp [ih]

/-- What is raised in place of a call is the error of a fault. -/
theorem mem_errors_of_meet (h : (meet c faults).1 = some e) : e ∈ faults.map error := by
  induction faults with
  | nil => cases h
  | cons f rest ih =>
    rw [meet] at h
    split at h
    · split at h
      · cases h
        exact .head _
      · exact .tail _ (ih h)
    · exact .tail _ (ih h)

/-- Calls that no fault waits for all go through. -/
theorem meetAll_of_spared (h : ∀ c ∈ calls, Spare faults c) :
    ∀ o ∈ (meetAll calls faults).1, o = .ok () := by
  induction calls with
  | nil => simp [meetAll]
  | cons c rest ih =>
    rw [meetAll, meet_of_forall_ne (h c (.head _))]
    intro o ho
    rcases List.mem_cons.1 ho with rfl | hRest
    · rfl
    · exact ih (fun c' hc => h c' (.tail _ hc)) o hRest

/-- A fault that waits for one call does not begin to wait for another one. -/
theorem Spare.meetAll {d : LedgerCall} (h : Spare faults d) (calls : List LedgerCall) :
    Spare (meetAll calls faults).2 d := by
  induction calls generalizing faults with
  | nil => exact h
  | cons c rest ih => exact ih h.meet

end Fault

/-! ## Flaws -/

namespace Catalog

variable {c : Catalog} {t : Value}

/-- Nothing is wrong with a template that is declared as a kind, or not declared at all. -/
theorem deploymentFlaw?_of_kinds (hc : c.Consistent)
    (hKinds : ∀ d, c.get? t = some d → ∃ k, d.kind = .kind k) : c.deploymentFlaw? t = none := by
  cases hGet : c.get? t with
  | none => rw [deploymentFlaw?, hc.strays, hGet]
  | some d =>
    obtain ⟨kind, hKind⟩ := hKinds d hGet
    exact deploymentFlaw?_of_kind (hc.strays _) hGet hKind

/-- Where every declaration is of a kind, no template has a flaw. -/
theorem registrationFlaw?_of_sorted (hc : c.Consistent) (hSorted : c.Sorted) (k : PartKind)
    (t : Value) : c.registrationFlaw? k t = none := by
  cases hGet : c.get? t with
  | none => rw [registrationFlaw?, hc.strays, hGet]
  | some d =>
    obtain ⟨kind, hKind⟩ := hSorted _ _ hGet
    exact registrationFlaw?_of_kind (hc.strays _) hGet hKind (hc.keyed hGet)

end Catalog

/-! ## Calls -/

namespace Site

variable {α : Type} {key given : Value} {flaw : Option Error} {call : LedgerCall}
  {op : Ledger → Except LedgerError (α × Ledger)} {s s' : Site} {a : α} {e : Error}
  {c : Catalog} {x : InstanceHandle} {k : PartKind}

/-- The site after its faults have counted a call. -/
def met (s : Site) (call : LedgerCall) : Site := { s with faults := (Fault.meet call s.faults).2 }

/-- A call that a fault strikes raises its error. -/
theorem meetFaults_of_some (h : (Fault.meet call s.faults).1 = some e) :
    meetFaults call s = .error e (s.met call) := by
  rw [meetFaults, met]
  split
  · rename_i e' faults hMeet
    rw [hMeet] at h ⊢
    cases h
    rfl
  · rename_i faults hMeet
    rw [hMeet] at h
    cases h

/-- Where no fault strikes, a call goes on, and only the counts of the planned faults have moved. -/
theorem meetFaults_of_none (h : (Fault.meet call s.faults).1 = none) :
    meetFaults call s = .ok () (s.met call) := by
  rw [meetFaults, met]
  split
  · rename_i e' faults hMeet
    rw [hMeet] at h
    cases h
  · rename_i faults hMeet
    rw [hMeet]

/-- What is done on the ledger of a site succeeds as it does on the ledger alone, and leaves faults
and log. -/
theorem onLedger_eq_ok_iff :
    onLedger op s = .ok a s' ↔ ∃ l, op s.ledger = .ok (a, l) ∧ s' = { s with ledger := l } := by
  rw [onLedger]
  split
  · rename_i e hOp
    simp [hOp]
  · rename_i b l hOp
    rw [hOp]
    constructor
    · intro h
      cases h
      exact ⟨l, rfl, rfl⟩
    · rintro ⟨l', hEq, rfl⟩
      cases hEq
      rfl

/-- What the ledger of a site refuses leaves the site as it was, and raises the refusal. -/
theorem onLedger_eq_error (h : onLedger op s = .error e s') :
    s' = s ∧ ∃ refusal, op s.ledger = .error refusal ∧ e = .ledger refusal := by
  rw [onLedger] at h
  split at h
  · rename_i refusal hOp
    cases h
    exact ⟨rfl, refusal, hOp, rfl⟩
  · cases h

theorem call_of_none (h : (Fault.meet call s.faults).1 = none) :
    Site.call call op s = onLedger op (s.met call) :=
  bind_of_ok (meetFaults_of_none h)

/-- A fault that strikes takes the place of the call: the ledger is not asked, and only the counts
have moved. -/
theorem call_of_some (h : (Fault.meet call s.faults).1 = some e) :
    Site.call call op s = .error e (s.met call) :=
  bind_of_error (meetFaults_of_some h)

/-- A fault strikes before the key of the call is looked at. -/
theorem callBy_of_some (h : (Fault.meet call s.faults).1 = some e) :
    callBy key flaw call op s = .error e (s.met call) :=
  bind_of_error (meetFaults_of_some h)

/-- **A call goes through** if no fault strikes, the value is a key, nothing is wrong with what it
finds in the catalog, and the ledger accepts. -/
theorem callBy_eq_ok_iff :
    callBy key flaw call op s = .ok a s' ↔
      (Fault.meet call s.faults).1 = none ∧ key.changeable? = none ∧ flaw = none ∧
        ∃ l, op s.ledger = .ok (a, l) ∧ s' = { s.met call with ledger := l } := by
  cases hMeet : (Fault.meet call s.faults).1 with
  | some e => simp [callBy_of_some hMeet]
  | none =>
    have hStart : callBy key flaw call op s = (do
        let _ ← orRaise .notKey key.asKey
        flaw.forM fun e => throw e
        onLedger op) (s.met call) := bind_of_ok (meetFaults_of_none hMeet)
    rw [hStart, Value.asKey]
    -- each check that fails ends the call with its own error
    cases hKey : key.changeable? with
    | some part =>
      constructor
      · intro hOk
        cases hOk
      · rintro ⟨-, hNone, -⟩
        cases hNone
    | none =>
      cases flaw with
      | some e =>
        constructor
        · intro hOk
          cases hOk
        · rintro ⟨-, -, hNone, -⟩
          cases hNone
      | none =>
        show onLedger op (s.met call) = _ ↔ _
        rw [onLedger_eq_ok_iff]
        simp [met]

/-- **A call that fails leaves the ledger and the records alone.** The faults have counted it. -/
theorem callBy_eq_error (h : callBy key flaw call op s = .error e s') : s' = s.met call := by
  cases hMeet : (Fault.meet call s.faults).1 with
  | some e' =>
    rw [callBy_of_some hMeet] at h
    cases h
    rfl
  | none =>
    rw [callBy, bind_of_ok (meetFaults_of_none hMeet)] at h
    -- none of what comes after the faults were met writes to the site before it fails
    rcases bind_eq_error_iff.1 h with hKey | ⟨key', s₁, hKey, hRest⟩
    · cases hAs : key.asKey <;> rw [hAs] at hKey <;> cases hKey
      rfl
    · obtain rfl : s₁ = s.met call := by
        cases hAs : key.asKey <;> rw [hAs] at hKey <;> cases hKey
        rfl
      rcases bind_eq_error_iff.1 hRest with hFlaw | ⟨_, s₂, hFlaw, hOp⟩
      · cases flaw <;> cases hFlaw
        rfl
      · cases flaw <;> cases hFlaw
        exact (onLedger_eq_error hOp).1

/-- A call that no fault strikes, by a key that leads to no flaw, raises the refusal of the
ledger. -/
theorem callBy_of_refused {refusal : LedgerError} (hMeet : (Fault.meet call s.faults).1 = none)
    (hKey : key.changeable? = none) (hOp : op s.ledger = .error refusal) :
    callBy key none call op s = .error (.ledger refusal) (s.met call) := by
  rw [callBy, bind_of_ok (meetFaults_of_none hMeet), Value.asKey, hKey]
  show onLedger op (s.met call) = _
  have hMet : op (s.met call).ledger = .error refusal := hOp
  rw [onLedger, hMet]

/-- What a call raises that fails without a fault: a refusal of the key, the flaw that was found, or
the refusal of the ledger. -/
theorem callBy_error_of_none (hMeet : (Fault.meet call s.faults).1 = none)
    (h : callBy key flaw call op s = .error e s') :
    (∃ refusal, key.asKey = .error refusal ∧ e = .notKey refusal) ∨ flaw = some e ∨
      ∃ refusal, op s.ledger = .error refusal ∧ e = .ledger refusal := by
  rw [callBy, bind_of_ok (meetFaults_of_none hMeet)] at h
  -- the key is looked at first, then the flaw, and at last the ledger is asked
  rcases bind_eq_error_iff.1 h with hKey | ⟨_, s₁, hKey, hRest⟩
  · cases hAs : key.asKey with
    | ok _ =>
      rw [hAs] at hKey
      cases hKey
    | error refusal =>
      rw [hAs] at hKey
      cases hKey
      exact .inl ⟨refusal, rfl, rfl⟩
  · have hSame : s₁ = s.met call := by
      cases hAs : key.asKey <;> rw [hAs] at hKey <;> cases hKey
      rfl
    rcases bind_eq_error_iff.1 hRest with hFlaw | ⟨_, s₂, hFlaw, hOp⟩
    · cases flaw with
      | none => cases hFlaw
      | some e' =>
        cases hFlaw
        exact .inr (.inl rfl)
    · obtain ⟨-, refusal, hRefused, rfl⟩ := onLedger_eq_error hOp
      cases flaw <;> cases hFlaw
      rw [hSame] at hRefused
      exact .inr (.inr ⟨refusal, hRefused, rfl⟩)

/-- **What a failed call raises**: the error of a fault, a refusal of the key, the flaw that was
found, or the refusal of the ledger. -/
theorem callBy_error_cases (h : callBy key flaw call op s = .error e s') :
    (∃ f : Fault, e = f.error) ∨ (∃ refusal, e = .notKey refusal) ∨ flaw = some e ∨
      ∃ refusal, e = .ledger refusal := by
  cases hMeet : (Fault.meet call s.faults).1 with
  | some e' =>
    rw [callBy_of_some hMeet] at h
    cases h
    obtain ⟨f, -, rfl⟩ := List.mem_map.1 (Fault.mem_errors_of_meet hMeet)
    exact .inl ⟨f, rfl⟩
  -- without a fault, the key is looked up, then what is declared of it, and then the ledger is
  -- asked
  | none =>
    rcases callBy_error_of_none hMeet h with ⟨refusal, -, hRaised⟩ | hFlaw | ⟨refusal, -, hRaised⟩
    · exact .inr (.inl ⟨refusal, hRaised⟩)
    · exact .inr (.inr (.inl hFlaw))
    · exact .inr (.inr (.inr ⟨refusal, hRaised⟩))

/-- The faults of a site have errors of ledgers only. -/
def Lawful (s : Site) : Prop := ∀ f ∈ s.faults, f.error.within .ledger = true

/-- Counting a call changes no error. -/
theorem Lawful.met (h : s.Lawful) (call : LedgerCall) : (s.met call).Lawful := by
  have hOld : ∀ e ∈ s.faults.map Fault.error, e.within .ledger = true := List.forall_mem_map.2 h
  rw [← Fault.errors_meet call] at hOld
  exact List.forall_mem_map.1 hOld

/-- **A ledger raises errors of ledgers only**, if it is called by a key, finds no flaw and meets no
stranger. -/
theorem Lawful.within_of_callBy (hLawful : s.Lawful) (hKey : key.changeable? = none)
    (hTold : ∀ refusal, op s.ledger = .error refusal → refusal.isTold = true)
    (h : callBy key none call op s = .error e s') : e.within .ledger = true := by
  cases hMeet : (Fault.meet call s.faults).1 with
  | some e' =>
    rw [callBy_of_some hMeet] at h
    cases h
    obtain ⟨f, hMem, rfl⟩ := List.mem_map.1 (Fault.mem_errors_of_meet hMeet)
    exact hLawful f hMem
  | none =>
    rcases callBy_error_of_none hMeet h with ⟨refusal, hAs, -⟩ | hNone | ⟨refusal, hRefused, rfl⟩
    · rw [Value.asKey, hKey] at hAs
      cases hAs
    · cases hNone
    · exact LedgerError.kind_within (hTold refusal hRefused)

/-! ## The calls by name -/

/-- **A deployment at a site succeeds exactly if** no fault strikes, the template can be looked up,
and the ledger accepts it. The log then tells what was deployed. -/
theorem deploy_eq_ok_iff {args : List Argument} :
    deploy c given args s = .ok x s' ↔
      (Fault.meet .deploy s.faults).1 = none ∧ given.changeable? = none ∧
        c.deploymentFlaw? given = none ∧ ∃ p l, s.ledger.deploy c given args = .ok ((p, x), l) ∧
          s' = ⟨l, (Fault.meet .deploy s.faults).2, s.log ++ [deployed x p]⟩ := by
  rw [deploy, bind_eq_ok_iff]
  constructor
  · rintro ⟨⟨p, h⟩, s₁, hCall, hEnd⟩
    obtain ⟨hMeet, hKey, hFlaw, l, hDeploy, rfl⟩ := callBy_eq_ok_iff.1 hCall
    cases hEnd
    exact ⟨hMeet, hKey, hFlaw, p, l, hDeploy, rfl⟩
  · rintro ⟨hMeet, hKey, hFlaw, p, l, hDeploy, rfl⟩
    exact ⟨(p, x), _, callBy_eq_ok_iff.2 ⟨hMeet, hKey, hFlaw, l, hDeploy, rfl⟩, rfl⟩

/-- A deployment that fails at a site changes nothing there but the counts of the planned faults. -/
theorem deploy_eq_error {args : List Argument} (h : deploy c given args s = .error e s') :
    s' = s.met .deploy := by
  rcases bind_eq_error_iff.1 h with hCall | ⟨_, s₁, _, hEnd⟩
  · exact callBy_eq_error hCall
  · cases hEnd

/-- **A registration at a site succeeds exactly if** no fault strikes, the template can be looked
up, and the ledger accepts it. The log then tells what was registered. -/
theorem register_eq_ok_iff {t : Value} :
    register c x k t s = .ok () s' ↔
      (Fault.meet (.register k) s.faults).1 = none ∧ t.changeable? = none ∧
        c.registrationFlaw? k t = none ∧ ∃ d l, s.ledger.register c x k t = .ok (d, l) ∧
          s' = ⟨l, (Fault.meet (.register k) s.faults).2,
            s.log ++ [.partEntered x k t d.name]⟩ := by
  rw [register, bind_eq_ok_iff]
  constructor
  · rintro ⟨d, s₁, hCall, hEnd⟩
    obtain ⟨hMeet, hKey, hFlaw, l, hRegister, rfl⟩ := callBy_eq_ok_iff.1 hCall
    cases hEnd
    exact ⟨hMeet, hKey, hFlaw, d, l, hRegister, rfl⟩
  · rintro ⟨hMeet, hKey, hFlaw, d, l, hRegister, rfl⟩
    exact ⟨d, _, callBy_eq_ok_iff.2 ⟨hMeet, hKey, hFlaw, l, hRegister, rfl⟩, rfl⟩

/-- A registration that fails at a site changes nothing there but the counts of the planned
faults. -/
theorem register_eq_error {t : Value} (h : register c x k t s = .error e s') :
    s' = s.met (.register k) := by
  rcases bind_eq_error_iff.1 h with hCall | ⟨_, s₁, _, hEnd⟩
  · exact callBy_eq_error hCall
  · cases hEnd

/-- The look-up of a world at a site succeeds exactly if no fault strikes, the handle can be looked
up, and a live world stands there. -/
theorem dispatcher_eq_ok_iff {w : World} :
    dispatcher given s = .ok w s' ↔
      (Fault.meet .dispatcher s.faults).1 = none ∧ given.changeable? = none ∧
        s.ledger.worlds.find? given.key = some w ∧ s' = s.met .dispatcher := by
  rw [dispatcher, callBy_eq_ok_iff, Ledger.dispatcher, Ledger.liveWorld?]
  cases s.ledger.worlds.find? given.key with
  | none => simp [Except.map]
  | some v =>
    constructor
    · rintro ⟨hMeet, hKey, -, l, hOp, rfl⟩
      cases hOp
      exact ⟨hMeet, hKey, rfl, rfl⟩
    · rintro ⟨hMeet, hKey, hWorld, rfl⟩
      cases hWorld
      exact ⟨hMeet, hKey, rfl, _, rfl, rfl⟩

theorem report_eq (r : LogRecord) (s : Site) : report r s = .ok () { s with log := s.log ++ [r] } :=
  rfl

end Site

end WorldForge
