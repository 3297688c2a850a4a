import Mathlib.Data.ENat.Lattice
import WorldForge.Proofs.Factory.Spawn
import WorldForge.Proofs.Factory.TwoPaths
import WorldForge.Proofs.Ledger.Shelf

/-!
# Where registrations stop

Parts are registered one after the other, and a step is paid for each beforehand. Without faults, a
run of registrations can stop for two reasons: a part is unfit, or no step is left. A part is unfit
(`Unfit`) if it is not declared as one of its kind, if it is registered already, or if it is the
same as an earlier part of its kind. All this can be told before the run begins.

Main results:

* `le_firstUnfit_iff`, `Budget.le_room_iff` — how far a run can go;
* `Work.Ready.halts_forM` — how a run of registrations stops, and how many steps it pays;
* `Halts.eq_ok_iff`, `Halts.paid_eq` — both are told by these two numbers;
* `Work.halts_registerParts`, `Work.halts_makeWorld` — the same of a world with its parts.
-/

namespace WorldForge

/-- Components, and after them systems, as parts. -/
def tagged (components systems : List Value) : List Part :=
  components.map (Prod.mk .component) ++ systems.map (Prod.mk .system)

/-- What stands among the parts stands among the components or among the systems. -/
theorem mem_of_mem_tagged {components systems : List Value} {p : Part}
    (h : p ∈ tagged components systems) : p.2 ∈ components ++ systems := by
  rcases List.mem_append.1 h with hMem | hMem
  · obtain ⟨t, ht, rfl⟩ := List.mem_map.1 hMem
    exact List.mem_append_left _ ht
  · obtain ⟨t, ht, rfl⟩ := List.mem_map.1 hMem
    exact List.mem_append_right _ ht

/-! ## Unfit parts -/

section Fitness

variable {c : Catalog} {taken : PartKind → List Key} {xs : List Part} {p : Part} {i n : Nat}

/-- **A part of a list is unfit** to be registered where templates with the keys `taken` are
registered already: it is not declared, or as something else, or it is registered already, or it is
the same as an earlier part of its kind. -/
inductive Unfit (c : Catalog) (taken : PartKind → List Key) (xs : List Part) (i : Nat) : Prop
  | undeclared {p : Part} (hAt : xs[i]? = some p) (hNone : c.get? p.2 = none)
  | misdeclared {p : Part} {d : Declaration} (hAt : xs[i]? = some p) (hGet : c.get? p.2 = some d)
      (hKind : d.isOf p.1.toTemplateKind = false)
  | registered {p : Part} (hAt : xs[i]? = some p) (hTaken : p.2.key ∈ taken p.1)
  | repeated {p q : Part} {m : Nat} (hAt : xs[i]? = some p) (hEarlier : m < i)
      (hThere : xs[m]? = some q) (hKind : q.1 = p.1) (hSame : q.2.key = p.2.key)

/-- A template is not declared as a part of some kind if it is not declared at all, or as something
else. -/
theorem not_declares_iff {k : PartKind} {t : Value} :
    ¬c.Declares k t ↔
      c.get? t = none ∨ ∃ d, c.get? t = some d ∧ d.isOf k.toTemplateKind = false := by
  cases hGet : c.get? t with
  | none => simp [Catalog.Declares, hGet]
  | some d => simp [Catalog.Declares, hGet]

/-- **What makes a part unfit, in one formula**, from which it can be decided: the part itself, what
is registered already, or an earlier part of the list. -/
theorem unfit_iff :
    Unfit c taken xs i ↔ ∃ p ∈ xs[i]?, ¬c.Declares p.1 p.2 ∨ p.2.key ∈ taken p.1 ∨
      ∃ m < i, ∃ q ∈ xs[m]?, q.1 = p.1 ∧ q.2.key = p.2.key := by
  constructor
  · intro h
    rcases h with ⟨hAt, hNone⟩ | ⟨hAt, hGet, hKind⟩ | ⟨hAt, hTaken⟩ |
      ⟨hAt, hEarlier, hThere, hKind, hSame⟩
    · exact ⟨_, hAt, .inl (not_declares_iff.2 (.inl hNone))⟩
    · exact ⟨_, hAt, .inl (not_declares_iff.2 (.inr ⟨_, hGet, hKind⟩))⟩
    · exact ⟨_, hAt, .inr (.inl hTaken)⟩
    · exact ⟨_, hAt, .inr (.inr ⟨_, hEarlier, _, hThere, hKind, hSame⟩)⟩
  · rintro ⟨p, hAt, hNot | hTaken | ⟨m, hEarlier, q, hThere, hKind, hSame⟩⟩
    · rcases not_declares_iff.1 hNot with hNone | ⟨d, hGet, hKind⟩
      · exact .undeclared hAt hNone
      · exact .misdeclared hAt hGet hKind
    · exact .registered hAt hTaken
    · exact .repeated hAt hEarlier hThere hKind hSame

instance (c : Catalog) (taken : PartKind → List Key) (xs : List Part) (i : Nat) :
    Decidable (Unfit c taken xs i) :=
  decidable_of_iff _ unfit_iff.symm

/-- Only a place of the list can be unfit. Behind the end there is nothing to be registered. -/
theorem Unfit.lt_length (h : Unfit c taken xs i) : i < xs.length := by
  obtain ⟨p, hAt, -⟩ := unfit_iff.1 h
  exact (List.getElem?_eq_some_iff.1 hAt).1

/-- The keys that are taken once a part has been registered. -/
def takenWith (taken : PartKind → List Key) (p : Part) : PartKind → List Key := fun k =>
  taken k ++ (ofKind k [p]).map Value.key

/-- When a part is registered, its key is taken for its kind, and for the other kind nothing
changes. -/
theorem mem_takenWith_iff {k : PartKind} {key : Key} :
    key ∈ takenWith taken p k ↔ key ∈ taken k ∨ p.1 = k ∧ p.2.key = key := by
  rw [takenWith, List.mem_append, List.mem_map]
  refine or_congr_right ⟨?_, ?_⟩
  · rintro ⟨t, hMem, rfl⟩
    cases List.mem_singleton.1 (mem_ofKind.1 hMem)
    exact ⟨rfl, rfl⟩
  · rintro ⟨rfl, rfl⟩
    exact ⟨p.2, mem_ofKind.2 (List.mem_singleton.2 rfl), rfl⟩

/-- Nothing is in front of the first part, so it can only be unfit by itself or for what is
registered already. -/
theorem unfit_cons_zero_iff :
    Unfit c taken (p :: xs) 0 ↔ ¬c.Declares p.1 p.2 ∨ p.2.key ∈ taken p.1 := by
  simp [unfit_iff]

/-- The others are fit if they are so once the first part is registered. -/
theorem unfit_cons_succ_iff :
    Unfit c taken (p :: xs) (i + 1) ↔ Unfit c (takenWith taken p) xs i := by
  -- an earlier part is the first one, or comes after it
  have hBefore : ∀ q : Part,
      (∃ m < i + 1, ∃ q' ∈ (p :: xs)[m]?, q'.1 = q.1 ∧ q'.2.key = q.2.key) ↔
        (p.1 = q.1 ∧ p.2.key = q.2.key) ∨
          ∃ m < i, ∃ q' ∈ xs[m]?, q'.1 = q.1 ∧ q'.2.key = q.2.key := by
    intro q
    constructor
    · rintro ⟨_ | m, hm, q', hThere, hSame⟩
      · cases hThere
        exact .inl hSame
      · exact .inr ⟨m, Nat.lt_of_succ_lt_succ hm, q', hThere, hSame⟩
    · rintro (hSame | ⟨m, hm, q', hThere, hSame⟩)
      · exact ⟨0, Nat.succ_pos i, p, rfl, hSame⟩
      · exact ⟨m + 1, Nat.succ_lt_succ hm, q', hThere, hSame⟩
  simp only [unfit_iff, hBefore, mem_takenWith_iff, List.getElem?_cons_succ, or_assoc]

/-- **The position of the first unfit part** of a list; there may be none. -/
def firstUnfit (c : Catalog) (taken : PartKind → List Key) (xs : List Part) : ℕ∞ :=
  match (List.range xs.length).find? fun i => Unfit c taken xs i with
  | none => ⊤
  | some i => i

/-- A number that is within a bound, while the next one is not, is the bound. The bound may be
infinite before this is known. -/
theorem eq_of_le_of_not_add_one_le {a : ℕ∞} (hn : (n : ℕ∞) ≤ a)
    (hNext : ¬((n + 1 : Nat) : ℕ∞) ≤ a) : a = n := by
  cases a with
  | top => exact absurd le_top hNext
  | coe m =>
    norm_cast at hn hNext ⊢
    omega

/-- **Up to the first position** all parts are fit, and no farther. -/
theorem le_firstUnfit_iff :
    (n : ℕ∞) ≤ firstUnfit c taken xs ↔ ∀ i < n, ¬Unfit c taken xs i := by
  rw [firstUnfit]
  -- where nothing is unfit, the first unfit position lies above all others
  cases hFind : (List.range xs.length).find? fun i => Unfit c taken xs i with
  | none =>
    rw [List.find?_range_eq_none] at hFind
    refine iff_of_true le_top fun i _ hUnfit => ?_
    simpa [hUnfit] using hFind i hUnfit.lt_length
  | some m =>
    obtain ⟨hUnfit, -, hBefore⟩ := List.find?_range_eq_some.1 hFind
    simp only [decide_eq_true_eq, Bool.not_eq_true', decide_eq_false_iff_not] at hUnfit hBefore
    show (n : ℕ∞) ≤ (m : ℕ∞) ↔ _
    rw [Nat.cast_le]
    constructor
    · intro hn i hi
      exact hBefore i (Nat.lt_of_lt_of_le hi hn)
    · intro hFit
      exact Nat.le_of_not_lt fun hm => hFit m hm hUnfit

/-- The place of an unfit part before which all are fit is the first that is unfit. -/
theorem firstUnfit_eq (hUnfit : Unfit c taken xs n) (hFit : ∀ i < n, ¬Unfit c taken xs i) :
    firstUnfit c taken xs = n := by
  refine eq_of_le_of_not_add_one_le (le_firstUnfit_iff.2 hFit) fun hNext => ?_
  exact le_firstUnfit_iff.1 hNext n n.lt_succ_self hUnfit

/-- If there is a first unfit place, the part there is unfit. -/
theorem unfit_of_firstUnfit_eq (h : firstUnfit c taken xs = n) : Unfit c taken xs n := by
  have hFit : ∀ i < n, ¬Unfit c taken xs i := le_firstUnfit_iff.1 h.ge
  by_contra hNext
  -- if this part were fit, too, the first position would be a later one
  have hLater : ((n + 1 : Nat) : ℕ∞) ≤ firstUnfit c taken xs := by
    refine le_firstUnfit_iff.2 fun i hi => ?_
    rcases Nat.lt_succ_iff_lt_or_eq.1 hi with hLess | rfl
    · exact hFit i hLess
    · exact hNext
  rw [h, Nat.cast_le] at hLater
  exact Nat.not_succ_le_self n hLater

end Fitness

/-! ## Steps that are left -/

namespace Budget

variable {p : Budget} {n : Nat}

/-- How many steps are left; without a limit, as many as one likes. -/
def room (p : Budget) : ℕ∞ :=
  match p.remaining? with
  | none => ⊤
  | some left => left.toNat

/-- A budget that is not overdrawn covers the steps that are left, and no more. -/
theorem le_room_iff (hZero : p.Covers 0) : (n : ℕ∞) ≤ p.room ↔ p.Covers n := by
  rw [room]
  cases hLeft : p.remaining? with
  | none => simp [Covers, hLeft]
  | some left =>
    have hNonneg := hZero left hLeft
    show (n : ℕ∞) ≤ (left.toNat : ℕ∞) ↔ _
    simp only [Nat.cast_le, Covers, hLeft, Option.some.injEq, forall_eq']
    omega

/-- The steps that would use up the limit are those that are left. -/
theorem room_eq_of_used {limit : Numeral} (hZero : p.Covers 0) (hLimit : p.limit = some limit)
    (hUsed : p.used + n = limit.toInt) : p.room = n := by
  refine eq_of_le_of_not_add_one_le ((le_room_iff hZero).2 ?_) fun hNext => ?_
  · rw [covers_iff]
    intro limit' hLimit'
    cases hLimit.symm.trans hLimit'
    exact hUsed.le
  -- one more step would not be covered
  · have hCovers := covers_iff.1 ((le_room_iff hZero).1 hNext) limit hLimit
    push_cast at hCovers
    omega

/-- One step is one too many exactly if the limit has been reached. -/
theorem eq_exhausted_of_payStep {e : Error} (hZero : p.Covers 0)
    (h : (Purse.budget p).payStep = .error e) :
    ∃ limit, p.limit = some limit ∧ p.used = limit.toInt ∧
      e = .budget (.exhausted limit limit.toInt) := by
  obtain ⟨limit, hLimit, hFull, rfl⟩ := Purse.payStep_eq_error h
  have hWithin := covers_iff.1 hZero limit hLimit
  have hUsed : p.used = limit.toInt := by
    push_cast at hWithin
    omega
  exact ⟨limit, hLimit, hUsed, by rw [hUsed]⟩

end Budget

/-! ## Runs -/

/-- **How a run of registrations stops** for which `p` pays, and how many steps are paid: all parts
are registered; or no step is left for a part, and those before it are fit; or a part is unfit, and
is refused. -/
inductive Halts (c : Catalog) (taken : PartKind → List Key) (xs : List Part) (p : Budget) :
    Except Error Unit → Nat → Prop
  | done (hFit : ∀ i, ¬Unfit c taken xs i) (hCovers : p.Covers xs.length) :
      Halts c taken xs p (.ok ()) xs.length
  | exhausted {n : Nat} {limit : Numeral} (hMore : n < xs.length)
      (hFit : ∀ i < n, ¬Unfit c taken xs i) (hLimit : p.limit = some limit)
      (hUsed : p.used + n = limit.toInt) :
      Halts c taken xs p (.error (.budget (.exhausted limit limit.toInt))) n
  | rejected {n : Nat} {k : PartKind} {t : Value} {refusal : LedgerError}
      (hAt : xs[n]? = some (k, t)) (hUnfit : Unfit c taken xs n)
      (hFit : ∀ i < n, ¬Unfit c taken xs i) (hCovers : p.Covers (n + 1))
      (hKind : refusal.kind = .dispatchRejected) :
      Halts c taken xs p (.error (.registrationRejected t k (.ledger refusal))) (n + 1)

section Runs

variable {c : Catalog} {taken : PartKind → List Key} {xs : List Part} {q : Part} {p : Budget}
  {res : Except Error Unit} {n : Nat} {e : Error}

/-- What a run of registrations raises is an error of registrations. -/
theorem Halts.within (h : Halts c taken xs p (.error e) n) : e.within .registration = true := by
  cases h <;> rfl

/-- Where the first part is fit, and the others are once it has been registered, there is no unfit
one up to the next place. -/
theorem forall_not_unfit_cons (hFirst : ¬Unfit c taken [q] 0)
    (hRest : ∀ i < n, ¬Unfit c (takenWith taken q) xs i) :
    ∀ i < n + 1, ¬Unfit c taken (q :: xs) i := by
  rintro (_ | i) hi hUnfit
  · rw [unfit_cons_zero_iff] at hFirst hUnfit
    exact hFirst hUnfit
  · exact hRest i (Nat.lt_of_succ_lt_succ hi) (unfit_cons_succ_iff.1 hUnfit)

/-- A run that goes on after a part has been registered stops as what is left of it. -/
theorem Halts.cons (hFirst : Halts c taken [q] p (.ok ()) 1)
    (hRest : Halts c (takenWith taken q) xs { p with used := p.used + (1 : Nat) } res n) :
    Halts c taken (q :: xs) p res (n + 1) := by
  obtain ⟨hFit, hOne⟩ := hFirst
  -- the first part is fit and paid for, so every position and every payment is one more
  cases hRest with
  | done hFitRest hCovers =>
    refine .done (fun i hUnfit => ?_) ?_
    · exact forall_not_unfit_cons (hFit 0) (fun i _ => hFitRest i) i (Nat.lt_succ_self i) hUnfit
    · rw [Budget.covers_add_iff, Nat.add_comm] at hCovers
      exact hCovers
  | exhausted hMore hFitRest hLimit hUsed =>
    refine .exhausted (Nat.succ_lt_succ hMore) (forall_not_unfit_cons (hFit 0) hFitRest) hLimit ?_
    rw [← hUsed]
    push_cast
    omega
  | rejected hAt hUnfit hFitRest hCovers hKind =>
    refine .rejected hAt (unfit_cons_succ_iff.2 hUnfit) (forall_not_unfit_cons (hFit 0) hFitRest)
      ?_ hKind
    rw [Budget.covers_add_iff, Nat.add_comm] at hCovers
    exact hCovers

/-- A run that stops at its first part stops there, whatever parts would follow. -/
theorem Halts.append (h : Halts c taken [q] p (.error e) n) (xs : List Part) :
    Halts c taken (q :: xs) p (.error e) n := by
  cases h with
  | exhausted hMore _ hLimit hUsed =>
    obtain rfl := Nat.lt_one_iff.1 hMore
    exact .exhausted (Nat.succ_pos _) (fun i hi => absurd hi (Nat.not_lt_zero i)) hLimit hUsed
  | rejected hAt hUnfit _ hCovers hKind =>
    obtain rfl := Nat.lt_one_iff.1 hUnfit.lt_length
    refine .rejected hAt ?_ (fun i hi => absurd hi (Nat.not_lt_zero i)) hCovers hKind
    rw [unfit_cons_zero_iff] at hUnfit ⊢
    exact hUnfit

/-! ### The two numbers

How a run stops is told by the position of the first unfit part and by the steps that are left. -/

/-- **A run of registrations goes through** exactly if neither the first unfit part nor the room in
the budget comes before its end. -/
theorem Halts.eq_ok_iff (h : Halts c taken xs p res n) (hZero : p.Covers 0) :
    res = .ok () ↔ (xs.length : ℕ∞) ≤ min (firstUnfit c taken xs) p.room := by
  rw [le_min_iff]
  cases h with
  | done hFit hCovers =>
    exact iff_of_true rfl
      ⟨le_firstUnfit_iff.2 fun i _ => hFit i, (Budget.le_room_iff hZero).2 hCovers⟩
  -- both other ends are short of the number of parts, the one by its room and the other by its fit
  | exhausted hMore _ hLimit hUsed =>
    refine iff_of_false nofun fun hBoth => ?_
    have hLeft := hBoth.2
    rw [Budget.room_eq_of_used hZero hLimit hUsed, Nat.cast_le] at hLeft
    exact absurd hMore (Nat.not_lt.2 hLeft)
  | rejected _ hUnfit _ _ _ =>
    exact iff_of_false nofun fun hBoth =>
      le_firstUnfit_iff.1 hBoth.1 _ hUnfit.lt_length hUnfit

/-- No step is left for a part, and none of those before it is unfit. -/
theorem Halts.eq_exhausted (h : Halts c taken xs p res n) (hZero : p.Covers 0)
    (hMore : p.room < xs.length) (hFirst : p.room ≤ firstUnfit c taken xs) :
    ∃ limit, p.limit = some limit ∧ res = .error (.budget (.exhausted limit limit.toInt)) := by
  cases h with
  | done _ hCovers => exact absurd ((Budget.le_room_iff hZero).2 hCovers) (not_le.2 hMore)
  | exhausted _ _ hLimit _ => exact ⟨_, hLimit, rfl⟩
  | @rejected m _ _ _ _ hUnfit _ hCovers _ =>
    -- the unfit part has been paid for, so the steps reach beyond it
    have hBeyond : ((m + 1 : Nat) : ℕ∞) ≤ firstUnfit c taken xs :=
      ((Budget.le_room_iff hZero).2 hCovers).trans hFirst
    exact absurd hUnfit (le_firstUnfit_iff.1 hBeyond m m.lt_succ_self)

/-- An unfit part for which a step is left is refused. -/
theorem Halts.eq_rejected {m : Nat} (h : Halts c taken xs p res n) (hZero : p.Covers 0)
    (hFirst : firstUnfit c taken xs = m) (hLess : (m : ℕ∞) < p.room) :
    ∃ k t, ∃ refusal : LedgerError, xs[m]? = some (k, t) ∧ refusal.kind = .dispatchRejected ∧
      res = .error (.registrationRejected t k (.ledger refusal)) := by
  have hUnfit := unfit_of_firstUnfit_eq hFirst
  cases h with
  | done hFit _ => exact absurd hUnfit (hFit m)
  -- had the purse run out first, the parts before would all be fit
  | exhausted _ hFit hLimit hUsed =>
    rw [Budget.room_eq_of_used hZero hLimit hUsed, Nat.cast_lt] at hLess
    exact absurd hUnfit (hFit m hLess)
  | rejected hAt hHere hFit _ hKind =>
    obtain rfl : _ = m := Nat.cast_inj.1 ((firstUnfit_eq hHere hFit).symm.trans hFirst)
    exact ⟨_, _, _, hAt, hKind, rfl⟩

/-- **Steps are paid** for the parts up to the first unfit one, which has cost a step too, as far as
there are any. -/
theorem Halts.paid_eq (h : Halts c taken xs p res n) (hZero : p.Covers 0) :
    (n : ℕ∞) = min (xs.length : ℕ∞) (min p.room (firstUnfit c taken xs + 1)) := by
  cases h with
  | done hFit hCovers =>
    refine (min_eq_left (le_min ((Budget.le_room_iff hZero).2 hCovers) ?_)).symm
    exact (le_firstUnfit_iff.2 fun i _ => hFit i).trans le_self_add
  | exhausted hMore hFit hLimit hUsed =>
    rw [Budget.room_eq_of_used hZero hLimit hUsed,
      min_eq_left ((le_firstUnfit_iff.2 hFit).trans le_self_add),
      min_eq_right (Nat.cast_le.2 hMore.le)]
  -- the step for the part that is rejected has been paid, hence the one more
  | rejected _ hUnfit hFit hCovers _ =>
    rw [firstUnfit_eq hUnfit hFit, ← Nat.cast_add_one,
      min_eq_right ((Budget.le_room_iff hZero).2 hCovers),
      min_eq_right (Nat.cast_le.2 hUnfit.lt_length)]

end Runs

/-! ## Work -/

/-- A world refuses a registration as one that it does not dispatch. -/
theorem World.kind_of_register_error {c : Catalog} {w : World} {k : PartKind} {t : Value}
    {refusal : LedgerError} (h : w.register c k t = .error refusal) :
    refusal.kind = .dispatchRejected := by
  rw [World.register] at h
  split at h
  · cases h
    rfl
  · split at h
    · cases h
      rfl
    · split at h
      · cases h
        rfl
      · cases h

namespace Work

variable {c : Catalog} {x : InstanceHandle} {w : World} {p : Budget} {b b' : Workbench}
  {k : PartKind} {t name : Value} {recipe : Recipe} {e : Error} {n : Nat} {xs : List Part}
  {cs ss : List Value} {s' : Site}

/-- **A workbench is ready for registrations** in the live world `w` at a handle: no fault is
planned, and `p` pays. -/
structure Ready (c : Catalog) (x : InstanceHandle) (w : World) (p : Budget) (b : Workbench) :
    Prop where
  spare : ∀ call, Fault.Spare b.site.faults call
  found : b.site.ledger.worlds.find? x.key = some w
  handle : w.handle.key = x.key
  faithful : w.Faithful c
  purse : b.purse = .budget p
  within : p.Covers 0

/-- After a part has been registered, a workbench is ready for the next one. -/
theorem Ready.next (h : Ready c x w p b) (hDone : registerPart c x k t b = .ok () b')
    (hOne : p.Covers 1) :
    ∃ w₁, Ready c x w₁ { p with used := p.used + (1 : Nat) } b' ∧
      w₁.templateKeys = takenWith w.templateKeys (k, t) := by
  obtain ⟨w₁, hSpare, hFind, hKey, hW, hPurse, hKeys⟩ :=
    (enrolled_of_registerPart hDone).next h.spare h.found h.handle h.faithful h.purse
  exact ⟨w₁, ⟨hSpare, hFind, hKey, hW, hPurse, Budget.covers_add_iff.2 hOne⟩, funext hKeys⟩

/-- Components and systems are registered in one run. -/
theorem forM_tagged (c : Catalog) (x : InstanceHandle) (cs ss : List Value) :
    (tagged cs ss).forM (fun q => registerPart c x q.1 q.2) =
      cs.forM (registerPart c x .component) >>= fun _ => ss.forM (registerPart c x .system) := by
  have hMap : ∀ (k : PartKind) (ids : List Value),
      (ids.map (Prod.mk k)).forM (fun q => registerPart c x q.1 q.2) =
        ids.forM (registerPart c x k) := fun k ids => List.forM_map
  rw [← hMap, ← hMap]
  exact List.forM_append

/-- Where a live world is found, the dispatcher is given out, and the site is as it was before. -/
theorem ends_registerParts {world components systems : Value} (hFixed : world.changeable? = none)
    (hFind : b.site.ledger.worlds.find? world.key = some w)
    (hSpare : Fault.Spare b.site.faults .dispatcher) (hComponents : components.items? = some cs)
    (hSystems : systems.items? = some ss) :
    ends (registerParts c world components systems) b =
      ends ((tagged cs ss).forM fun q => registerPart c w.handle q.1 q.2) b := by
  have hDispatch := wrapping_dispatcher_of_spare hSpare hFixed hFind
  rw [forM_tagged, registerParts, ends_bind, ends_of_ok hDispatch]
  show ends (registerEach c w.handle .component components >>= fun _ =>
    registerEach c w.handle .system systems) b = _
  rw [registerEach_of_items hComponents, registerEach_of_items hSystems]

/-- A workbench is ready in a world that has just been deployed, and has no parts yet. -/
theorem ready_of_deployWorld (hSpare : ∀ call, Fault.Spare b.site.faults call)
    (hPurse : b.purse = .budget p) (hZero : p.Covers 0)
    (hDone : deployWorld c recipe name b = .ok x b') :
    ∃ w, Ready c x w p b' ∧ w.handle = x ∧ w.templateKeys = fun _ => [] := by
  obtain ⟨-, -, hSame, hFaults, text, hName, -⟩ := deployWorld_spec hDone
  have hFind := (find?_of_deployWorld hDone).2 ⟨text, hName, rfl⟩
  refine ⟨.bare x recipe.template text recipe.executor, ⟨fun call => ?_, hFind, rfl,
    World.faithful_bare _ _ _, hSame.trans hPurse, hZero⟩, rfl, ?_⟩
  · rw [hFaults]
    exact (hSpare call).meet
  · funext k
    cases k <;> rfl

section Sorted

variable (hc : c.Consistent) (hSorted : c.Sorted)
include hc hSorted

/-- What is wrong with a part at a world without faults is told by the world. -/
theorem Ready.refused (h : Ready c x w p b) (hKey : t.changeable? = none)
    (hFails : Site.register c x k t b.site = .error e s') :
    ∃ refusal : LedgerError, e = .ledger refusal ∧ refusal.kind = .dispatchRejected := by
  have hMeet : (Fault.meet (.register k) b.site.faults).1 = none := by
    rw [Fault.meet_of_forall_ne (h.spare _)]
  -- a world that would take the part would have been given it
  cases hDone : w.register c k t with
  | ok done =>
    obtain ⟨d, w'⟩ := done
    obtain ⟨hGet, hKind, hFree, -⟩ := World.register_eq_ok_iff.1 hDone
    have hNew : t.key ∉ w.templateKeys k := by
      rw [← World.contains_iff_mem_templateKeys hc h.faithful hGet hKind, hFree]
      exact Bool.false_ne_true
    obtain ⟨s, hOk⟩ := (register_isOk_iff h.spare hc h.found h.faithful).2 ⟨⟨d, hGet, hKind⟩, hNew⟩
    cases hFails.symm.trans hOk
  | error refusal =>
    -- no fault is in the way, so that the refusal is that of the world
    have hLedger : b.site.ledger.register c x k t = .error refusal := by
      rw [Ledger.register, Ledger.world?_of_find? h.found]
      simp only [hDone]
    have hCall : Site.callBy t (c.registrationFlaw? k t) (.register k)
        (fun l => l.register c x k t) b.site =
          .error (.ledger refusal) (b.site.met (.register k)) := by
      rw [Catalog.registrationFlaw?_of_sorted hc hSorted]
      exact Site.callBy_of_refused hMeet hKey hLedger
    cases hFails.symm.trans (bind_of_error hCall)
    exact ⟨refusal, rfl, World.kind_of_register_error hDone⟩

/-- **How the registration of one part stops.** It is paid for first. -/
theorem Ready.halts_registerPart (h : Ready c x w p b) (hKey : t.changeable? = none) :
    ∃ n, Halts c w.templateKeys [(k, t)] p (ends (registerPart c x k t) b).1 n ∧
      (ends (registerPart c x k t) b).2.purse = .budget { p with used := p.used + n } := by
  have hFit : ¬Unfit c w.templateKeys [(k, t)] 0 ↔ c.Declares k t ∧ t.key ∉ w.templateKeys k := by
    rw [unfit_cons_zero_iff, not_or, not_not]
  have hTaken := registerPart_isOk_iff (k := k) (t := t) h.spare hc h.found h.faithful h.purse
  cases hDone : registerPart c x k t b with
  | ok _ b' =>
    obtain ⟨hOne, hPart⟩ := hTaken.1 ⟨b', hDone⟩
    obtain ⟨w₁, hNext, -⟩ := h.next hDone hOne
    rw [ends_of_ok hDone]
    refine ⟨1, .done (fun i hUnfit => ?_) hOne, hNext.purse⟩
    obtain rfl := Nat.lt_one_iff.1 hUnfit.lt_length
    exact hFit.2 hPart hUnfit
  | error e b' =>
    rw [ends_of_error hDone]
    have hNone : ∀ i < 0, ¬Unfit c w.templateKeys [(k, t)] i := fun i hi =>
      absurd hi (Nat.not_lt_zero i)
    -- either no step was left for the part, or it was paid for and refused
    rcases registerPart_eq_error hDone with ⟨rfl, hPay⟩ | ⟨q, e₀, hPay, rfl, hSite, rfl⟩
    · rw [h.purse] at hPay
      obtain ⟨limit, hLimit, hUsed, rfl⟩ := Budget.eq_exhausted_of_payStep h.within hPay
      exact ⟨0, .exhausted Nat.one_pos hNone hLimit (by simpa using hUsed), by simpa using h.purse⟩
    · obtain ⟨refusal, rfl, hKind⟩ := h.refused hc hSorted hKey hSite
      have hOne : p.Covers 1 := by
        rw [h.purse] at hPay
        obtain ⟨p', q', hp, hCharge, -⟩ := Purse.payStep_eq_ok_iff.1 hPay
        cases hp
        exact Budget.covers_one_iff.2 ⟨q', hCharge⟩
      have hUnfit : Unfit c w.templateKeys [(k, t)] 0 := by
        by_contra hPart
        obtain ⟨b₁, hOk⟩ := hTaken.2 ⟨hOne, hFit.1 hPart⟩
        cases hDone.symm.trans hOk
      refine ⟨1, ?_, ?_⟩
      · have hWithin : (Error.ledger refusal).within .ledger = true := by
          rw [Error.within, Error.kind, hKind]
          rfl
        rw [if_pos hWithin]
        exact .rejected rfl hUnfit hNone hOne hKind
      · show q = _
        rw [Purse.eq_after_of_payStep hPay, h.purse]
        rfl

/-- **How a run of registrations stops.** It is decided by the first unfit part, and by the steps
that are left. -/
theorem Ready.halts_forM (h : Ready c x w p b) (hKeys : ∀ q ∈ xs, q.2.changeable? = none) :
    ∃ n, Halts c w.templateKeys xs p (ends (xs.forM fun q => registerPart c x q.1 q.2) b).1 n ∧
      (ends (xs.forM fun q => registerPart c x q.1 q.2) b).2.purse =
        .budget { p with used := p.used + n } := by
  induction xs generalizing w p b with
  | nil =>
    have hPaid : b.purse = .budget { p with used := p.used + (0 : Nat) } := by
      simpa using h.purse
    exact ⟨0, .done (fun i hUnfit => Nat.not_lt_zero i hUnfit.lt_length) h.within, hPaid⟩
  | cons q rest ih =>
    obtain ⟨k, t⟩ := q
    obtain ⟨n, hFirst, hPaid⟩ := h.halts_registerPart hc hSorted (k := k) (hKeys _ (.head _))
    have hRun : ((k, t) :: rest).forM (fun q => registerPart c x q.1 q.2) =
        registerPart c x k t >>= fun _ => rest.forM fun q => registerPart c x q.1 q.2 := rfl
    rw [hRun, ends_bind]
    cases hDone : registerPart c x k t b with
    -- what follows meets the world with the part in it, and a purse that has paid one step
    | ok _ b₁ =>
      rw [ends_of_ok hDone] at hFirst
      obtain ⟨hOne, -⟩ :=
        (registerPart_isOk_iff h.spare hc h.found h.faithful h.purse).1 ⟨b₁, hDone⟩
      obtain ⟨w₁, hNext, hTaken⟩ := h.next hDone hOne
      obtain ⟨m, hRest, hPaidRest⟩ := ih hNext fun q hq => hKeys q (.tail _ hq)
      rw [hTaken] at hRest
      cases hFirst with
      | done hFit hCovers =>
        rw [ends_of_ok hDone]
        refine ⟨m + 1, Halts.cons (.done hFit hCovers) hRest, hPaidRest.trans ?_⟩
        push_cast
        rw [Int.add_assoc, Int.add_comm 1]
    | error e b₁ =>
      rw [ends_of_error hDone] at hFirst hPaid ⊢
      exact ⟨n, hFirst.append rest, hPaid⟩

/-- **How a run over components and systems stops** in the live world at a value. -/
theorem halts_registerParts {world components systems : Value} (hFixed : world.changeable? = none)
    (hFind : b.site.ledger.worlds.find? world.key = some w) (h : Ready c w.handle w p b)
    (hComponents : components.items? = some cs) (hSystems : systems.items? = some ss)
    (hKeys : ∀ t ∈ cs ++ ss, t.changeable? = none) :
    ∃ n, Halts c w.templateKeys (tagged cs ss) p
        (ends (registerParts c world components systems) b).1 n ∧
      (ends (registerParts c world components systems) b).2.purse =
        .budget { p with used := p.used + n } := by
  rw [ends_registerParts hFixed hFind (h.spare _) hComponents hSystems]
  exact h.halts_forM hc hSorted fun q hq => hKeys q.2 (mem_of_mem_tagged hq)

/-- **How the making of a world stops** that the ledger deploys at a handle: as a run over its parts
in a world with none. -/
theorem halts_makeWorld {plan : Ledger.Plan} {l : Ledger}
    (hSpare : ∀ call, Fault.Spare b.site.faults call) (hPurse : b.purse = .budget p)
    (hZero : p.Covers 0)
    (hDeploy : b.site.ledger.deploy c recipe.template
      (Argument.values [name, .handle recipe.executor]) =
      .ok ((plan, x), l)) (hKeys : ∀ t ∈ cs ++ ss, t.changeable? = none) :
    ∃ n res, Halts c (fun _ => []) (tagged cs ss) p res n ∧
      (ends (makeWorld c recipe name cs ss) b).1 =
        (res.mapError (.registrationFailed name x)).map (fun _ => x) ∧
      (ends (makeWorld c recipe name cs ss) b).2.purse = .budget { p with used := p.used + n } := by
  obtain ⟨b₁, hDone⟩ : ∃ b₁, deployWorld c recipe name b = .ok x b₁ := by
    obtain ⟨hPlan, -⟩ := Ledger.deploy_eq_ok hDeploy
    obtain ⟨hTemplate, ⟨text, hName, hText, -⟩, hExecutor⟩ := Ledger.plan_eq_ok_iff.1 hPlan
    obtain ⟨y, b₁, hDone⟩ :=
      (deployWorld_isOk_iff hSpare hc).2 ⟨hTemplate, ⟨text, hName, hText⟩, hExecutor⟩
    obtain ⟨s, hSite, -⟩ := deployWorld_eq_ok_iff.1 hDone
    obtain ⟨-, -, -, plan', l', hLedger, -⟩ := Site.deploy_eq_ok_iff.1 hSite
    cases hLedger.symm.trans hDeploy
    exact ⟨b₁, hDone⟩
  obtain ⟨w, hReady, rfl, hBare⟩ := ready_of_deployWorld hSpare hPurse hZero hDone
  have hFixed : (Value.handle w.handle).changeable? = none := rfl
  have hItems : ∀ ids, (Value.list ids).items? = some ids := fun _ => rfl
  obtain ⟨n, hHalts, hPaid⟩ :=
    halts_registerParts hc hSorted hFixed hReady.found hReady (hItems cs) (hItems ss) hKeys
  rw [hBare] at hHalts
  refine ⟨n, _, hHalts, ?_, ?_⟩
  -- whatever stops the registrations is an error of registrations, and becomes the cause of another
  · rw [ends_makeWorld hDone]
    generalize (ends (registerParts c (.handle w.handle) (.list cs) (.list ss)) b₁).1 = res
      at hHalts
    cases res with
    | error e =>
      show Except.error (raisedFor name _ e) = _
      rw [raisedFor, if_pos hHalts.within]
      rfl
    | ok _ => rfl
  · rw [ends_makeWorld hDone]
    exact hPaid

end Sorted

end Work

end WorldForge
