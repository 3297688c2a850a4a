import WorldForge.Proofs.Factory.Making
import WorldForge.Proofs.Scenario.Announcements
import WorldForge.Proofs.Scenario.Walks

/-!
# Recipes in force

An administrator may change the recipe of a factory at any time, and also while the factory tells
its sink of a new world. What is changed then is the recipe of the worlds to come. Every world that
a factory has founded keeps the name that was asked for, and the template and the executor that were
in force when the operation was called, whatever comes of the operation and whatever is set later
on.

On the other hand, the recipe in force is what administrators have made of it, and nothing else. No
operation changes it or takes a change back, be it that it succeeds or that it is undone.

Main results:

* `Realm.Wrought.world` — what an operation has founded is still known later on, as it was made;
* `Walk.inForce` — a field of the recipe in force is what has been handed over last on the way;
* `recipes_in_force` — both of them, all the way of every walk.
-/

namespace WorldForge

variable {κ : Type}

/-! ## Fields -/

/-- The two fields of a recipe. -/
inductive RecipeField where
  | template
  | executor

namespace RecipeField

variable {a : Factory.Administration} {c : Configuration} {recipe : Recipe}

/-- What stands in a field. -/
def of : RecipeField → Recipe → Value
  | template, recipe => .template recipe.template
  | executor, recipe => .handle recipe.executor

/-- What an administrative call hands over for a field. -/
def handed : RecipeField → Factory.Administration → Option Value
  | template, .setUp t _ | template, .setTemplate t => some t
  | executor, .setUp _ h | executor, .setExecutor h => some h
  | template, .setExecutor _ | executor, .setTemplate _ => none

/-- What stands in a field of the recipe in force. -/
def inForce (f : RecipeField) (c : Configuration) : Option Value := c.current.map f.of

/-- **A call that is taken** puts in force what it hands over, and leaves the other field as it was.
-/
theorem of_change (f : RecipeField) (h : a.change c = .ok recipe) :
    f.inForce (.holding recipe) = (f.handed a).or (f.inForce c) := by
  cases a with
  | setUp t x =>
    obtain ⟨-, rfl, rfl⟩ := Configuration.setUp_eq_ok_iff.1 h
    cases f <;> rfl
  | setExecutor x =>
    obtain ⟨old, y, rfl, rfl, rfl⟩ := Configuration.setExecutor_eq_ok_iff.1 h
    cases f <;> rfl
  | setTemplate t =>
    obtain ⟨old, u, rfl, rfl, rfl⟩ := Configuration.setTemplate_eq_ok_iff.1 h
    cases f <;> rfl

/-- How a factory is asked for a field. -/
def question : RecipeField → Scenario.Method
  | template => .worldTemplate
  | executor => .executor

/-- What a deed hands over for a field of factory `i`: an administrative call does, if it succeeds.
-/
def given (f : RecipeField) (i : Nat) (d : Deed × Realm κ) : Option Value :=
  match d.1 with
  | .administer i' a => if i' = i ∧ (ends (a.act i) d.2).1.isOk then f.handed a else none
  | .charge .. | .operate .. => none

/-- What has been handed over last for a field of factory `i`. -/
def latest (f : RecipeField) (i : Nat) (ds : List (Deed × Realm κ)) : Option Value :=
  (ds.filterMap (f.given i)).getLast?

/-- What a deed makes of a field: it hands something over for it, or leaves it as it is. -/
theorem of_configure (f : RecipeField) (i : Nat) (d : Deed) (r : Realm κ) :
    f.inForce (Deed.configure i (r.factory i).configuration (d, r)) =
      (f.given i (d, r)).or (f.inForce (r.factory i).configuration) := by
  cases d with
  | charge k steps => rfl
  | operate i' o => rfl
  | administer i' a =>
    -- only what is asked of this factory, and is not refused, gives it a new recipe
    by_cases hOwn : i' = i
    · subst hOwn
      rcases a.act_outcome i' r with ⟨e, hRefused, hEnd⟩ | ⟨recipe, hTaken, hEnd⟩
      · simp [Deed.configure, hRefused, given, ends_of_error hEnd, Except.isOk, Except.toBool]
      · simp [Deed.configure, hTaken, given, ends_of_ok hEnd, Except.isOk, Except.toBool,
          f.of_change hTaken]
    · simp [Deed.configure, given, hOwn]

end RecipeField

/-! ## Founded worlds -/

namespace Realm

variable {i j : Nat} {o : Operation} {r t : Realm κ} {recipe : Recipe} {x : InstanceHandle}

/-- A ledger that is not there founds nothing: it has nothing to deploy from. -/
theorem there_of_get? {given : Value} {d : Declaration} (hLawful : r.Lawful)
    (hGet : (r.catalogFor j).get? given = some d) : j < r.next := by
  by_contra hAbsent
  rw [catalogFor, hLawful.absent j (Nat.le_of_not_lt hAbsent)] at hGet
  cases hGet

/-- **What an operation has founded is known later on**, as it was made. -/
theorem Wrought.world (hWrought : Wrought i o r t) (hLawful : r.Lawful) (hTidy : r.Tidy)
    (hFounds : o.Founds i r j recipe x) :
    ∃ w, (t.ledger j).ledger.world? x = some w ∧ w.MadeBy recipe o.name? := by
  obtain @⟨p, res, b, w, hLedger, hRecipe, hPurse, hWork, hNew, hKnown⟩ := hFounds
  obtain ⟨r₁, hTo, hScene, hOn⟩ := hWrought hLedger hRecipe hPurse hWork
  rcases Operation.madeBy_of_work (hTidy j) hWork hKnown with ⟨w₀, hOld, -⟩ | ⟨hMade, d, hGet⟩
  · cases hNew.symm.trans hOld
  -- from the realm in which the work is done, the world stays known
  · have hKnown₁ : (r₁.scene j).ledger.world? x = some w := by
      rw [hScene]
      exact hKnown
    have hThere : j < r₁.next := Nat.lt_of_lt_of_le (there_of_get? hLawful hGet) hTo.next_le
    obtain ⟨-, -, w', hKnown', hHead⟩ := (stable_known j x w).holds hOn
      ⟨stable_tidy.holds hTo hTidy, hThere, w, hKnown₁, .refl w⟩
    exact ⟨w', hKnown', hMade.of_sameHead hHead⟩

end Realm

namespace Scenario

variable {r₀ r : Realm Code} {hs : List (Deed × Realm Code)} {i : Nat}

/-! ## On the way -/

/-- **A field of the recipe in force** is what has been handed over last on the way, or what it was
at the beginning. -/
theorem Walk.inForce (h : Walk r₀ hs r) (hi : i < r₀.next) (f : RecipeField) :
    f.inForce (r.factory i).configuration =
      (f.latest i hs).or (f.inForce (r₀.factory i).configuration) := by
  refine (h.holds (V := fun hs r => i < r.next ∧ f.inForce (r.factory i).configuration =
      (f.latest i hs).or (f.inForce (r₀.factory i).configuration))
    (fun hs r t hStill hHere => ?_) (fun hs s r t hDone hHere => ?_) ⟨hi, rfl⟩).2
  · refine ⟨Nat.lt_of_lt_of_le hHere.1 hStill.next_le, ?_⟩
    rw [hStill.configurations i hHere.1]
    exact hHere.2
  · refine ⟨Nat.lt_of_lt_of_le hHere.1 hDone.next_le, ?_⟩
    rw [hDone.configurations i hHere.1]
    rcases s.deeds_cases r with hNone | ⟨d, hOne⟩
    · rw [hNone, List.append_nil]
      exact hHere.2
    -- what the deed of the step hands over comes after all that has been handed over before
    · have hLatest : f.latest i (hs ++ [(d, r)]) = (f.given i (d, r)).or (f.latest i hs) := by
        rw [RecipeField.latest, List.filterMap_append, List.getLast?_append]
        cases hGiven : f.given i (d, r) <;> simp [hGiven, RecipeField.latest]
      rw [hOne, List.foldl_cons, List.foldl_nil, f.of_configure, hLatest, hHere.2, Option.or_assoc]

/-! ## Recipes -/

/-- **What a factory answers** when it is asked for a field of the recipe in force. -/
def Answers (f : RecipeField) (i : Nat) (r : Realm Code) : Option Value → Prop
  | some v => ∀ run, Call.invoke run (.object .factory i) f.question [] none r = .ok (.value v) r
  | none => ∀ run, Call.invoke run (.object .factory i) f.question [] none r =
      .error (.configuration .notSetUp) r

/-- A factory that is asked for a field of its recipe answers with the field as it is in force, or
raises that there is no recipe. -/
theorem answers_inForce (f : RecipeField) (i : Nat) (r : Realm Code) :
    Answers f i r (f.inForce (r.factory i).configuration) := by
  have hCall : ∀ run, Call.invoke run (.object .factory i) f.question [] none r =
      (release (r.factory i).recipe >>= fun recipe => Call.give (f.of recipe)) r := by
    intro run
    cases f <;> rfl
  rcases hConfiguration : (r.factory i).configuration with ⟨_ | recipe⟩
  · intro run
    rw [hCall, bind_of_error (Factory.release_recipe_blank hConfiguration)]
  · intro run
    rw [hCall, bind_of_ok (Factory.release_recipe hConfiguration)]
    rfl

/-- **An operation has kept to the recipe in force.** What it gives is a world that it has founded,
and whatever it has founded, by the recipe that was in force when it was called, is still known in
the realm `t`, as it was made: with the name that was asked for, and with the template and the
executor of the recipe. -/
structure Kept (i : Nat) (o : Operation) (r t : Realm Code) : Prop where
  founds : ∀ run a r', o.act run i r = .ok a r' → ∀ x ∈ o.made a,
    ∃ j recipe, o.Founds i r j recipe x
  lasting : ∀ j recipe x, o.Founds i r j recipe x →
    ∃ w, (t.ledger j).ledger.world? x = some w ∧ w.MadeBy recipe o.name?

/-- **Administration concerns the worlds to come.** From any state of a session, a walk leads to
every state that comes after it, and from every walk a step goes on with its deed. Each deed on a
walk begins where the walk has come by the deeds before it, and a walk comes through the code that
its steps run in the order in which it is run (`Step.mem_passages_iff`, `Step.passages_pairwise`).
Wherever a walk has come, a factory answers with what has been handed over last by a call that has
succeeded; and all operations on the walk have kept to the recipe that was in force when they were
called. -/
theorem recipes_in_force (hStart : After .empty r₀) :
    (∀ r, After r₀ r → ∃ hs, Walk r₀ hs r) ∧
    ∀ hs r, Walk r₀ hs r →
      (∀ depth (s : Step), ∃ hs',
        Walk r₀ (hs ++ s.deeds r ++ hs') (ends (s.run (runCode depth)) r).2) ∧
      (∀ earlier d later, hs = earlier ++ d :: later → Walk r₀ earlier d.2) ∧
      (∀ i < r₀.next, ∀ f, Answers f i r
        ((f.latest i hs).or (f.inForce (r₀.factory i).configuration))) ∧
      ∀ i o s, (.operate i o, s) ∈ hs → Kept i o s r := by
  refine ⟨fun r => exists_walk_of_after, fun hs r hWalk =>
    ⟨fun depth s => hWalk.exists_past depth s,
    fun earlier d later hParts => hWalk.to_deed hParts, fun i hi f => ?_, fun i o s hMem => ?_⟩⟩
  · rw [← hWalk.inForce hi f]
    exact answers_inForce f i r
  -- the realm in which the operation began is on the walk, so it is a lawful one
  · obtain ⟨earlier, later, hParts⟩ := List.append_of_mem hMem
    have hThere : Realm.Evolves .empty s :=
      hStart.evolves.trans (hWalk.to_deed hParts).explained.evolves
    have hLawful := Realm.stable_lawful.holds hThere Realm.lawful_empty
    have hTidy := Realm.stable_tidy.holds hThere Realm.tidy_empty
    exact ⟨fun run a r' hAct x hMade => Operation.founds_of_act hTidy hAct hMade,
      fun j recipe x hFounds =>
        Realm.Wrought.world (hWalk.explained.works i o s hMem) hLawful hTidy hFounds⟩

/-! ## In a small session -/

namespace Rehearsal

/-- When the sink is told of a world, it has a second executor deployed, and sets it. -/
def meddling : Reaction Code :=
  ⟨some [calling "ledger" .deploy [engine, .list []] (some "spare"),
    calling "factory" .setExecutor [.name "spare"] none], none⟩

/-- Sets up a factory with such a sink. It is object 3. -/
def hiring : Code :=
  steps.take 3 ++
  [.mk (.createScripted [some meddling]) ⟨[], none, none⟩ (some "sink") false,
   .mk (.create .factory) ⟨[.name "ledger", .name "sink"], none, none⟩ (some "factory") false,
   calling "factory" .setUp [world, .name "engine"] none]

/-- The realm when the factory is set up. -/
def staffed : Realm Code := hiring.foldl (fun r s => (ends (s.run (runCode 3)) r).2) opened

/-- Spawns a world. -/
def digging : Step := calling "factory" .spawn [.value (.str "pit")] none

/-- The realm when the world has been spawned. -/
def dug : Realm Code := (ends (digging.run (runCode 3)) staffed).2

end Rehearsal

/-- The sink sets another executor while it is told of the first world. The factory answers with it
from then on, but the world has the executor that was in force when the spawn was called. -/
theorem recipes_in_force_rehearsal :
    ∃ hs x r' w, Walk Rehearsal.staffed hs Rehearsal.dug ∧
      RecipeField.executor.latest 3 hs = some (.handle (.ofInt 0x1002)) ∧
      Rehearsal.pit.act (runCode 3) 3 Rehearsal.staffed = .ok x r' ∧
      (Rehearsal.dug.ledger 1).ledger.world? x = some w ∧ w.name = "pit" ∧
      w.executor = .ofInt 0x1000 := by
  have hStart : After .empty Rehearsal.staffed :=
    (Rehearsal.later_opened.trans (later_foldl 3 _ _)).after
  have hDeed : Rehearsal.digging.deeds Rehearsal.staffed =
      [(.operate 3 Rehearsal.pit, Rehearsal.staffed)] := by rfl
  have hRecipe : (Rehearsal.staffed.factory 3).configuration = .holding Rehearsal.inForce := by
    decide +kernel
  have hSpawns : (ends (Rehearsal.pit.act (runCode 3) 3) Rehearsal.staffed).1.isOk = true := by
    decide +kernel
  have hSet : (Rehearsal.dug.factory 3).configuration =
      .holding ⟨.ofInt 1, .ofInt 0x1002⟩ := by decide +kernel
  have hThere : 3 < Rehearsal.staffed.next := by decide +kernel
  have hOwn : (Rehearsal.staffed.factory 3).ledger = .object .ledger 1 := rfl
  have hWalks := (recipes_in_force hStart).2
  obtain ⟨hs, hWalk⟩ : ∃ hs, Walk Rehearsal.staffed
      (Rehearsal.digging.deeds Rehearsal.staffed ++ hs) Rehearsal.dug :=
    (hWalks [] _ .here).1 3 Rehearsal.digging
  obtain ⟨-, -, -, hKept⟩ := hWalks _ _ hWalk
  obtain ⟨x, r', hAct⟩ := exists_ok_of_ends hSpawns
  obtain ⟨hFounds, hLasting⟩ := hKept 3 Rehearsal.pit Rehearsal.staffed (by rw [hDeed]; simp)
  obtain ⟨j, recipe, hFounded⟩ := hFounds _ x r' hAct x (List.mem_singleton_self x)
  obtain ⟨w, hKnown, hName, -, hExecutor⟩ := hLasting j recipe x hFounded
  obtain ⟨hLedger, hInForce, -, -, -, -⟩ := hFounded
  cases hOwn.symm.trans hLedger
  cases hRecipe.symm.trans hInForce
  refine ⟨_, x, r', w, hWalk, ?_, hAct, hKnown, ?_, hExecutor⟩
  -- the executor that is in force at the end is not the one from the beginning
  · have hNow := hWalk.inForce hThere .executor
    rw [hSet, hRecipe] at hNow
    cases hLatest : RecipeField.executor.latest 3 _ with
    | none =>
      rw [hLatest] at hNow
      cases hNow
    | some v =>
      rw [hLatest] at hNow
      exact hNow.symm
  · exact (Value.str.inj (Option.some.inj hName)).symm

end Scenario

end WorldForge
