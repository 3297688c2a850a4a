import WorldForge.Proofs.Factory.Course
import WorldForge.Proofs.Factory.FirstError
import WorldForge.Proofs.Factory.Pieces

/-!
# What the records tell

The work of an operation writes debug records only. One of them stands for each entry of the
journal (`Workbench.Told`). What follows depends on how the operation comes out: a spawn announces
its success, and of a failure there is a warning before the undoing writes anything (`Undo.trail`).

Main results:

* `Work.told_run`, `Work.Taken.keeps` — each stage of work leaves records that tell of the journal,
  and so does all work;
* `Undo.log_of_unwound`, `Undo.errors_trail` — what an undoing writes, and that its errors are about
  the entries that have failed;
* `Operation.records_tell_course` — what is recorded of an operation, however it comes out.
-/

namespace WorldForge

variable {κ : Type}

/-! ## Records -/

namespace LogRecord

variable {level : LogLevel} {records : List LogRecord}

/-- The records of a level. -/
def ofLevel (level : LogLevel) (records : List LogRecord) : List LogRecord :=
  records.filter fun x => x.level = level

/-- The call that has been entered in a journal, if a record tells of one. -/
def journaled? : LogRecord → Option CallText
  | journaled call => some call
  | _ => none

/-- The records of a level are picked from each of two stretches of records by itself. -/
theorem ofLevel_append (level : LogLevel) (records more : List LogRecord) :
    ofLevel level (records ++ more) = ofLevel level records ++ ofLevel level more :=
  List.filter_append ..

theorem ofLevel_eq_nil (h : ∀ x ∈ records, x.level ≠ level) : ofLevel level records = [] := by
  simpa [ofLevel] using h

end LogRecord

/-- The record that stands in a trace, if an entry is one. -/
def Entry.record? : Entry → Option LogRecord
  | log x => some x
  | _ => none

/-- All records that are entered in a trace are found there again, in the same order. -/
theorem Entry.filterMap_record? (records : List LogRecord) :
    (records.map log).filterMap record? = records := by
  simp [List.filterMap_map, record?, Function.comp_def]

namespace Realm

variable {r r₁ : Realm κ} {j : Nat} {o : Operation} {p : Purse} {b : Workbench}

/-- The records in the trace of a realm, the oldest one first. -/
def records (r : Realm κ) : List LogRecord := r.trace.filterMap Entry.record?

/-- Records that are appended to a trace come behind those of the realm. -/
theorem records_appendTrace (r : Realm κ) (records : List LogRecord) :
    (r.appendTrace (records.map .log)).records = r.records ++ records := by
  show (r.trace ++ _).filterMap _ = _
  rw [List.filterMap_append, Entry.filterMap_record?]
  rfl

/-- When work on a site is over, the records of the site come behind those of the realm. -/
theorem records_closed (r : Realm κ) (j : Nat) (s : Site) :
    (r.closed j s).records = r.records ++ s.log :=
  records_appendTrace _ s.log

/-- The realm has the records of the work when it is done. -/
theorem records_of_begun (h : o.Begun j r p b r₁) : r₁.records = r.records ++ b.site.log := by
  cases h with
  | kept =>
    obtain ⟨budgets, hKept⟩ := (r.closed j b.site).kept_eq b.purse o.budget
    rw [hKept]
    exact records_closed r j b.site
  | closed _ => exact records_closed r j b.site
  | idle _ hIdle =>
    rw [hIdle]
    exact (List.append_nil _).symm

end Realm

/-! ## Work -/

/-- **The records of a site tell of calls**: they are debug records, and those of entries in a
journal are about these calls, in their order. -/
structure Site.Tells (calls : List CallText) (s : Site) : Prop where
  debug : ∀ x ∈ s.log, x.level = .debug
  journaled : s.log.filterMap LogRecord.journaled? = calls

namespace Site

variable {calls : List CallText} {x : LogRecord} {s : Site}

/-- What the records of a site tell does not depend on the faults that are planned there. -/
theorem Tells.withFaults (s : Site) (faults : List Fault) (hs : s.Tells calls) :
    { s with faults }.Tells calls :=
  ⟨hs.debug, hs.journaled⟩

/-- One more debug record keeps the records in step with the calls, if the call that it tells of is
put behind the others, should it tell of one. -/
theorem Tells.append (hs : s.Tells calls) (hDebug : x.level = .debug) :
    { s with log := s.log ++ [x] }.Tells (calls ++ x.journaled?.toList) where
  debug y hMem := by
    rcases List.mem_append.1 hMem with hOld | hNew
    · exact hs.debug y hOld
    · obtain rfl := List.mem_singleton.1 hNew
      exact hDebug
  journaled := by
    rw [List.filterMap_append, hs.journaled]
    cases h : x.journaled? <;> simp [h]

/-- A debug record that tells of no entry leaves the calls as they are. -/
theorem tells_report (hDebug : x.level = .debug) (hOther : x.journaled? = none) :
    Keeps (Tells calls) (report x) :=
  leads_modify fun s hs => by simpa [hOther] using hs.append hDebug

/-- A call on a ledger writes no record by itself, whether it succeeds or not. -/
theorem tells_callBy {α : Type} {key : Value} {flaw : Option Error} {call : LedgerCall}
    {op : Ledger → Except LedgerError (α × Ledger)} :
    Keeps (Tells calls) (callBy key flaw call op) :=
  keeps_callBy Tells.withFaults fun _ _ _ hs _ => ⟨hs.debug, hs.journaled⟩

/-- A deployment records what it has deployed, which is no entry in a journal. -/
theorem tells_deploy (c : Catalog) (given : Value) (args : List Argument) :
    Keeps (Tells calls) (deploy c given args) := by
  -- what the ledger reports depends on what it has deployed
  refine tells_callBy.bind fun ⟨plan, h⟩ => Alike.bind (tells_report ?_ ?_) fun _ => leads_pure h
  · cases plan <;> rfl
  · cases plan <;> rfl

/-- A registration records what it has registered, which is no entry in a journal. -/
theorem tells_register (c : Catalog) (x : InstanceHandle) (k : PartKind) (t : Value) :
    Keeps (Tells calls) (register c x k t) :=
  tells_callBy.bind fun _ => tells_report rfl rfl

end Site

/-- **The records of a workbench tell of its journal**, and of the oldest entry first. -/
def Workbench.Told (b : Workbench) : Prop := b.site.Tells (b.journal.reverse.map Undo.text)

/-- Work writes debug records only, so none of another level is found on the workbench. -/
theorem Workbench.Told.ofLevel_eq_nil {b : Workbench} {level : LogLevel} (h : b.Told)
    (hNot : level ≠ .debug) : LogRecord.ofLevel level b.site.log = [] := by
  refine LogRecord.ofLevel_eq_nil fun x hMem => ?_
  rw [h.debug x hMem]
  exact hNot.symm

namespace Work

variable {c : Catalog} {recipe : Recipe} {raise : Stage → Error → Error} {stages : List Stage}
  {b b' : Workbench} {res : Except Error Unit}

/-- What is done on a site keeps records and journal in step, as it enters nothing in the
journal. -/
theorem told_onSite {α : Type} {y : SiteM α} (h : ∀ calls, Keeps (Site.Tells calls) y) :
    Keeps Workbench.Told (onSite y) := by
  refine leads_of_forall fun b hb => ?_
  rw [ends_onSite]
  exact (h _).holds hb

/-- A debug record that tells of no entry keeps records and journal in step. -/
theorem told_report {x : LogRecord} (hDebug : x.level = .debug) (hOther : x.journaled? = none) :
    Keeps Workbench.Told (report x) :=
  told_onSite fun _ => Site.tells_report hDebug hOther

/-- An entry and its record are made together. -/
theorem told_enter (u : Undo) : Keeps Workbench.Told (enter u) := by
  refine leads_of_forall fun b hb => ?_
  rw [ends_of_ok (enter_eq u b)]
  have hEntered := Site.Tells.append (x := .journaled u.text) hb rfl
  simpa [Workbench.Told, LogRecord.journaled?] using hEntered

/-- Paying a step neither records nor journals anything. -/
theorem told_payStep : Keeps Workbench.Told payStep := by
  refine leads_of_forall fun b hb => ?_
  cases hPay : payStep b with
  | ok _ b' =>
    obtain ⟨q, -, rfl⟩ := payStep_eq_ok_iff.1 hPay
    rw [ends_of_ok hPay]
    exact hb
  | error e b' =>
    obtain rfl := payStep_eq_error hPay
    rw [ends_of_error hPay]
    exact hb

/-- **Every stage of work** leaves records that tell of the journal, whether it goes through or
not. -/
theorem told_run (c : Catalog) (recipe : Recipe) (stage : Stage) :
    Keeps Workbench.Told (stage.run c recipe) := by
  -- the journal gets an entry and the records get its report together, or neither does
  cases stage with
  | deploy name =>
    refine (told_onSite fun _ => Site.tells_deploy c recipe.template _).bind fun _ => ?_
    exact (told_enter _).bind fun _ => told_report rfl rfl
  | dispatcher world =>
    exact (told_onSite fun _ => Site.tells_callBy).bind fun _ => leads_pure ()
  | pay => exact told_payStep
  | register x k t =>
    refine (told_onSite fun _ => Site.tells_register c x k t).bind fun _ => ?_
    exact (told_enter _).bind fun _ => leads_get.bind fun b =>
      (leads_release b.purse.used).bind fun _ => told_report rfl rfl
  | notIterable parts => exact leads_throw _
  | lacking given feature => exact leads_throw _

/-- What every stage keeps is kept by work, however far it comes. -/
theorem Taken.keeps {V : Workbench → Prop} (hStages : ∀ stage : Stage, Keeps V (stage.run c recipe))
    (h : Taken c recipe raise stages b res b') (hb : V b) : V b' := by
  induction h with
  | nil => exact hb
  | @next stage _ _ _ _ _ hRun _ ih =>
    have hNext := (hStages stage).holds hb
    rw [ends_of_ok hRun] at hNext
    exact ih hNext
  | @stop stage _ _ _ _ hRun =>
    have hLast := (hStages stage).holds hb
    rwa [ends_of_error hRun] at hLast

end Work

/-! ## Undoing -/

namespace Undo

variable {u : Undo} {s s' : Site} {e : Error} {journal : List Undo} {x : LogRecord}
  {os : List (Except Error Unit)}

/-- What is recorded of an entry that has been run, by its outcome. -/
def records : Undo → Except Error Unit → List LogRecord
  | u, .error _ => [.compensationFailed u.text]
  | destroy h, .ok () => [.instanceDestroyed (.handle h)]
  | deregister .., .ok () => []

/-- **What an undoing writes**, by the outcomes of the entries in the order in which they are
run. -/
def trail (journal : List Undo) (os : List (Except Error Unit)) : List LogRecord :=
  (journal.zip os).flatMap fun p => p.1.records p.2

/-- A registration is taken back without a record. -/
theorem log_of_deregister (x : InstanceHandle) (k : PartKind) (t : Value) (s : Site) :
    (ends (Site.deregister x k t) s).2.log = s.log := by
  have hKeeps : Keeps (fun s' : Site => s'.log = s.log) (Site.deregister x k t) :=
    (Site.keeps_meetFaults (fun _ _ hLog => hLog) _).bind fun _ =>
      Site.keeps_onLedger fun _ _ _ hLog _ => hLog
  exact hKeeps.holds rfl

/-- An entry that is undone without an error leaves the records that belong to it behind those of
the site, and no others. -/
theorem log_of_run (h : u.run s = .ok () s') : s'.log = s.log ++ u.records (.ok ()) := by
  cases u with
  | destroy x =>
    obtain ⟨_, s₁, hCall, hReport⟩ := bind_eq_ok_iff.1 h
    obtain ⟨-, -, -, l, -, rfl⟩ := Site.callBy_eq_ok_iff.1 hCall
    cases hReport
    rfl
  | deregister x k t =>
    have hRun : Site.deregister x k t s = .ok () s' := h
    have hLog := log_of_deregister x k t s
    rw [ends_of_ok hRun] at hLog
    exact hLog.trans (List.append_nil _).symm

/-- An entry that fails writes nothing. That it has failed is recorded by those who run it. -/
theorem log_of_run_error (h : u.run s = .error e s') : s'.log = s.log := by
  cases u with
  | destroy x =>
    rcases bind_eq_error_iff.1 h with hCall | ⟨_, s₁, -, hReport⟩
    · rw [Site.callBy_eq_error hCall]
      rfl
    · cases hReport
  | deregister x k t =>
    have hRun : Site.deregister x k t s = .error e s' := h
    have hLog := log_of_deregister x k t s
    rwa [ends_of_error hRun] at hLog

/-- **What an undoing writes**: the records of its entries in running order, which can be told from
the journal and the outcomes. -/
theorem log_of_unwound (h : Unwound Site.report text run s journal os s') :
    s'.log = s.log ++ trail journal os := by
  -- the newest entry is run first, so the trail goes on with the older ones
  induction h with
  | nil s => exact (List.append_nil _).symm
  | undone hUndo _ ih =>
    rw [ih, log_of_run hUndo, List.append_assoc]
    rfl
  | @failed s s₁ s₂ s' u older os e hUndo hReport _ ih =>
    have hFailed : s₂.log = s.log ++ u.records (.error e) := by
      rw [Site.report_eq] at hReport
      cases hReport
      rw [log_of_run_error hUndo, records]
    rw [ih, hFailed, List.append_assoc]
    rfl

/-- What an undoing writes are debug records of what has been undone, and errors about what has
failed. None tells of an entry. -/
theorem grade_of_mem_trail (hMem : x ∈ trail journal os) :
    (x.level = .debug ∨ x.level = .error) ∧ x.journaled? = none := by
  obtain ⟨⟨u, out⟩, -, hIn⟩ := List.mem_flatMap.1 hMem
  cases out with
  | error e =>
    obtain rfl := List.mem_singleton.1 hIn
    exact ⟨.inr rfl, rfl⟩
  | ok _ =>
    cases u with
    | destroy y =>
      obtain rfl := List.mem_singleton.1 hIn
      exact ⟨.inl rfl, rfl⟩
    | deregister y k t => cases hIn

/-- An undoing writes debug records and errors only. -/
theorem ofLevel_trail {level : LogLevel} (hDebug : level ≠ .debug) (hError : level ≠ .error) :
    LogRecord.ofLevel level (trail journal os) = [] := by
  refine LogRecord.ofLevel_eq_nil fun x hMem hSame => ?_
  rcases (grade_of_mem_trail hMem).1 with hIs | hIs
  · exact hDebug (hSame.symm.trans hIs)
  · exact hError (hSame.symm.trans hIs)

/-- **The errors of an undoing** are about the entries that have failed, in the order in which they
were run. -/
theorem errors_trail (journal : List Undo) (os : List (Except Error Unit)) :
    LogRecord.ofLevel .error (trail journal os) =
      (leftover journal os).map fun u => .compensationFailed u.text := by
  -- the outcomes belong to the entries one by one, up to the shorter of the two
  induction journal generalizing os with
  | nil => rfl
  | cons u older ih =>
    cases os with
    | nil => rfl
    | cons out rest =>
      show LogRecord.ofLevel .error (u.records out ++ trail older rest) = _
      rw [LogRecord.ofLevel_append, ih]
      cases out with
      | ok _ => cases u <;> rfl
      | error e => rfl

end Undo

/-! ## Operations -/

namespace Operation

open LogRecord (ofLevel)

variable {run : κ → Act κ Unit} {i j : Nat} {o : Operation} {r r₁ r₂ r' : Realm κ} {recipe : Recipe}
  {c : Catalog} {p : Budget} {b : Workbench} {a : o.Result} {trigger : Error} {used : Int}
  {sink : Value} {warning : LogRecord} {os : List (Except Error Unit)} {s : Site}

/-- All work leaves records that tell of its journal. -/
theorem told_work (o : Operation) (recipe : Recipe) (c : Catalog) (hJournal : b.journal = [])
    (hLog : b.site.log = []) : (ends (o.work recipe c) b).2.Told := by
  have hStart : b.Told := ⟨by simp [hLog], by simp [hLog, hJournal]⟩
  exact Work.Taken.keeps (Work.told_run c recipe) (staged_work o recipe c b) hStart

/-- A silent sink that is told of an operation's success writes no records. -/
theorem records_of_deliver (run : κ → Act κ Unit) (hSilent : Sink.Silent sink r)
    (hRest : ∃ ledgers budgets entries,
      r₁ = { r with ledgers, budgets, trace := r.trace ++ entries })
    (o : Operation) (a : o.Result) :
    (ends (Sink.deliver run sink (o.events a)) r₁).2.records = r₁.records := by
  obtain ⟨ledgers, budgets, entries, rfl⟩ := hRest
  let r₀ : Realm κ := { r with ledgers, budgets, trace := r.trace ++ entries }
  have hSilent₀ : Sink.Silent sink r₀ := hSilent
  let R : Realm κ → Realm κ → Prop := fun r r' => r'.records = r.records
  have : Std.Refl R := ⟨fun _ => rfl⟩
  refine rel_of_deliver (R := R) (fun event => ?_) o a
  obtain ⟨sinks, hTold⟩ := Sink.tell_of_silent hSilent₀ run event
  rw [hTold]
  rfl

/-- What makes an operation fail is recorded with the length of its journal before the undoing
starts, on the ledger as the work has left it. -/
theorem warned_of_triggered {n size : Nat} {res : Except Error o.Result}
    (hSilent : Sink.Silent sink r) (hWorked : r.Worked j o.budget n s r₁)
    (h : Factory.Triggered run sink o.events size r₁ res trigger r₂) :
    (∃ warning, (warning = .rollingBack size trigger ∨ warning = .deliveryFailed size trigger) ∧
      r₂.records = r₁.records ++ [warning]) ∧ r₂.site j = .opened s.ledger s.faults := by
  cases h with
  | work =>
    exact ⟨⟨_, .inl rfl, Realm.records_appendTrace r₁ [_]⟩,
      hWorked.site_eq (Realm.Same.refl r₁).appendTrace⟩
  -- a silent sink records nothing, so the warning is the first record after the work
  | @delivery a e r₁' hTold =>
    have hSink : Sink.Discreet run sink r := Sink.discreet_of_silent hSilent
    have hSame := same_of_deliver hSink hWorked.rest o a
    have hQuiet := records_of_deliver run hSilent hWorked.rest o a
    rw [ends_of_error hTold] at hSame hQuiet
    refine ⟨⟨_, .inr rfl, ?_⟩, hWorked.site_eq hSame.appendTrace⟩
    rw [← hQuiet]
    exact Realm.records_appendTrace r₁' [_]

/-- What announces a success is of the level for information, and tells of no entry. -/
theorem grade_announcement {x : LogRecord} (hMem : x ∈ o.announcement used a) :
    x.level = .info ∧ x.journaled? = none := by
  have hSpawn : ∀ {name : Value} {h : InstanceHandle} {m n : Nat},
      x ∈ some (LogRecord.worldSpawned name h m n used) →
        x.level = .info ∧ x.journaled? = none := by
    intro name h m n hIn
    cases hIn
    exact ⟨rfl, rfl⟩
  cases o with
  | spawn name components systems budget => exact hSpawn hMem
  | request given budget =>
    cases given with
    | request name components systems => exact hSpawn hMem
    | _ => cases hMem
  | _ => cases hMem

/-- **What is recorded of a success**: after the work there is nothing but the announcement of a
spawn, with the steps that the budget has counted. -/
structure SuccessRecorded (o : Operation) (b : Workbench) (a : o.Result) (r' : Realm κ)
    (logged : List LogRecord) : Prop where
  warnings : ofLevel .warning logged = []
  errors : ofLevel .error logged = []
  farewell : ∃ used, logged = b.site.log ++ (o.announcement used a).toList ∧
    ofLevel .info logged = (o.announcement used a).toList ∧
    (∀ k, o.budget = .object .budget k → used = (r'.budget k).used) ∧
    (o.budget = .null → b.purse.used = .ok used)
  /-- Nothing but a request is spawned, so every spawn has an announcement. -/
  requested : ∀ given budget, o = .request given budget →
    ∃ name components systems, given = .request name components systems

/-- **What is recorded of a failure**: after the work there is a warning with the length of the
journal. With the warning written, the journal is undone in the realm `r₂`, and each entry that
fails leaves an error. -/
inductive FailureRecorded (j : Nat) (b : Workbench) (r : Realm κ) (e : Error) (r' : Realm κ)
    (logged : List LogRecord) : Prop
  | intro {warning : LogRecord} {trigger : Error} {r₂ : Realm κ} {os : List (Except Error Unit)}
      {s : Site}
      (hInfos : ofLevel .info logged = [])
      (hWarning : warning = .rollingBack b.journal.length trigger ∨
        warning = .deliveryFailed b.journal.length trigger)
      (hWarnings : ofLevel .warning logged = [warning])
      (hLogged : logged = b.site.log ++ warning :: Undo.trail b.journal os)
      (hStart : r₂.records = r.records ++ (b.site.log ++ [warning]))
      (hSite : r₂.site j = .opened b.site.ledger b.site.faults)
      (hUnwound : Unwound Site.report Undo.text Undo.run (r₂.site j) b.journal os s)
      (hAll : os.length = b.journal.length)
      (hEnd : r' = r₂.closed j s)
      (hErrors : ofLevel .error logged =
        (leftover b.journal os).map fun u => .compensationFailed u.text)
      (hFailures : (ofLevel .error logged).length = (raised os).length)
      (hNone : raised os = [] → e = trigger)
      (hSome : raised os ≠ [] → e = .rollbackFailed (raised os) (some trigger)) :
      FailureRecorded j b r e r' logged

/-- **What is recorded of an operation** that has left the workbench `b` to its end. -/
structure Recorded (o : Operation) (j : Nat) (b : Workbench) (r : Realm κ)
    (res : Except Error o.Result) (r' : Realm κ) (logged : List LogRecord) : Prop where
  records : r'.records = r.records ++ logged
  journaled : logged.filterMap LogRecord.journaled? = b.journal.reverse.map Undo.text
  success : ∀ a, res = .ok a → o.SuccessRecorded b a r' logged
  failure : ∀ e, res = .error e → FailureRecorded j b r e r' logged

/-- **What is recorded of a success**: the debug records of the work, one for each entry of the
journal among them, and then what announces the success. -/
theorem recorded_success (hTold : b.Told)
    (hRecords : r'.records = r.records ++ (b.site.log ++ (o.announcement used a).toList))
    (hHanded : ∀ k, o.budget = .object .budget k → used = (r'.budget k).used)
    (hOwn : o.budget = .null → b.purse.used = .ok used)
    (hRequested : ∀ given budget, o = .request given budget →
      ∃ name components systems, given = .request name components systems) :
    o.Recorded j b r (.ok a) r' (b.site.log ++ (o.announcement used a).toList) := by
  have hGrade : ∀ x ∈ (o.announcement used a).toList, x.level = .info ∧ x.journaled? = none :=
    fun x hMem => grade_announcement (Option.mem_toList.1 hMem)
  -- work reports at the lowest level alone, so anything above it is the announcement
  have hNone : ∀ {level}, level ≠ .debug → level ≠ .info →
      ofLevel level (b.site.log ++ (o.announcement used a).toList) = [] := by
    intro level hDebug hInfo
    rw [LogRecord.ofLevel_append, hTold.ofLevel_eq_nil hDebug, List.nil_append]
    refine LogRecord.ofLevel_eq_nil fun x hMem => ?_
    rw [(hGrade x hMem).1]
    exact hInfo.symm
  have hInfos : ofLevel .info (b.site.log ++ (o.announcement used a).toList) =
      (o.announcement used a).toList := by
    rw [LogRecord.ofLevel_append, hTold.ofLevel_eq_nil (by decide), List.nil_append]
    exact List.filter_eq_self.2 fun x hMem => decide_eq_true (hGrade x hMem).1
  refine ⟨hRecords, ?_, fun a₁ hOk => ?_, fun e hError => (by cases hError)⟩
  -- the announcement journals nothing, so that the journal is told by the work
  · rw [List.filterMap_append, hTold.journaled,
      List.filterMap_eq_nil_iff.2 fun x hMem => (hGrade x hMem).2, List.append_nil]
  · cases hOk
    exact ⟨hNone (by decide) (by decide), hNone (by decide) (by decide),
      ⟨used, rfl, hInfos, hHanded, hOwn⟩, hRequested⟩

/-- **What is recorded of a failure**: the debug records of the work, then one warning with the
number of entries and the error, and then what the undoing writes. -/
theorem recorded_failure (hTold : b.Told)
    (hWarning : warning = .rollingBack b.journal.length trigger ∨
      warning = .deliveryFailed b.journal.length trigger)
    (hStart : r₂.records = r.records ++ (b.site.log ++ [warning]))
    (hSite : r₂.site j = .opened b.site.ledger b.site.faults)
    (hUnwound : Unwound Site.report Undo.text Undo.run (r₂.site j) b.journal os s) :
    o.Recorded j b r (.error (afterRollback (raised os) trigger)) (r₂.closed j s)
      (b.site.log ++ warning :: Undo.trail b.journal os) := by
  obtain ⟨hLevel, hOther⟩ : warning.level = .warning ∧ warning.journaled? = none := by
    rcases hWarning with rfl | rfl <;> exact ⟨rfl, rfl⟩
  -- what is of note is the warning, and then what the undoing writes
  have hNote : ∀ {level}, level ≠ .debug →
      ofLevel level (b.site.log ++ warning :: Undo.trail b.journal os) =
        ofLevel level [warning] ++ ofLevel level (Undo.trail b.journal os) := by
    intro level hDebug
    rw [LogRecord.ofLevel_append, hTold.ofLevel_eq_nil hDebug, List.nil_append,
      ← LogRecord.ofLevel_append]
    rfl
  have hInfos : ofLevel .info (b.site.log ++ warning :: Undo.trail b.journal os) = [] := by
    rw [hNote (by decide), Undo.ofLevel_trail (by decide) (by decide)]
    simp [ofLevel, hLevel]
  have hWarnings : ofLevel .warning (b.site.log ++ warning :: Undo.trail b.journal os) =
      [warning] := by
    rw [hNote (by decide), Undo.ofLevel_trail (by decide) (by decide)]
    simp [ofLevel, hLevel]
  have hErrors : ofLevel .error (b.site.log ++ warning :: Undo.trail b.journal os) =
      (leftover b.journal os).map fun u => .compensationFailed u.text := by
    rw [hNote (by decide), Undo.errors_trail]
    simp [ofLevel, hLevel]
  have hFailures : (ofLevel .error (b.site.log ++ warning :: Undo.trail b.journal os)).length =
      (raised os).length := by
    rw [hErrors, List.length_map, hUnwound.length_leftover]
  refine ⟨?_, ?_, fun a hOk => (by cases hOk), fun e hError => ?_⟩
  · rw [Realm.records_closed, Undo.log_of_unwound hUnwound, hStart]
    simp [Realm.site, Site.opened]
  · rw [List.filterMap_append, hTold.journaled, List.filterMap_cons_none hOther,
      List.filterMap_eq_nil_iff.2 fun x hMem => (Undo.grade_of_mem_trail hMem).2, List.append_nil]
  · cases hError
    exact .intro hInfos hWarning hWarnings rfl hStart hSite hUnwound hUnwound.length_eq rfl hErrors
      hFailures (fun hNone => by rw [hNone, afterRollback_nil])
      (fun hSome => afterRollback_of_ne_nil _ hSome)

/-- **The records of an operation tell what happened**, whatever faults are planned and whatever the
sink raises. There is one debug record for each entry of the journal. If the operation succeeds,
there is no warning and no error, and a spawn ends with its announcement. If it fails, there is a
single warning, which counts the entries that are then run, and an error for each of them that has
failed. -/
theorem records_tell_course (run : κ → Act κ Unit)
    (hLedger : (r.factory i).ledger = .object .ledger j)
    (hRecipe : (r.factory i).configuration = .holding recipe)
    (hPurse : o.purse (r.factory i) r = .ok (.budget p) r)
    (hSilent : Sink.Silent (r.factory i).sink r) :
    let b := (ends (o.work recipe (r.catalogFor j)) ⟨r.site j, .budget p, []⟩).2
    ∃ logged, o.Recorded j b r (ends (o.act run i) r).1 (ends (o.act run i) r).2 logged := by
  obtain ⟨hBudget, hBudgets⟩ := budget_of_purse hPurse
  obtain ⟨n, hn, hPaid⟩ :=
    exists_paid (b := ⟨r.site j, .budget p, []⟩) o recipe (r.catalogFor j) rfl
  have hTold : (ends (o.work recipe (r.catalogFor j)) ⟨r.site j, .budget p, []⟩).2.Told :=
    told_work o recipe (r.catalogFor j) rfl rfl
  rcases hWork : ends (o.work recipe (r.catalogFor j)) ⟨r.site j, .budget p, []⟩ with ⟨res, b⟩
  rw [hWork] at hPaid hTold
  show ∃ logged, o.Recorded j b r _ _ logged
  -- in `r₁` the work is done and written down, and only the end of the operation is left
  obtain ⟨r₁, hBegun, -, hAct⟩ := act_begun hLedger hRecipe hPurse hWork
  have hWritten := Realm.records_of_begun hBegun
  have hWorked := hBegun.worked ⟨p, rfl, hBudgets⟩ hn hPaid
  cases h : o.act run i r with
  | ok a r' =>
    rw [ends_of_ok h]
    rw [hAct run] at h
    obtain ⟨a₁, r₂, hConclude, hFarewell⟩ := bind_eq_ok_iff.1 h
    obtain ⟨rfl, hDelivered⟩ := (Factory.conclude_eq_ok_iff hLedger).1 hConclude
    obtain ⟨used, hEnd, hHanded, hOwn⟩ := farewell_announces ⟨_, hPaid⟩ hBudget a₁ r₂
    rw [hEnd] at hFarewell
    cases hFarewell
    have hQuiet := records_of_deliver run hSilent hWorked.rest o a
    rw [ends_of_ok hDelivered, hWritten] at hQuiet
    -- the sink has had its turn without a record, so the announcement follows the work at once
    refine ⟨_, recorded_success hTold ?_ hHanded hOwn ?_⟩
    · rw [Realm.records_appendTrace, hQuiet, List.append_assoc]
    · rintro given budget rfl
      by_contra hRequest
      exact work_ne_ok hRequest (eq_ok_of_ends hWork)
  | error e r' =>
    rw [ends_of_error h]
    rw [hAct run] at h
    rcases bind_eq_error_iff.1 h with hConclude | ⟨a, r₂, -, hFarewell⟩
    · obtain ⟨trigger, r₂, hTriggered, hAbandon⟩ := Factory.conclude_eq_error hConclude
      obtain ⟨os, s, hUnwound⟩ := exists_undone r₂ j b.journal
      rw [Factory.abandon_of_unwound hLedger hUnwound] at hAbandon
      cases hAbandon
      -- the warning has been written in `r₂`, where the undoing starts
      obtain ⟨⟨warning, hWarning, hWarned⟩, hSite⟩ :=
        warned_of_triggered hSilent hWorked hTriggered
      refine ⟨_, recorded_failure hTold hWarning ?_ hSite hUnwound⟩
      rw [hWarned, hWritten, List.append_assoc]
    -- nothing can go wrong once the sink has been told
    · obtain ⟨used, hEnd, -⟩ := farewell_announces ⟨_, hPaid⟩ hBudget a r₂
      rw [hEnd] at hFarewell
      cases hFarewell

/-- A spawn of which the sink does not take notice, on a ledger where the new world cannot be
destroyed and the first component to go stays. -/
theorem records_tell_course_arena :
    let r := Arena.realm [.always .destroy (.raised .ledger "stuck"),
      ⟨.deregister .component, .badState, "busy", 0, some 1, 0⟩] Arena.deaf 5
    ∃ b e r' logged, ends (Arena.spawn.act Empty.elim 4) r = (.error e, r') ∧
      Arena.spawn.Recorded 1 b r (.error e) r' logged ∧ FailureRecorded 1 b r e r' logged ∧
      logged.map LogRecord.level = .replicate 12 .debug ++ [.warning, .error, .error] := by
  intro r
  have hFails : (ends (Arena.spawn.act Empty.elim 4) r).1.isOk = false := by decide +kernel
  have hLevels : (ends (Arena.spawn.act Empty.elim 4) r).2.records.map LogRecord.level =
      .replicate 12 .debug ++ [.warning, .error, .error] := by decide +kernel
  obtain ⟨e, r', h⟩ := exists_error_of_ends hFails
  have hRecipe : (r.factory 4).configuration = .holding Arena.recipe := rfl
  have hPurse : Arena.spawn.purse (r.factory 4) r = .ok (.budget (r.budget 3)) r := rfl
  obtain ⟨logged, hRecorded⟩ := records_tell_course Empty.elim rfl hRecipe hPurse
    (Sink.silent_of_isEmpty r)
  rw [ends_of_error h] at hRecorded hLevels
  -- the session starts without records, so these are all that there are
  have hLogged : r'.records = logged := hRecorded.records
  rw [hLogged] at hLevels
  exact ⟨_, e, r', logged, ends_of_error h, hRecorded, hRecorded.failure e rfl, hLevels⟩

end Operation

end WorldForge
