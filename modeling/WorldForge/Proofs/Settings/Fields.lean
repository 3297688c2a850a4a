import Mathlib.Data.List.Basic
import WorldForge.Settings.Basic

/-!
# Fields are read apart from each other

Settings are read by a library, and everything here is said of every library that keeps to its
documentation (`Library.Lawful`). What decides a field is what the first source has that has it at
all. A field *offends* if this is not coerced to an integer or to null, or to a number below the
least that the field takes. To load settings is to check the three fields, each against what decides
it. So loading fails exactly if a field offends; all that do are told of, in their order; and
neither what is told of a field nor its value depends on what the sources have for the others.

Main results:

* `checkAll_eq` — what comes of checking fields, whichever they are;
* `exists_load_iff`, `fields_of_load_error` — when settings load, and which fields are told of if
  they do not;
* `Sources.Alike.problem_mem_iff`, `Sources.Alike.get_eq` — a field does not depend on the others.
-/

namespace WorldForge.Settings

variable {γ : Type} {lib : Library γ} {s s' : Sources γ} {t t' : Settings} {f : Field}

/-! ## What decides a field -/

/-- What is in the file for a field, if there is a file and it has the field. -/
def Sources.inFile? (lib : Library γ) (s : Sources γ) (f : Field) : Option Text :=
  s.file.bind fun text => lib.file? s.environment text declared.mark f.label

/-- **What decides a field**: what is given for it directly, or else what the environment has for
it, or else what the file has. Null that is given directly decides as any other value does. -/
def Sources.first? (lib : Library γ) (s : Sources γ) (f : Field) : Option γ :=
  (s.direct? f.label).or
    (((lib.environment? s.environment (declared.mark ++ f.label)).map lib.ofText).or
      ((s.inFile? lib f).map lib.ofText))

/-- **Whether a field offends**: what decides it is not coerced, or is coerced to a number below the
least that the field takes. -/
def Sources.offends (lib : Library γ) (s : Sources γ) (f : Field) : Bool :=
  match s.first? lib f with
  | none => false
  | some g =>
    match lib.coerce g with
    | .error _ => true
    | .ok none => false
    | .ok (some n) => f.least?.any fun least => n < least

/-- **Settings are what the fields read as**: null if no source has the field, and else what decides
it is coerced to the value. -/
def Reads (lib : Library γ) (s : Sources γ) (t : Settings) : Prop :=
  ∀ f, match s.first? lib f with
    | none => t.get f = none
    | some g => lib.coerce g = .ok (t.get f)

/-- **Sources say the same of a field**: they give the same for it directly, their environments have
the same under its name, however it is spelt, and their files have the same for it. What they say of
other fields may differ in any way. -/
structure Sources.Alike (lib : Library γ) (f : Field) (s s' : Sources γ) : Prop where
  direct : s.direct? f.label = s'.direct? f.label
  environment :
    s.environment.filter (fun b => lib.spells b.1 (declared.mark ++ f.label)) =
      s'.environment.filter (fun b => lib.spells b.1 (declared.mark ++ f.label))
  file : s.inFile? lib f = s'.inFile? lib f

/-- Different fields have different names. -/
theorem Field.label_injective : Function.Injective Field.label := by
  intro f g h
  cases f <;> cases g <;> first | rfl | exact absurd h (by decide)

/-- No field has been left out of the list of all fields. -/
theorem Field.mem_all (f : Field) : f ∈ Field.all := by
  cases f <;> decide

/-- No two fields have the same name, so what is given for a name belongs to one field. -/
theorem Field.nodup_names : ((Field.all.map Field.spec).map FieldSpec.name).Nodup := by
  decide

/-! ## One field after the other -/

section CheckAll

/-- What is told of a field that has been checked. -/
def problem? {α : Type} : Except Problem α → Option Problem
  | .ok _ => none
  | .error p => some p

/-- A problem that is told of a field is the one with which its check has failed. -/
theorem eq_error_of_problem? {α : Type} {p : Problem} {checked : Except Problem α}
    (h : problem? checked = some p) : checked = .error p := by
  cases checked with
  | ok a => cases h
  | error q => exact congrArg Except.error (Option.some.inj h)

/-- What is told of fields that have been checked, each against what is given for its name. -/
def problems (lib : Library γ) (fs : List FieldSpec) (given : String → Option γ) : List Problem :=
  fs.filterMap fun f => problem? (lib.check f (given f.name))

variable {given : String → Option γ} {fs : List FieldSpec} {spec : FieldSpec} {p : Problem}
  {v : Option Int}

/-- A field that passes its check adds nothing to the report. -/
theorem problems_cons_of_ok (h : lib.check spec (given spec.name) = .ok v) :
    problems lib (spec :: fs) given = problems lib fs given := by
  rw [problems, List.filterMap_cons, h]
  rfl

/-- A field that fails its check stands in the report before the fields that come after it. -/
theorem problems_cons_of_error (h : lib.check spec (given spec.name) = .error p) :
    problems lib (spec :: fs) given = p :: problems lib fs given := by
  rw [problems, List.filterMap_cons, h]
  rfl

/-- **What comes of checking fields**: everything there is to tell of them, or, if there is nothing
to tell, the value of each. -/
theorem checkAll_eq (h : lib.Lawful) (given : String → Option γ)
    (hNames : (fs.map FieldSpec.name).Nodup) :
    (problems lib fs given ≠ [] ∧ lib.checkAll fs given = .error (problems lib fs given)) ∨
      problems lib fs given = [] ∧ ∃ values, lib.checkAll fs given = .ok values ∧
        ∀ spec ∈ fs, lib.check spec (given spec.name) = .ok (values spec.name) := by
  -- along the fields: the first is checked, and the rest is what the hypothesis says
  induction fs with
  | nil => exact .inr ⟨rfl, _, h.check_nil given, fun _ hMem => absurd hMem List.not_mem_nil⟩
  | cons spec fs ih =>
    rw [List.map_cons, List.nodup_cons] at hNames
    have hRest := ih hNames.2
    rw [h.check_cons]
    cases hCheck : lib.check spec (given spec.name) with
    | error p =>
      rw [problems_cons_of_error hCheck]
      refine .inl ⟨List.cons_ne_nil _ _, ?_⟩
      rcases hRest with ⟨-, hErrors⟩ | ⟨hNothing, values, hValues, -⟩
      · rw [hErrors]
      · rw [hValues, hNothing]
    | ok v =>
      rw [problems_cons_of_ok hCheck]
      rcases hRest with ⟨hSome, hErrors⟩ | ⟨hNothing, values, hValues, hEach⟩
      · rw [hErrors]
        exact .inl ⟨hSome, rfl⟩
      · rw [hValues]
        refine .inr ⟨hNothing, _, rfl, fun g hg => ?_⟩
        rcases List.mem_cons.1 hg with rfl | hg
        · rw [if_pos rfl, hCheck]
        · -- another field has another name
          have hOther : g.name ≠ spec.name := fun hSame =>
            hNames.1 (hSame ▸ List.mem_map_of_mem hg)
          rw [if_neg hOther, hEach g hg]

end CheckAll

/-! ## What is told of a field -/

/-- A field that is checked against what decides it. -/
def Sources.check (lib : Library γ) (s : Sources γ) (f : Field) : Except Problem (Option Int) :=
  lib.check f.spec (s.first? lib f)

/-- **What the library finds for a field is what decides it**: what is given directly, else the
environment, else the file. -/
theorem deciding_eq_first? (h : lib.Lawful) (s : Sources γ) (f : Field) :
    lib.deciding? declared.mark s f.label = s.first? lib f :=
  h.deciding_eq ..

/-- **A field that offends is told of**, and by its name. -/
theorem Sources.check_of_offends (h : lib.Lawful) (hOffends : s.offends lib f = true) :
    ∃ cause, s.check lib f = .error ⟨f.label, cause⟩ := by
  rw [Sources.check]
  rw [Sources.offends] at hOffends
  -- by what decides the field, and by what this is coerced to
  cases hFirst : s.first? lib f with
  | none =>
    rw [hFirst] at hOffends
    cases hOffends
  | some g =>
    simp only [hFirst] at hOffends
    cases hCoerce : lib.coerce g with
    | error cause => exact ⟨cause, h.check_error _ _ _ hCoerce⟩
    | ok n? =>
      cases n? with
      | none =>
        rw [hCoerce] at hOffends
        cases hOffends
      | some n =>
        simp only [hCoerce] at hOffends
        obtain ⟨least, hLeast, hBelow⟩ : ∃ least, f.least? = some least ∧ n < least := by
          simpa [Option.any_eq_true] using hOffends
        refine ⟨lib.tooSmall least, ?_⟩
        rw [h.check_int _ _ _ hCoerce, show f.spec.least = some least from hLeast]
        exact if_neg (Int.not_le.2 hBelow)

/-- **A field that does not offend has a value**: what it is coerced to, or null. -/
theorem Sources.check_of_not_offends (h : lib.Lawful) (hFine : s.offends lib f = false) :
    ∃ v, s.check lib f = .ok v ∧
      match s.first? lib f with
      | none => v = none
      | some g => lib.coerce g = .ok v := by
  rw [Sources.check]
  rw [Sources.offends] at hFine
  cases hFirst : s.first? lib f with
  | none => exact ⟨none, h.check_none _, rfl⟩
  | some g =>
    simp only [hFirst] at hFine
    cases hCoerce : lib.coerce g with
    | error cause =>
      rw [hCoerce] at hFine
      cases hFine
    | ok n? =>
      cases n? with
      | none => exact ⟨none, h.check_null _ _ hCoerce, hCoerce⟩
      -- an integer goes through unless there is a least one, and then it is not below that
      | some n =>
        simp only [hCoerce] at hFine
        refine ⟨some n, ?_, hCoerce⟩
        rw [h.check_int _ _ _ hCoerce, show f.spec.least = f.least? from rfl]
        cases hLeast : f.least? with
        | none => rfl
        | some least =>
          have hEnough : least ≤ n := by simpa [hLeast] using hFine
          exact if_pos hEnough

/-- What is told of a field is told by its name, and only if the field offends. -/
theorem Sources.problem?_check (h : lib.Lawful) (s : Sources γ) (f : Field) :
    (problem? (s.check lib f)).map Problem.field =
      if s.offends lib f then some f.label else none := by
  cases hOffends : s.offends lib f with
  | true =>
    obtain ⟨cause, hCheck⟩ := s.check_of_offends h hOffends
    rw [hCheck]
    rfl
  | false =>
    obtain ⟨v, hCheck, -⟩ := s.check_of_not_offends h hOffends
    rw [hCheck]
    rfl

/-- What is told of all fields. -/
def Sources.problems (lib : Library γ) (s : Sources γ) : List Problem :=
  Field.all.filterMap fun f => problem? (s.check lib f)

/-- The report of the library on the declared fields is the list of their problems, in the order of
the fields. -/
theorem problems_declared (h : lib.Lawful) (s : Sources γ) :
    Settings.problems lib declared.fields (lib.deciding? declared.mark s) = s.problems lib := by
  rw [Settings.problems, declared, List.filterMap_map]
  exact List.filterMap_congr fun f _ =>
    congrArg (fun given => problem? (lib.check f.spec given)) (deciding_eq_first? h s f)

/-- **The fields that are told of are those that offend**, in their order. -/
theorem Sources.fields_problems (h : lib.Lawful) (s : Sources γ) :
    (s.problems lib).map Problem.field =
      (Field.all.filter fun f => s.offends lib f).map Field.label := by
  rw [Sources.problems, List.map_filterMap, ← List.filterMap_eq_map, ← List.filterMap_eq_filter,
    List.filterMap_filterMap]
  refine List.filterMap_congr fun f _ => ?_
  rw [s.problem?_check h]
  cases hOffends : s.offends lib f <;> simp [Option.guard, hOffends]

/-- There is nothing to report exactly if no field offends. -/
theorem Sources.problems_eq_nil_iff (h : lib.Lawful) (s : Sources γ) :
    s.problems lib = [] ↔ ∀ f, s.offends lib f = false := by
  rw [← List.map_eq_nil_iff (f := Problem.field), s.fields_problems h, List.map_eq_nil_iff,
    List.filter_eq_nil_iff]
  exact ⟨fun hNone f => Bool.eq_false_iff.2 (hNone f f.mem_all),
    fun hNone f _ => Bool.eq_false_iff.1 (hNone f)⟩

/-! ## Loading -/

/-- **What comes of loading settings**: a report of everything there is to tell of the fields, or,
if there is nothing, settings that are what the fields read as. -/
theorem load_cases (h : lib.Lawful) (s : Sources γ) :
    (s.problems lib ≠ [] ∧
        ∃ report, load lib s = .error report ∧ report.problems = s.problems lib) ∨
      s.problems lib = [] ∧ ∃ t, load lib s = .ok t ∧ ∀ f, s.check lib f = .ok (t.get f) := by
  have hChecked := checkAll_eq h (lib.deciding? declared.mark s) Field.nodup_names
  rw [show Field.all.map Field.spec = declared.fields from rfl, problems_declared h] at hChecked
  rw [load, h.read_eq]
  -- the library checks the fields in order, and tells of all that do not read
  rcases hChecked with ⟨hSome, hErrors⟩ | ⟨hNothing, values, hValues, hEach⟩
  · rw [hErrors]
    exact .inl ⟨hSome, _, rfl, rfl⟩
  · rw [hValues]
    refine .inr ⟨hNothing, ofValues values, rfl, fun f => ?_⟩
    rw [get_ofValues, Sources.check, ← deciding_eq_first? h]
    exact hEach f.spec (List.mem_map_of_mem f.mem_all)

/-- **Settings load exactly if no field offends.** -/
theorem exists_load_iff (h : lib.Lawful) :
    (∃ t, load lib s = .ok t) ↔ ∀ f, s.offends lib f = false := by
  rw [← s.problems_eq_nil_iff h]
  rcases load_cases h s with ⟨hSome, report, hLoad, -⟩ | ⟨hNothing, t, hLoad, -⟩
  · rw [hLoad]
    refine ⟨?_, fun hNothing => absurd hNothing hSome⟩
    rintro ⟨_, hOk⟩
    cases hOk
  · exact ⟨fun _ => hNothing, fun _ => ⟨t, hLoad⟩⟩

/-- **If they do not load, the fields that offend are told of**, in their order. -/
theorem fields_of_load_error {report : Report} (h : lib.Lawful)
    (hLoad : load lib s = .error report) :
    report.problems.map Problem.field =
      (Field.all.filter fun f => s.offends lib f).map Field.label := by
  rcases load_cases h s with ⟨-, report', hError, hProblems⟩ | ⟨-, t, hOk, -⟩
  · cases hLoad.symm.trans hError
    rw [hProblems, s.fields_problems h]
  · cases hLoad.symm.trans hOk

/-- **If they load, they are what the fields read as.** -/
theorem reads_of_load (h : lib.Lawful) (hLoad : load lib s = .ok t) : Reads lib s t := by
  intro f
  have hFine : s.offends lib f = false := (exists_load_iff h).1 ⟨t, hLoad⟩ f
  obtain ⟨v, hCheck, hValue⟩ := s.check_of_not_offends h hFine
  rcases load_cases h s with ⟨-, report, hError, -⟩ | ⟨-, t', hOk, hEach⟩
  · cases hLoad.symm.trans hError
  · cases hLoad.symm.trans hOk
    cases hCheck.symm.trans (hEach f)
    exact hValue

/-- **No field of loaded settings is below the least that it takes.** -/
theorem least_le_of_load {n least : Int} (h : lib.Lawful) (hLoad : load lib s = .ok t)
    (hn : t.get f = some n) (hLeast : f.least? = some least) : least ≤ n := by
  have hFine : s.offends lib f = false := (exists_load_iff h).1 ⟨t, hLoad⟩ f
  have hReads := reads_of_load h hLoad f
  rw [Sources.offends] at hFine
  cases hFirst : s.first? lib f with
  | none =>
    simp only [hFirst, hn] at hReads
    cases hReads
  | some g =>
    simp only [hFirst, hn] at hReads
    simpa [hFirst, hReads, hLeast] using hFine

/-- **A field is set exactly if what decides it is there and is not null.** -/
theorem Reads.get_ne_none_iff (h : lib.Lawful) (hReads : Reads lib s t) :
    t.get f ≠ none ↔ ∃ g, s.first? lib f = some g ∧ g ≠ lib.null := by
  have hField := hReads f
  cases hFirst : s.first? lib f with
  | none => simpa [hFirst] using hField
  | some g =>
    simp only [hFirst] at hField
    have hNull : t.get f = none ↔ g = lib.null := by
      rw [← h.coerce_eq_none_iff, hField, Except.ok.injEq]
    simp [hNull]

/-- A field is told of exactly if checking it gives what is told. -/
theorem told_iff (h : lib.Lawful) (cause : Cause) :
    (∃ report, load lib s = .error report ∧ ⟨f.label, cause⟩ ∈ report.problems) ↔
      s.check lib f = .error ⟨f.label, cause⟩ := by
  constructor
  · rintro ⟨report, hLoad, hMem⟩
    rcases load_cases h s with ⟨-, report', hError, hProblems⟩ | ⟨-, t, hOk, -⟩
    · cases hLoad.symm.trans hError
      rw [hProblems, Sources.problems, List.mem_filterMap] at hMem
      obtain ⟨g, -, hg⟩ := hMem
      -- it is told of by its own name, so the field that was checked is this one
      have hField := s.problem?_check h g
      rw [hg, Option.map_some] at hField
      split at hField
      · obtain rfl : f = g := Field.label_injective (Option.some.inj hField)
        exact eq_error_of_problem? hg
      · cases hField
    · cases hLoad.symm.trans hOk
  · intro hCheck
    rcases load_cases h s with ⟨-, report, hError, hProblems⟩ | ⟨-, t, -, hEach⟩
    · refine ⟨report, hError, ?_⟩
      rw [hProblems, Sources.problems, List.mem_filterMap]
      exact ⟨f, f.mem_all, by rw [hCheck]; rfl⟩
    · cases hCheck.symm.trans (hEach f)

/-! ## A field does not depend on the others -/

namespace Sources.Alike

variable (hAlike : s.Alike lib f s')
include hAlike

/-- Sources that say the same of a field decide it alike. -/
theorem first?_eq (h : lib.Lawful) : s.first? lib f = s'.first? lib f := by
  rw [first?, first?, hAlike.direct, h.environment?_congr _ _ _ hAlike.environment, hAlike.file]

/-- Sources that say the same of a field have it checked with the same outcome. -/
theorem check_eq (h : lib.Lawful) : s.check lib f = s'.check lib f := by
  rw [check, check, hAlike.first?_eq h]

/-- **What is told of a field is told whatever the sources say of the others.** -/
theorem problem_mem_iff (h : lib.Lawful) (cause : Cause) :
    (∃ report, load lib s = .error report ∧ ⟨f.label, cause⟩ ∈ report.problems) ↔
      ∃ report, load lib s' = .error report ∧ ⟨f.label, cause⟩ ∈ report.problems := by
  rw [told_iff h, told_iff h, hAlike.check_eq h]

/-- **The value of a field is the same whatever the sources say of the others.** -/
theorem get_eq (h : lib.Lawful) (hLoad : load lib s = .ok t) (hLoad' : load lib s' = .ok t') :
    t.get f = t'.get f := by
  have hReads := reads_of_load h hLoad f
  have hReads' := reads_of_load h hLoad' f
  -- the same source decides the field in both, and says the same
  rw [← hAlike.first?_eq h] at hReads'
  cases hFirst : s.first? lib f with
  | none =>
    simp only [hFirst] at hReads hReads'
    rw [hReads, hReads']
  | some g =>
    simp only [hFirst] at hReads hReads'
    exact Except.ok.inj (hReads.symm.trans hReads')

end Sources.Alike

end WorldForge.Settings
