import WorldForge.Text.Basic

/-!
# The library that reads settings

Settings are read by a library, which is told what fields there are and is then handed the sources:
values given directly, the environment, and the text of an environment file. How the library finds
its way through environments and files, and what it takes for an integer, is its own business, and
differs from one release to the next. Here it is a parameter: a `Library` is the functions of which
reading settings consists, and `Library.Lawful` is what its documentation says of them.

* Each field is decided by the first source that has it: a value given directly, and be it null,
  then the environment, then the environment file (`deciding_eq`). In the environment the name of a
  field has a mark in front, and case does not count (`spells_of_toLower_eq`, `environment?_congr`).
* A field that no source has is null, which is what the field defaults to. What decides a field is
  coerced to an integer or to null; an integer must not be below the least that the field takes.
* The fields are checked one after the other, and every one that does not read is reported, in the
  order of the fields (`check_nil`, `check_cons`). -/

namespace WorldForge.Settings

/-- What is declared of a field: its name, and the least number that it takes, if there is one.
Every field is an integer or null, and null if nothing is given. -/
structure FieldSpec where
  name : String
  least : Option Int

/-- What is declared of settings: what names have in front of them in the environment, and the
fields. -/
structure Declared where
  mark : String
  fields : List FieldSpec

/-- Where settings come from. What is given directly may be of any type. -/
structure Sources (γ : Type) where
  /-- Values given directly, by the names of fields; of several for one field the last counts. -/
  direct : List (Text × γ)
  /-- The environment, in the order in which its names were set. -/
  environment : List (Text × Text)
  /-- The text of the environment file, if there is one. -/
  file : Option Text

/-- What is given directly for a name. -/
def Sources.direct? {γ : Type} (s : Sources γ) (name : String) : Option γ :=
  (s.direct.reverse.find? fun b => b.1 = .whole name).map Prod.snd

/-- Why what is given for a field does not read: a name for the cause, and what is said of it. -/
structure Cause where
  label : String
  message : String
  deriving DecidableEq

/-- A field that does not read. -/
structure Problem where
  field : String
  cause : Cause
  deriving DecidableEq

/-- The fields that do not read, in order, and the text that tells of them. -/
structure Report where
  problems : List Problem
  text : Text

/-- **A library that reads settings**, where a field may be given a value of type `γ`. -/
structure Library (γ : Type) where
  null : γ
  /-- What a text from the environment or a file is, as a value. -/
  ofText : Text → γ
  /-- Whether a name that is set in the environment is taken for a name that is looked for. -/
  spells : Text → String → Bool
  /-- What an environment has under a name. -/
  environment? : List (Text × Text) → String → Option Text
  /-- What the text of a file has for the field of a name, under a mark. A line of the file may
  refer to others, and to the environment. -/
  file? : List (Text × Text) → Text → String → String → Option Text
  /-- What decides the field of a name, under a mark. -/
  deciding? : String → Sources γ → String → Option γ
  /-- The integer that a value is coerced to, or none if it is null. -/
  coerce : γ → Except Cause (Option Int)
  /-- What is said of a number below the least that a field takes. -/
  tooSmall : Int → Cause
  /-- Checks a field against what decides it, if anything does. -/
  check : FieldSpec → Option γ → Except Problem (Option Int)
  /-- Checks fields one after the other, against what decides each name. -/
  checkAll : List FieldSpec → (String → Option γ) → Except (List Problem) (String → Option Int)
  /-- The text that tells of problems with what was given. -/
  report : (String → Option γ) → List Problem → Text
  /-- Reads declared settings from sources: gives the value of each field by its name. -/
  read : Declared → Sources γ → Except Report (String → Option Int)

variable {γ : Type}

/-- **What the documentation of the library says of it.** -/
structure Library.Lawful (lib : Library γ) : Prop where
  /-- To read settings is to check all fields against what decides them. -/
  read_eq : ∀ d s, lib.read d s =
    (lib.checkAll d.fields (lib.deciding? d.mark s)).mapError fun problems =>
      ⟨problems, lib.report (lib.deciding? d.mark s) problems⟩
  /-- The first source decides that has the field. -/
  deciding_eq : ∀ mark s name, lib.deciding? mark s name =
    (s.direct? name).or (((lib.environment? s.environment (mark ++ name)).map lib.ofText).or
      ((s.file.bind fun text => lib.file? s.environment text mark name).map lib.ofText))
  /-- Case does not count in the environment. -/
  spells_of_toLower_eq : ∀ s name : String, s.toLower = name.toLower → lib.spells s name = true
  /-- What is set under names that are not taken for the one looked for does not matter. -/
  environment?_congr : ∀ name (e e' : List (Text × Text)),
    e.filter (fun b => lib.spells b.1 name) = e'.filter (fun b => lib.spells b.1 name) →
    lib.environment? e name = lib.environment? e' name
  /-- Null, and only null, is coerced to no integer. -/
  coerce_eq_none_iff : ∀ g, lib.coerce g = .ok none ↔ g = lib.null
  /-- Fields default to null. -/
  check_none : ∀ f, lib.check f none = .ok none
  /-- What is not coerced is a problem of the field. -/
  check_error : ∀ f g cause, lib.coerce g = .error cause →
    lib.check f (some g) = .error ⟨f.name, cause⟩
  /-- Null goes through. -/
  check_null : ∀ f g, lib.coerce g = .ok none → lib.check f (some g) = .ok none
  /-- An integer goes through unless it is below the least that the field takes. -/
  check_int : ∀ f g n, lib.coerce g = .ok (some n) → lib.check f (some g) =
    match f.least with
    | none => .ok (some n)
    | some least => if least ≤ n then .ok (some n) else .error ⟨f.name, lib.tooSmall least⟩
  /-- Without fields there is nothing to check. -/
  check_nil : ∀ given, lib.checkAll [] given = .ok fun _ => none
  /-- A field is checked by itself, and so are those after it. Nothing that does not read is left
  out. -/
  check_cons : ∀ f fs given, lib.checkAll (f :: fs) given =
    match lib.check f (given f.name), lib.checkAll fs given with
    | .ok v, .ok vs => .ok fun name => if name = f.name then v else vs name
    | .ok _, .error problems => .error problems
    | .error p, .ok _ => .error [p]
    | .error p, .error problems => .error (p :: problems)

end WorldForge.Settings
