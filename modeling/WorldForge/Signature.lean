/-!
# Signatures

A call takes some arguments that it must have, each of which has a name, and some more that it may
have. One that is made with fewer or more is refused before anything else, and the refusal tells
what is missing, or how many are taken.
-/

namespace WorldForge

/-- What arguments a call takes. -/
structure Signature where
  /-- The names of those that it must have. -/
  required : List String
  /-- How many more it may have. -/
  optional : Nat
  deriving DecidableEq

namespace Signature

/-- The signature of a call without arguments. -/
def nullary : Signature := ⟨[], 0⟩

/-- The signature of a call with one argument of a name. -/
def unary (name : String) : Signature := ⟨[name], 0⟩

/-- Names in a row, the last two of them joined by a word. -/
def enumeration : List String → String
  | [] => ""
  | [a] => a
  | [a, b] => a ++ " and " ++ b
  | names => String.intercalate ", " names.dropLast ++ ", and " ++ names.getLastD ""

/-- A noun with the ending that goes with a number. -/
def counted (noun : String) (n : Nat) : String := if n = 1 then noun else noun ++ "s"

/-- What is said of a call with too few arguments. -/
def missingText (s : Signature) (call : String) (given : Nat) : String :=
  let missing := s.required.drop given
  call ++ "() missing " ++ toString missing.length ++ " required "
    ++ counted "positional argument" missing.length ++ ": "
    ++ enumeration (missing.map fun name => "'" ++ name ++ "'")

/-- What is said of a call with too many arguments. The object that is called counts as one. -/
def excessText (s : Signature) (call : String) (given : Nat) : String :=
  let least := s.required.length + 1
  let most := least + s.optional
  call ++ "() takes "
    ++ (if s.optional = 0 then toString most ++ " " ++ counted "positional argument" most
      else "from " ++ toString least ++ " to " ++ toString most ++ " positional arguments")
    ++ " but " ++ toString (given + 1) ++ " were given"

/-- What is said of a call that is refused for its number of arguments. -/
def misfitText (s : Signature) (call : String) (given : Nat) : String :=
  if given < s.required.length then s.missingText call given else s.excessText call given

end Signature

end WorldForge
