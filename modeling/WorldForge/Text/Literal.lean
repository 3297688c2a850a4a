/-!
# Pieces of literal text

What values have in common when they are written down: the words for truth and for nothing, parts
between brackets, records with their fields by name.
-/

namespace WorldForge.Text

/-- The word for nothing. -/
def nothing : String := "None"

/-- The word for a truth value. -/
def truth (b : Bool) : String := if b then "True" else "False"

/-- Parts between brackets, set apart by commas. -/
def bracketed (left right : String) (parts : List String) : String :=
  left ++ String.intercalate ", " parts ++ right

/-- A list of parts. -/
def squareList (parts : List String) : String := bracketed "[" "]" parts

/-- A fixed list of parts: round brackets, and a comma after a part that stands alone. -/
def roundList : List String → String
  | [part] => "(" ++ part ++ ",)"
  | parts => bracketed "(" ")" parts

/-- Parts in no order. -/
def curlyList (parts : List String) : String := bracketed "\x7b" "\x7d" parts

/-- An entry of a dictionary. -/
def entry (key value : String) : String := key ++ ": " ++ value

/-- A record: the name of its type, then each field by name. -/
def record (type : String) (fields : List (String × String)) : String :=
  bracketed (type ++ "(") ")" (fields.map fun f => f.1 ++ "=" ++ f.2)

end WorldForge.Text
