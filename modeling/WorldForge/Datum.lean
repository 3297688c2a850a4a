import WorldForge.Double.Literal
import WorldForge.Text.Literal
import WorldForge.Text.Quoted

/-!
# Plain data

Data that comes from outside and is only carried around: a number, a text, nothing, or a list or a
dictionary of such. What a source of settings has for a field is of this kind, and so is the label
that an undoing leaves. Messages show plain data by the name of its type and by its literal text.
-/

namespace WorldForge

/-- Data from outside. The keys of a dictionary are texts. -/
inductive Datum where
  | null
  | bool (b : Bool)
  | int (n : Int)
  | double (x : Double)
  | str (s : Text)
  | list (items : List Datum)
  | dictionary (entries : List (Text × Datum))

namespace Datum

/-- The name of the type of plain data, as messages give it. -/
def typeName : Datum → String
  | null => "NoneType"
  | bool _ => "bool"
  | int _ => "int"
  | double _ => "float"
  | str _ => "str"
  | list _ => "list"
  | dictionary _ => "dict"

mutual

/-- Plain data as it would be written down. -/
def literal : Datum → String
  | null => Text.nothing
  | bool b => Text.truth b
  | int n => toString n
  | double x => x.literal
  | str s => Text.quoted s
  | list items => Text.squareList (literals items)
  | dictionary entries => Text.curlyList (entryLiterals entries)

/-- Each of several, as it would be written down. -/
def literals : List Datum → List String
  | [] => []
  | d :: rest => d.literal :: literals rest

/-- Each entry of a dictionary, as it would be written down. -/
def entryLiterals : List (Text × Datum) → List String
  | [] => []
  | (k, d) :: rest => Text.entry (Text.quoted k) d.literal :: entryLiterals rest

end

/-- Plain data in running text: a text stands as it is. -/
def plain : Datum → Text
  | str s => s
  | d => d.literal

end Datum

end WorldForge
