import WorldForge.Value.Key

/-!
# Equality of values

Values are equal when they are of one family and agree part by part: lists item by item, records
field by field, and a dictionary does not care for the order of its entries. Values without parts
are equal when the same counts of them, whatever they were given as.
-/

namespace WorldForge.Value

mutual

/-- Whether two values are equal. -/
def same : Value → Value → Bool
  | list vs, list ws => sameLists vs ws
  | dictionary es, dictionary fs => es.length = fs.length && entriesIn es fs
  | recipe t e, recipe u f => same t u && same e f
  | declaration i n k, declaration j m l => same i j && same n m && same k l
  | request n cs ss, request m ds ts => same n m && sameLists cs ds && sameLists ss ts
  | v, w => v.key = w.key

def sameLists : List Value → List Value → Bool
  | [], [] => true
  | v :: vs, w :: ws => same v w && sameLists vs ws
  | _, _ => false

/-- Whether every entry of the first dictionary is one of the second. -/
def entriesIn : List (Value × Value) → List (Value × Value) → Bool
  | [], _ => true
  | (k, v) :: es, fs => fs.any (fun f => k.key = f.1.key && same v f.2) && entriesIn es fs

end

/-- Stores a value in a dictionary: in place when an equal key is there, else at the end. -/
def setEntry (entries : List (Value × Value)) (k v : Value) : List (Value × Value) :=
  if entries.any (fun e => e.1.key = k.key) then
    entries.map fun e => if e.1.key = k.key then (e.1, v) else e
  else entries ++ [(k, v)]

/-- The dictionary that a list of entries makes, written from left to right. -/
def dictionaryOf (entries : List (Value × Value)) : Value :=
  dictionary (entries.foldl (fun d e => setEntry d e.1 e.2) [])

end WorldForge.Value
