import WorldForge.Text.Hex

/-!
# Texts

A text is a row of code points. Nearly always these are characters, and then the text is a string.
But callers may hand over a text in which surrogates stand: code points that are no characters, and
that encode to no bytes. Such a text is *torn*: it is told by the string in front of its first
surrogate, by this surrogate, and by the text behind it. So every row of code points is a text in
one way only.

Texts are put together, shown, compared and looked up whatever they hold. Only where a text is to be
encoded does it matter that it is whole.

* `append_whole_inj` — what comes after a given string is told by the text;
* `encode_eq_ok_iff` — which texts have bytes.
-/

namespace WorldForge

/-- A code point from U+D800 to U+DFFF, which is no character. -/
structure Surrogate where
  offset : Fin 0x800
  deriving DecidableEq

/-- The number of a code point. -/
def Surrogate.toNat (u : Surrogate) : Nat := 0xd800 + u.offset

/-- A row of code points. -/
inductive Text where
  /-- All of them are characters. -/
  | whole (s : String)
  /-- There is a surrogate, with characters in front of it and any text behind. -/
  | torn (front : String) (u : Surrogate) (rest : Text)
  deriving DecidableEq

instance : Coe String Text := ⟨Text.whole⟩

instance : Inhabited Text := ⟨.whole ""⟩

namespace Text

/-- One text and then another one. -/
def append : Text → Text → Text
  | whole s, whole t => whole (s ++ t)
  | whole s, torn front u rest => torn (s ++ front) u rest
  | torn front u rest, t => torn front u (rest.append t)

instance : Append Text := ⟨append⟩

/-- The characters and surrogates of a text, each as a text of its own. -/
def points : Text → List Text
  | whole s => s.toList.map fun c => whole c.toString
  | torn front u rest => front.toList.map (fun c => whole c.toString) ++ torn "" u "" :: rest.points

/-- Whether a character stands in a text. -/
def holds (c : Char) : Text → Bool
  | whole s => s.toList.contains c
  | torn front _ rest => front.toList.contains c || rest.holds c

/-- Strings are put together as texts in the way they are put together as strings. -/
theorem append_whole (s t : String) : whole s ++ whole t = whole (s ++ t) := rfl

/-- **What comes after a given string is told by the text.** -/
theorem append_whole_inj {s : String} {t t' : Text} (h : whole s ++ t = whole s ++ t') :
    t = t' := by
  -- a whole text stays whole with a front, and a torn one is torn at the same place
  cases t with
  | whole x =>
    cases t' with
    | whole y =>
      have hSame : s ++ x = s ++ y := whole.inj h
      rw [(String.append_right_inj s).1 hSame]
    | torn front u rest => cases h
  | torn front u rest =>
    cases t' with
    | whole y => cases h
    | torn front' u' rest' =>
      obtain ⟨hFront, rfl, rfl⟩ := torn.inj h
      rw [(String.append_right_inj s).1 hFront]

/-- The characters in front of the first surrogate. -/
def front : Text → String
  | whole s | torn s .. => s

/-- What stands in front of the first surrogate grows with the string that is put in front of the
text. -/
theorem front_append_whole (s : String) (t : Text) : (whole s ++ t).front = s ++ t.front := by
  cases t <;> rfl

/-! ## Encoding -/

/-- Why a text has no bytes. -/
structure EncodingError where
  /-- How many characters stand in front of the first surrogate. -/
  position : Nat
  surrogate : Surrogate
  /-- How many surrogates follow each other from there on. -/
  count : Nat
  deriving DecidableEq

/-- How many surrogates a text begins with. -/
def leadingSurrogates : Text → Nat
  | whole _ => 0
  | torn front _ rest => if front = "" then rest.leadingSurrogates + 1 else 0

/-- The bytes of a text in UTF-8, which has none for surrogates. -/
def encode : Text → Except EncodingError (List UInt8)
  | whole s => .ok s.toUTF8.toList
  | torn front u rest => .error ⟨front.length, u, rest.leadingSurrogates + 1⟩

/-- Whether a text has bytes. -/
def isWhole : Text → Bool
  | whole _ => true
  | torn .. => false

/-- One surrogate is told of by its code and its place, and several by their places alone. -/
def EncodingError.message (e : EncodingError) : String :=
  let what :=
    if e.count = 1 then
      "character '\\u" ++ String.ofList (hexPadded 4 e.surrogate.toNat) ++ "' in position "
        ++ toString e.position
    else
      "characters in position " ++ toString e.position ++ "-"
        ++ toString (e.position + e.count - 1)
  "'utf-8' codec can't encode " ++ what ++ ": surrogates not allowed"

/-- **A text has bytes exactly if no surrogate stands in it.** -/
theorem encode_eq_ok_iff {t : Text} : (∃ bytes, t.encode = .ok bytes) ↔ t.isWhole = true := by
  cases t <;> simp [encode, isWhole]

@[simp] theorem isWhole_append_whole (s : String) (t : Text) :
    (whole s ++ t).isWhole = t.isWhole := by
  cases t <;> rfl

end Text

end WorldForge
