import WorldForge.Text.Basic
import WorldForge.Text.Printable

/-!
# Quoted text

Messages show a text between quotes so that every character of it can be told apart. Apostrophes
are the quotes, unless the text holds apostrophes and no double quote: then double quotes are.
Inside, the quote in use and the backslash take a backslash in front, the three common breaks
have letters of their own, and a character that is not printable is written by its code, and so is
a surrogate. A quoted text has no surrogates in it, so it is a string.
-/

namespace WorldForge.Text

/-- The quote that a text is written between. -/
def quoteFor (t : Text) : Char :=
  if t.holds '\'' && !t.holds '"' then '"' else '\''

/-- A character code after a backslash: two digits, four, or eight, as few as hold it. -/
def escapeCode (n : Nat) : List Char :=
  if n < 0x100 then '\\' :: 'x' :: hexPadded 2 n
  else if n < 0x10000 then '\\' :: 'u' :: hexPadded 4 n
  else '\\' :: 'U' :: hexPadded 8 n

/-- How one character is written between quotes `q`. -/
def escape (q c : Char) : List Char :=
  if c = q ∨ c = '\\' then ['\\', c]
  else if c = '\n' then ['\\', 'n']
  else if c = '\r' then ['\\', 'r']
  else if c = '\t' then ['\\', 't']
  else if isPrintable c then [c]
  else escapeCode c.toNat

/-- How the code points of a text are written between quotes `q`. -/
def escaped (q : Char) : Text → List Char
  | whole s => s.toList.flatMap (escape q)
  | torn front u rest => front.toList.flatMap (escape q) ++ escapeCode u.toNat ++ rest.escaped q

/-- A text between quotes. -/
def quoted (t : Text) : String :=
  let q := quoteFor t
  String.ofList (q :: t.escaped q ++ [q])

end WorldForge.Text
