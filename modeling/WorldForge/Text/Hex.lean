/-!
# Hexadecimal text

Identifiers are shown in base sixteen, after the mark `0x` and, below zero, a minus sign in front
of it: `0x420`, `0x0`, `-0x5`. Digest words and character codes use the same digits, padded with
zeros to a fixed width.
-/

namespace WorldForge.Text

/-- The digits of `n` in base sixteen, in lower case. -/
def hexDigits (n : Nat) : List Char := Nat.toDigits 16 n

/-- The hexadecimal text of an integer: sign, mark, digits. -/
def hex (n : Int) : String :=
  (if n < 0 then "-0x" else "0x") ++ String.ofList (hexDigits n.natAbs)

/-- The digits of `n` in base sixteen, with zeros in front up to `width` digits. -/
def hexPadded (width n : Nat) : List Char :=
  let digits := hexDigits n
  List.replicate (width - digits.length) '0' ++ digits

end WorldForge.Text
