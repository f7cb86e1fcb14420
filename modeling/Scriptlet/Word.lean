/-! # Signed 64-bit arithmetic

Integers of programs are signed 64-bit words, represented by the integers from `-2 ^ 63` up to
`2 ^ 63 - 1`.  The bitwise operations are defined on all integers, read as two's complement numbers
without end, and stay inside the range of words by themselves.

Main definitions:

* `wrap`: the word congruent to an integer modulo `2 ^ 64`.
* `bitAnd`, `bitOr`, `bitXor`: the bitwise operations on integers of any size.
* `divide?`, `shiftLeft`, `shiftRight`: division toward zero and the shifts of words. -/

namespace Scriptlet.Word

/-- The word congruent to an integer modulo `2 ^ 64`. -/
def wrap (integer : Int) : Int :=
  integer.bmod (Nat.pow 2 64)

/-- The quotient of two integers rounded toward zero, `none` for a division by zero. -/
def divide? (dividend divisor : Int) : Option Int :=
  if divisor = 0 then none else some (dividend.tdiv divisor)

/-- The bits set in both integers. -/
def bitAnd : Int → Int → Int
  | .ofNat left, .ofNat right => .ofNat (left &&& right)
  | .ofNat left, .negSucc right => .ofNat (left - (left &&& right))
  | .negSucc left, .ofNat right => .ofNat (right - (right &&& left))
  | .negSucc left, .negSucc right => .negSucc (left ||| right)

/-- The bits set in at least one of two integers. -/
def bitOr (left right : Int) : Int :=
  ~~~bitAnd (~~~left) (~~~right)

/-- The bits set in exactly one of two integers. -/
def bitXor : Int → Int → Int
  | .ofNat left, .ofNat right => .ofNat (left ^^^ right)
  | .ofNat left, .negSucc right => .negSucc (left ^^^ right)
  | .negSucc left, .ofNat right => .negSucc (left ^^^ right)
  | .negSucc left, .negSucc right => .ofNat (left ^^^ right)

/-- Whether a word may be shifted by a count. -/
def isShiftCount (count : Int) : Bool :=
  0 ≤ count && count < 64

/-- The word whose bits are moved up; the bits moved past the sign are lost. -/
def shiftLeft (word : Int) (count : Nat) : Int :=
  wrap (word <<< count)

/-- The word whose bits are moved down; the sign fills the bits left free. -/
def shiftRight (word : Int) (count : Nat) : Int :=
  word >>> count

end Scriptlet.Word
