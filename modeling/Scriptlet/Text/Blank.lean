/-! # Blank characters

The characters that separate tokens and that may surround a numeral.

Main definitions:

* `isBlank`: whether a character is skipped between tokens.
* `isMargin`: whether a character may surround a numeral; the four ASCII information separators,
  though blank, may not. -/

namespace Scriptlet.Text

/-- The blank code points, as ascending ranges with both ends included. -/
def blanks : List (Nat × Nat) :=
  [(0x0009, 0x000D), (0x001C, 0x0020), (0x0085, 0x0085), (0x00A0, 0x00A0), (0x1680, 0x1680),
   (0x2000, 0x200A), (0x2028, 0x2029), (0x202F, 0x202F), (0x205F, 0x205F), (0x3000, 0x3000)]

/-- Whether a character is white space. -/
def isBlank (character : Char) : Bool :=
  blanks.any fun (first, last) => first ≤ character.toNat && character.toNat ≤ last

/-- Whether a character may stand before or after a numeral. -/
def isMargin (character : Char) : Bool :=
  isBlank character && !(0x001C ≤ character.toNat && character.toNat ≤ 0x001F)

/-- Drops the margin characters at both ends of a text. -/
def trimMargin (text : List Char) : List Char :=
  ((text.dropWhile isMargin).reverse.dropWhile isMargin).reverse

end Scriptlet.Text
