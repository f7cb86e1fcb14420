import Mathlib.Tactic.IntervalCases
import Scriptlet.Json.Reader
import Scriptlet.Json.Writer
import Scriptlet.Proofs.Decimal.Layout
import Scriptlet.Proofs.Text.Span

/-! # Scalars and strings read back

The text of a word, a number or a string in a document reads as what it was written for, whatever
follows it, as long as a number is not continued.

Main definitions:

* `Detached`: a text that does not continue a number before it.

Main statements:

* `readScalar_integer`, `readScalar_float`: numbers read back, doubles of every kind included.
* `readString_flatMap`: strings read back, whatever characters they hold. -/

namespace Scriptlet.Json

open Decimal (Numeral)

/-! ## Numbers -/

/-- A text that does not continue a number before it. -/
def Detached (rest : List Char) : Prop :=
  ∀ next ∈ rest.head?, next.isDigit = false ∧ next ≠ '.' ∧ next ≠ 'e' ∧ next ≠ 'E'

/-- A character that no number goes on with detaches what follows. -/
theorem detached_cons {next : Char} (rest : List Char)
    (ends : next.isDigit = false ∧ next ≠ '.' ∧ next ≠ 'e' ∧ next ≠ 'E') :
    Detached (next :: rest) := by
  intro other mem
  obtain rfl : next = other := Option.some.inj mem
  exact ends

/-- What follows the exponent of a number does not continue its digits. -/
theorem head?_marked {rest : List Char} (detached : Detached rest)
    (mark : Option (Bool × List Char)) :
    ∀ next ∈ (Numeral.marked mark ++ rest).head?, next.isDigit = false ∧ next ≠ '.' := by
  rcases mark with - | ⟨negative, digits⟩
  · intro next mem
    exact ⟨(detached next mem).1, (detached next mem).2.1⟩
  · rintro - ⟨⟩
    decide

/-- An exponent that is written is taken as a whole. -/
theorem takeExponent_marked {rest : List Char} (detached : Detached rest)
    {mark : Option (Bool × List Char)}
    (digits : ∀ negative digits, mark = some (negative, digits) →
      digits ≠ [] ∧ ∀ digit ∈ digits, digit.isDigit) :
    takeExponent (Numeral.marked mark ++ rest) = (Numeral.marked mark, rest) := by
  rcases mark with - | ⟨negative, digits⟩
  · cases rest with
    | nil => rfl
    | cons next rest =>
      obtain ⟨-, -, no_mark, no_mark'⟩ := detached next rfl
      simp [takeExponent, Numeral.marked, no_mark, no_mark']
  · obtain ⟨digits_ne, all⟩ := digits negative _ rfl
    obtain ⟨taken, dropped⟩ := Text.takeWhile_append_longest all fun next mem => (detached next mem).1
    cases negative with
    | false => simp [takeExponent, Numeral.marked, taken, dropped, digits_ne]
    | true => simp [takeExponent, Numeral.marked, taken, dropped, digits_ne]

/-- A fraction that is written is taken as a whole. -/
theorem takeFraction_pointed {fraction rest : List Char} (all : ∀ digit ∈ fraction, digit.isDigit)
    (stop : ∀ next ∈ rest.head?, next.isDigit = false ∧ next ≠ '.') :
    takeFraction (Numeral.pointed fraction ++ rest) = (Numeral.pointed fraction, rest) := by
  cases fraction with
  | nil =>
    rw [Numeral.pointed, List.nil_append, takeFraction]
    intro more front
    exact (stop '.' (by rw [front]; rfl)).2 rfl
  | cons digit digits =>
    obtain ⟨taken, dropped⟩ := Text.takeWhile_append_longest all fun next mem => (stop next mem).1
    rw [List.cons_append] at taken dropped
    simp [takeFraction, Numeral.pointed, taken, dropped]

/-- A whole part is taken off a number as it stands, if it is zero or does not start with a zero. -/
theorem readNumber_append {whole rest : List Char} (negative : Bool) (ne : whole ≠ [])
    (all : ∀ digit ∈ whole, digit.isDigit) (leading : whole.head? = some '0' → whole = ['0'])
    (stop : ∀ next ∈ rest.head?, next.isDigit = false) :
    readNumber negative (whole ++ rest) =
      let (fraction, rest) := takeFraction rest
      let (exponent, rest) := takeExponent rest
      if fraction.isEmpty && exponent.isEmpty then
        if whole.length > Decimal.digitLimit then .error (.tooManyDigits whole.length)
        else .ok (.integer (Decimal.signed negative
          (Decimal.ofDigits (Decimal.takeDigits whole).1)), rest)
      else
        match Decimal.magnitude? (whole ++ fraction ++ exponent) with
        | some bits => .ok (.float (Decimal.ofMagnitude negative bits), rest)
        | none => .error .malformed := by
  unfold readNumber
  extract_lets taken
  have taken_eq : taken = whole := by
    simp only [taken]
    split
    · rename_i more front
      refine (leading ?_).symm
      have := congrArg List.head? front
      rwa [List.head?_append_of_ne_nil _ ne] at this
    · exact (Text.takeWhile_append_longest all stop).1
  clear_value taken
  subst taken_eq
  rw [List.drop_left]
  exact if_neg (by simpa using ne)

/-- A numeral in a document reads as the double nearest to it. -/
theorem readNumber_text (negative : Bool) (numeral : Numeral) {rest : List Char}
    (detached : Detached rest) :
    readNumber negative (numeral.text ++ rest) =
      .ok (.float (Decimal.ofMagnitude negative numeral.bits), rest) := by
  have stop := head?_marked detached numeral.mark
  have fraction := takeFraction_pointed
    (fun digit mem => numeral.isDigit digit (List.mem_append_right _ mem)) stop
  have exponent := takeExponent_marked detached numeral.mark_digits
  -- A numeral without a point and without a mark would be read as an integer.
  have double : ((Numeral.pointed numeral.fraction).isEmpty &&
      (Numeral.marked numeral.mark).isEmpty) = false := by
    cases fraction_eq : numeral.fraction with
    | nil =>
      cases mark_eq : numeral.mark with
      | none => exact absurd mark_eq (numeral.double fraction_eq)
      | some mark => rfl
    | cons digit digits => rfl
  have text_eq : numeral.text ++ rest = numeral.whole ++
      (Numeral.pointed numeral.fraction ++ (Numeral.marked numeral.mark ++ rest)) := by
    simp only [Numeral.text, List.append_assoc]
  rw [text_eq, readNumber_append negative numeral.whole_ne
    (fun digit mem => numeral.isDigit digit (List.mem_append_left _ mem)) numeral.leading ?_]
  · simp only [fraction, exponent, double, Bool.false_eq_true, if_false]
    rw [← Numeral.text, numeral.magnitude?_text]
  · cases numeral.fraction with
    | nil => exact fun next mem => (stop next mem).1
    | cons digit digits =>
      rintro - ⟨⟩
      rfl

/-- The digits of a number are taken back as the number. -/
theorem ofDigits_takeDigits (number : ℕ) :
    Decimal.ofDigits (Decimal.takeDigits (Nat.toDigits 10 number)).1 = number := by
  have taken := @Decimal.takeDigits_append (Nat.toDigits 10 number) []
    (fun digit mem => Nat.isDigit_of_mem_toDigits (by norm_num) (by norm_num) mem) (by simp)
  rw [List.append_nil] at taken
  rw [taken, Decimal.ofDigits_map, Nat.ofDigitChars_ten_toDigits]

/-- A natural of at most so many digits as are read reads back. -/
theorem readNumber_toDigits (negative : Bool) {number : ℕ}
    (small : number < 10 ^ Decimal.digitLimit) {rest : List Char} (detached : Detached rest) :
    readNumber negative (Nat.toDigits 10 number ++ rest) =
      .ok (.integer (Decimal.signed negative number), rest) := by
  have all : ∀ digit ∈ Nat.toDigits 10 number, digit.isDigit := fun digit mem =>
    Nat.isDigit_of_mem_toDigits (by norm_num) (by norm_num) mem
  have leading : (Nat.toDigits 10 number).head? = some '0' → Nat.toDigits 10 number = ['0'] := by
    intro zero
    by_cases number_eq : number = 0
    · rw [number_eq, Nat.toDigits_zero]
    · exact absurd zero (Decimal.head?_toDigits_ne number_eq)
  have count : (Nat.toDigits 10 number).length ≤ Decimal.digitLimit :=
    (Nat.length_toDigits_le_iff (by norm_num) (by norm_num [Decimal.digitLimit])).mpr small
  have no_fraction : takeFraction rest = ([], rest) :=
    @takeFraction_pointed [] rest (by simp) fun next mem =>
      ⟨(detached next mem).1, (detached next mem).2.1⟩
  have no_exponent : takeExponent rest = ([], rest) :=
    @takeExponent_marked rest detached none nofun
  rw [readNumber_append negative Nat.toDigits_ne_nil all leading fun next mem =>
    (detached next mem).1]
  simp only [no_fraction, no_exponent, List.isEmpty_nil, Bool.and_self, if_true,
    if_neg (not_lt.mpr count), ofDigits_takeDigits]

/-! ## Scalars -/

/-- What is no digit differs from every digit. -/
theorem ne_of_isDigit {letter digit : Char} (isDigit : digit.isDigit)
    (isLetter : letter.isDigit = false) : letter ≠ digit := by
  rintro rfl
  simp [isLetter] at isDigit

/-- A text that starts with no word is read as none. -/
theorem findSome?_words {text : List Char}
    (apart : ∀ named ∈ words, dropWord? named.1 text = none) :
    (words.findSome? fun (word, value) => (dropWord? word text).map (value, ·)) = none := by
  refine List.findSome?_eq_none_iff.mpr fun named mem => ?_
  simp only [apart named mem, Option.map_none]

/-- No word starts with a digit. -/
theorem readScalar_digit {digit : Char} (isDigit : digit.isDigit) (text : List Char) :
    readScalar (digit :: text) = readNumber false (digit :: text) := by
  have apart : ∀ named ∈ words, dropWord? named.1 (digit :: text) = none := by
    simp [words, dropWord?, ne_of_isDigit isDigit]
  simp only [readScalar, findSome?_words apart]
  split
  · rename_i rest front
    exact absurd (List.cons.inj front).1.symm (ne_of_isDigit isDigit rfl)
  · rfl

/-- No word but infinity starts with a minus. -/
theorem readScalar_minus {digit : Char} (isDigit : digit.isDigit) (text : List Char) :
    readScalar ('-' :: digit :: text) = readNumber true (digit :: text) := by
  have apart : ∀ named ∈ words, dropWord? named.1 ('-' :: digit :: text) = none := by
    simp [words, dropWord?, ne_of_isDigit isDigit]
  simp only [readScalar, findSome?_words apart]

/-- A number behind its sign. -/
theorem readScalar_signed (negative : Bool) {number : List Char} (ne : number ≠ [])
    (isDigit : ∀ digit ∈ number.head?, digit.isDigit) (rest : List Char) :
    readScalar ((if negative then "-" else "").toList ++ number ++ rest) =
      readNumber negative (number ++ rest) := by
  obtain ⟨digit, digits, rfl⟩ := List.exists_cons_of_ne_nil ne
  cases negative with
  | false => exact readScalar_digit (isDigit digit rfl) (digits ++ rest)
  | true => exact readScalar_minus (isDigit digit rfl) (digits ++ rest)

/-- A character that a word or a number can start with. -/
def IsFront (first : Char) : Prop :=
  first.isAlphanum ∨ first = '-'

/-- What starts a scalar is neither a bracket nor a space. -/
theorem IsFront.ne {first other : Char} (isFront : IsFront first)
    (not_front : other.isAlphanum = false ∧ other ≠ '-') : first ≠ other := by
  rintro rfl
  rcases isFront with alphanum | minus
  · simp [not_front.1] at alphanum
  · exact not_front.2 minus

/-- A sign and digits start a scalar. -/
theorem isFront_signed (negative : Bool) {number : List Char} (ne : number ≠ [])
    (isDigit : ∀ digit ∈ number.head?, digit.isDigit) :
    ∃ first text, (if negative then "-" else "").toList ++ number = first :: text ∧
      IsFront first := by
  obtain ⟨digit, digits, rfl⟩ := List.exists_cons_of_ne_nil ne
  cases negative with
  | false => exact ⟨digit, digits, rfl, Or.inl (by simp [Char.isAlphanum, isDigit digit rfl])⟩
  | true => exact ⟨'-', digit :: digits, rfl, Or.inr rfl⟩

/-- The digits of an integer behind its sign. -/
theorem toList_toString (number : ℤ) : (toString number).toList =
    (if (number < 0 : Bool) then "-" else "").toList ++ Nat.toDigits 10 number.natAbs := by
  rw [Int.toString_eq_repr, Int.repr_eq_if]
  rcases lt_or_ge number 0 with negative | nonneg
  · rw [if_neg (not_le.mpr negative), show (-number).toNat = number.natAbs by omega]
    simp [negative]
  · rw [if_pos nonneg, show number.toNat = number.natAbs by omega]
    simp [not_lt.mpr nonneg]

/-- The first digit of a number is a digit. -/
theorem isDigit_head?_toDigits (number : ℕ) :
    ∀ digit ∈ (Nat.toDigits 10 number).head?, digit.isDigit := fun _ mem =>
  Nat.isDigit_of_mem_toDigits (by norm_num) (by norm_num) (List.mem_of_head? mem)

/-- An integer starts like a scalar. -/
theorem isFront_integer (number : ℤ) :
    ∃ first text, (toString number).toList = first :: text ∧ IsFront first := by
  rw [toList_toString]
  exact isFront_signed _ Nat.toDigits_ne_nil (isDigit_head?_toDigits _)

/-- So does a float, whether it is a number or a word. -/
theorem isFront_float (number : Float) :
    ∃ first text, (Decimal.documentFormat.write number).toList = first :: text ∧
      IsFront first := by
  cases reading : Decimal.read number with
  | nan =>
    simp only [Decimal.Format.write, reading]
    exact ⟨'N', ['a', 'N'], rfl, Or.inl rfl⟩
  | infinity negative =>
    simp only [Decimal.Format.write, reading]
    cases negative with
    | false => exact ⟨'I', "nfinity".toList, rfl, Or.inl rfl⟩
    | true => exact ⟨'-', "Infinity".toList, rfl, Or.inr rfl⟩
  | finite negative significand exponent =>
    obtain ⟨numeral, text_eq, -⟩ := Decimal.exists_numeral Decimal.documentFormat reading
    rw [text_eq]
    exact isFront_signed negative numeral.text_ne numeral.isDigit_head?_text

/-- An integer of at most so many digits as are read reads back. -/
theorem readScalar_integer {number : ℤ} (small : number.natAbs < 10 ^ Decimal.digitLimit)
    {rest : List Char} (detached : Detached rest) :
    readScalar ((toString number).toList ++ rest) = .ok (.integer number, rest) := by
  rw [toList_toString, readScalar_signed _ Nat.toDigits_ne_nil (isDigit_head?_toDigits _),
    readNumber_toDigits _ small detached]
  rcases lt_or_ge number 0 with negative | nonneg
  · simp only [Decimal.signed, negative, decide_true, if_true]
    congr 3
    omega
  · simp only [Decimal.signed, not_lt.mpr nonneg, decide_false, Bool.false_eq_true, if_false]
    congr 3
    omega

/-- Every double reads back. -/
theorem readScalar_float (number : Float) {rest : List Char} (detached : Detached rest) :
    readScalar ((Decimal.documentFormat.write number).toList ++ rest) =
      .ok (.float number, rest) := by
  cases reading : Decimal.read number with
  | nan =>
    have number_eq := Decimal.of_read_nan reading
    simp [Decimal.Format.write, reading, Decimal.documentFormat, readScalar, words, dropWord?,
      number_eq]
  | infinity negative =>
    have number_eq := Decimal.of_read_infinity reading
    cases negative with
    | false =>
      simp [Decimal.Format.write, reading, Decimal.documentFormat, readScalar, words, dropWord?,
        number_eq]
    | true =>
      simp [Decimal.Format.write, reading, Decimal.documentFormat, readScalar, words, dropWord?,
        number_eq]
  | finite negative significand exponent =>
    obtain ⟨numeral, text_eq, number_eq⟩ := Decimal.exists_numeral Decimal.documentFormat reading
    rw [text_eq, readScalar_signed _ numeral.text_ne numeral.isDigit_head?_text,
      readNumber_text negative numeral detached, number_eq]

/-! ## Strings -/

/-- The code of a control character reads back. -/
theorem hexQuad?_hexadecimal {code : ℕ} (control : code < 0x20) (rest : List Char) :
    hexQuad? ((Text.hexadecimal 4 code).toList ++ rest) = some (code, rest) := by
  interval_cases code <;> rfl

/-- The code of a control character is read back. -/
theorem readCode_hexadecimal {code : ℕ} (control : code < 0x20) (rest : List Char) :
    readCode ((Text.hexadecimal 4 code).toList ++ rest) = some (Char.ofNat code, rest) := by
  have no_half : (0xD800 ≤ code : Bool) = false := by
    simp only [decide_eq_false_iff_not]
    omega
  simp only [readCode, hexQuad?_hexadecimal control, no_half, Bool.false_and, Bool.false_eq_true,
    if_false]
  split
  · split <;> rfl
  · rfl

/-- A character of a string reads back. -/
theorem readString_escape (fuel : ℕ) (character : Char) (rest : List Char) :
    readString (fuel + 1) (escape character ++ rest) = do
      let (text, rest) ← readString fuel rest
      return (character :: text, rest) := by
  unfold escape
  split
  iterate 7
    · simp [readString, readEscape]
  · rename_i no_quote no_backslash _ _ _ _ _
    split_ifs with control
    · simp [readString, readEscape, readCode_hexadecimal control, Char.ofNat_toNat]
    · rw [List.singleton_append, readString]
      · rw [if_neg control]
      · exact no_quote
      · exact no_backslash

/-- The characters of a string read back. -/
theorem readString_flatMap {fuel : ℕ} {text : List Char} (enough : text.length < fuel)
    (rest : List Char) :
    readString fuel (text.flatMap escape ++ '"' :: rest) = .ok (text, rest) := by
  induction text generalizing fuel with
  | nil =>
    obtain ⟨fuel, rfl⟩ := Nat.exists_eq_add_one_of_ne_zero (Nat.ne_zero_of_lt enough)
    rfl
  | cons character text ih =>
    obtain ⟨fuel, rfl⟩ := Nat.exists_eq_add_one_of_ne_zero (Nat.ne_zero_of_lt enough)
    rw [List.flatMap_cons, List.append_assoc, readString_escape, ih (Nat.lt_of_succ_lt_succ enough)]
    rfl

end Scriptlet.Json
