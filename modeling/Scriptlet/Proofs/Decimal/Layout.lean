import Scriptlet.Decimal.Format
import Scriptlet.Decimal.Numeral
import Scriptlet.Proofs.Decimal.Bits

/-! # Decimals laid out

A layout of a double is a numeral, and the numeral reads as that double.

Main definitions:

* `Numeral`: the parts of a decimal that is written out.

Main statements:

* `Numeral.magnitude?_text`: the magnitude bits that a numeral reads as.
* `exists_numeral`: every finite double is laid out as a numeral that reads as it. -/

namespace Scriptlet.Decimal

/-! ## Texts of digits -/

/-- The decimal digits at the front of a text are taken off it. -/
theorem takeDigits_append {digits rest : List Char} (all : ∀ digit ∈ digits, digit.isDigit)
    (stop : ∀ next ∈ rest.head?, Text.digitValue? next = none ∧ next ≠ '_') :
    takeDigits (digits ++ rest) = (digits.map fun digit => digit.toNat - 0x30, rest) := by
  induction digits with
  | nil =>
    rw [List.nil_append, List.map_nil]
    fun_cases takeDigits rest <;> simp_all
  | cons digit digits ih =>
    have value : Text.digitValue? digit = some (digit.toNat - 0x30) := by
      rw [Text.digitValue?, if_pos (all digit List.mem_cons_self)]
    have no_underscore (more : List Char) : digits ++ rest ≠ '_' :: more := by
      intro front
      cases digits with
      | nil => exact (stop '_' (by simp_all)).2 rfl
      | cons next digits =>
        have := all '_' (by simp_all)
        simp at this
    rw [List.cons_append, takeDigits]
    · simp only [value, ih fun digit mem => all digit (List.mem_cons_of_mem _ mem), List.map_cons]
    · intro more front
      exact no_underscore more front

/-- The values of digits make up the number that the digits are read as. -/
theorem ofDigits_map (digits : List Char) :
    ofDigits (digits.map fun digit => digit.toNat - 0x30) = Nat.ofDigitChars 10 digits 0 := by
  rw [ofDigits, List.foldl_map, Nat.ofDigitChars_eq_foldl]
  rfl

/-- No zero stands at the front of a natural. -/
theorem head?_toDigits_ne {number : ℕ} (nonzero : number ≠ 0) :
    (Nat.toDigits 10 number).head? ≠ some '0' := by
  induction number using Nat.strongRecOn with
  | ind number ih =>
    rw [Nat.toDigits_eq_if (by norm_num)]
    split_ifs with small
    · have : ∀ digit < 10, digit ≠ 0 → [Nat.digitChar digit].head? ≠ some '0' := by decide
      exact this number small nonzero
    · rw [List.head?_append_of_ne_nil _ Nat.toDigits_ne_nil]
      exact ih (number / 10) (by omega) (by omega)

/-- Zeros at the end of a decimal do not change its value. -/
theorem decimal_shift {number shifted : ℕ} (count : ℕ) {power raised : ℤ}
    (number_eq : shifted = number * 10 ^ count) (power_eq : raised = power + count) :
    (shifted : ℚ) * 10 ^ power = number * 10 ^ raised := by
  rw [number_eq, power_eq, zpow_add₀ (by norm_num), zpow_natCast]
  push_cast
  ring

/-! ## Numerals -/

/-- The parts of a decimal: digits before the point, digits after it, if there is a point, and the
sign and the digits of an exponent, if there is one.  It is not mistaken for an integer. -/
structure Numeral where
  whole : List Char
  fraction : List Char
  mark : Option (Bool × List Char)
  whole_ne : whole ≠ []
  isDigit : ∀ digit ∈ whole ++ fraction, digit.isDigit
  leading : whole.head? = some '0' → whole = ['0']
  mark_digits : ∀ negative digits, mark = some (negative, digits) →
    digits ≠ [] ∧ ∀ digit ∈ digits, digit.isDigit
  double : fraction = [] → mark ≠ none

namespace Numeral

/-- The fraction behind its point. -/
def pointed : List Char → List Char
  | [] => []
  | digit :: digits => '.' :: digit :: digits

/-- The exponent behind its mark and its sign. -/
def marked : Option (Bool × List Char) → List Char
  | none => []
  | some (negative, digits) => 'e' :: (if negative then '-' else '+') :: digits

/-- The text of a numeral. -/
def text (numeral : Numeral) : List Char :=
  numeral.whole ++ pointed numeral.fraction ++ marked numeral.mark

/-- The digits of a numeral, without the point. -/
def significand (numeral : Numeral) : ℕ :=
  Nat.ofDigitChars 10 (numeral.whole ++ numeral.fraction) 0

/-- The written exponent; zero if there is none. -/
def power : Option (Bool × List Char) → ℤ
  | none => 0
  | some (negative, digits) => signed negative (Nat.ofDigitChars 10 digits 0)

/-- The power of ten that the digits are multiplied with. -/
def exponent (numeral : Numeral) : ℤ :=
  power numeral.mark - numeral.fraction.length

/-- The magnitude bits of the double nearest to a numeral. -/
def bits (numeral : Numeral) : ℕ :=
  nearestDecimal numeral.significand numeral.exponent

/-- A numeral is not written as nothing. -/
theorem text_ne (numeral : Numeral) : numeral.text ≠ [] := by
  simp [text, numeral.whole_ne]

/-- A numeral starts with a digit. -/
theorem isDigit_head?_text (numeral : Numeral) :
    ∀ digit ∈ numeral.text.head?, digit.isDigit := by
  intro digit mem
  rw [text, List.append_assoc, List.head?_append_of_ne_nil _ numeral.whole_ne] at mem
  exact numeral.isDigit digit (List.mem_append_left _ (List.mem_of_head? mem))

/-- The digits of a numeral end where its point or its mark stands. -/
theorem stop_marked (mark : Option (Bool × List Char)) :
    ∀ next ∈ (marked mark).head?, Text.digitValue? next = none ∧ next ≠ '_' := by
  intro next mem
  rcases mark with - | ⟨negative, digits⟩
  · cases mem
  · obtain rfl : 'e' = next := Option.some.inj mem
    decide

/-- The digits in front end where a fraction or an exponent starts. -/
theorem stop_pointed (fraction : List Char) (mark : Option (Bool × List Char)) :
    ∀ next ∈ (pointed fraction ++ marked mark).head?,
      Text.digitValue? next = none ∧ next ≠ '_' := by
  rcases fraction with - | ⟨digit, digits⟩
  · exact stop_marked mark
  · intro next mem
    obtain rfl : '.' = next := Option.some.inj mem
    decide

/-- An exponent is taken back as its power. -/
theorem takeExponent_marked (numeral : Numeral) :
    takeExponent (marked numeral.mark) = some (power numeral.mark, []) := by
  cases mark_eq : numeral.mark with
  | none => rfl
  | some mark =>
    obtain ⟨negative, digits⟩ := mark
    obtain ⟨digits_ne, all⟩ := numeral.mark_digits negative digits mark_eq
    have taken := @takeDigits_append digits [] all (by simp)
    have sign : takeSign ((if negative then '-' else '+') :: digits) = (negative, digits) := by
      cases negative <;> rfl
    rw [List.append_nil] at taken
    obtain ⟨digit, digits, rfl⟩ := List.exists_cons_of_ne_nil digits_ne
    simp only [marked, takeExponent, sign, taken, ← ofDigits_map, power]
    rfl

/-- A fraction is taken back as its digits. -/
theorem takeFraction_pointed (numeral : Numeral) :
    takeFraction (pointed numeral.fraction ++ marked numeral.mark) =
      (numeral.fraction.map fun digit => digit.toNat - 0x30, marked numeral.mark) := by
  have all : ∀ digit ∈ numeral.fraction, digit.isDigit := fun digit mem =>
    numeral.isDigit digit (List.mem_append_right _ mem)
  generalize numeral.mark = mark
  cases fraction_eq : numeral.fraction with
  | nil =>
    rcases mark with - | ⟨negative, digits⟩
    · rfl
    · rfl
  | cons digit digits =>
    rw [fraction_eq] at all
    exact takeDigits_append all (stop_marked mark)

/-- A numeral reads as the double nearest to it. -/
theorem magnitude?_text (numeral : Numeral) : magnitude? numeral.text = some numeral.bits := by
  have all : ∀ digit ∈ numeral.whole, digit.isDigit := fun digit mem =>
    numeral.isDigit digit (List.mem_append_left _ mem)
  have taken : takeDigits numeral.text = (numeral.whole.map fun digit => digit.toNat - 0x30,
      pointed numeral.fraction ++ marked numeral.mark) := by
    rw [text, List.append_assoc]
    exact takeDigits_append all (stop_pointed numeral.fraction numeral.mark)
  have nonempty : (numeral.whole.map fun digit => digit.toNat - 0x30).isEmpty = false := by
    simpa using numeral.whole_ne
  simp only [magnitude?, taken, takeFraction_pointed, takeExponent_marked, nonempty,
    Bool.false_and, Bool.false_eq_true, if_false, ← List.map_append, ofDigits_map, List.length_map]
  rfl

/-- A numeral with the value of a decimal reads as the same double. -/
theorem bits_eq {numeral : Numeral} {significand : ℕ} {exponent : ℤ}
    (same : (numeral.significand : ℚ) * 10 ^ numeral.exponent = significand * 10 ^ exponent) :
    numeral.bits = nearestDecimal significand exponent :=
  nearestDecimal_congr same

end Numeral

/-! ## Layouts -/

/-- Digits that a layout can start from: there are some, and no zero stands at their front. -/
structure Digits.IsSound (decimal : Digits) : Prop where
  ne : decimal.digits ≠ []
  isDigit : ∀ digit ∈ decimal.digits, digit.isDigit
  leading : decimal.digits.head? ≠ some '0'

/-- The natural that digits denote without the point. -/
def Digits.significand (decimal : Digits) : ℕ :=
  Nat.ofDigitChars 10 decimal.digits 0

/-- The power of ten that the natural is multiplied with. -/
def Digits.exponent (decimal : Digits) : ℤ :=
  decimal.point - decimal.digits.length

/-- Dropping the zeros at the end of a natural keeps the value of the decimal. -/
theorem Digits.ofScaled_spec {number : ℕ} (nonzero : number ≠ 0) (power : ℤ) :
    (Digits.ofScaled number power).IsSound ∧
      ((Digits.ofScaled number power).significand : ℚ) *
        10 ^ (Digits.ofScaled number power).exponent = number * 10 ^ power := by
  -- The zeros at the end are those in front of the reversed digits.
  obtain ⟨count, split⟩ : ∃ count, Nat.toDigits 10 number =
      (Digits.ofScaled number power).digits ++ List.replicate count '0' := by
    have front := List.takeWhile_append_dropWhile
      (p := (· = '0')) (l := (Nat.toDigits 10 number).reverse)
    refine ⟨((Nat.toDigits 10 number).reverse.takeWhile (· = '0')).length, ?_⟩
    have zeros : (Nat.toDigits 10 number).reverse.takeWhile (· = '0') =
        List.replicate ((Nat.toDigits 10 number).reverse.takeWhile (· = '0')).length '0' :=
      List.eq_replicate_of_mem fun character mem => by
        simpa using List.all_eq_true.mp List.all_takeWhile character mem
    rw [← List.reverse_replicate, ← zeros, Digits.ofScaled, ← List.reverse_append, front,
      List.reverse_reverse]
  have point_eq : (Digits.ofScaled number power).point =
      (Nat.toDigits 10 number).length + power := rfl
  have head_ne := head?_toDigits_ne nonzero
  have isDigit : ∀ digit ∈ Nat.toDigits 10 number, digit.isDigit := fun digit mem =>
    Nat.isDigit_of_mem_toDigits (by norm_num) (by norm_num) mem
  have number_eq : Nat.ofDigitChars 10 (Nat.toDigits 10 number) 0 = number :=
    Nat.ofDigitChars_ten_toDigits
  generalize Digits.ofScaled number power = decimal at *
  -- If only zeros were dropped, the number would start with one.
  have ne : decimal.digits ≠ [] := by
    intro empty
    rw [empty, List.nil_append] at split
    cases count with
    | zero => exact Nat.toDigits_ne_nil split
    | succ count => exact head_ne (by rw [split]; rfl)
  rw [split] at isDigit head_ne number_eq
  refine ⟨⟨ne, fun digit mem => isDigit digit (List.mem_append_left _ mem), ?_⟩, ?_⟩
  · rwa [List.head?_append_of_ne_nil _ ne] at head_ne
  · rw [Nat.ofDigitChars_append, Nat.ofDigitChars_replicate_zero] at number_eq
    have exponent_eq : decimal.exponent = power + count := by
      rw [Digits.exponent, point_eq, split, List.length_append, List.length_replicate]
      push_cast
      ring
    exact (decimal_shift count (by rw [← number_eq, mul_comm]; rfl) exponent_eq).symm

/-- A fraction with digits has a point in front. -/
theorem Numeral.pointed_of_ne {fraction : List Char} (ne : fraction ≠ []) :
    Numeral.pointed fraction = '.' :: fraction := by
  obtain ⟨digit, digits, rfl⟩ := List.exists_cons_of_ne_nil ne
  rfl

/-- Digits with a point among them are a numeral of the same value. -/
theorem exists_positional {decimal : Digits} (sound : decimal.IsSound) :
    ∃ numeral : Numeral, (positional decimal).toList = numeral.text ∧
      (numeral.significand : ℚ) * 10 ^ numeral.exponent =
        decimal.significand * 10 ^ decimal.exponent := by
  obtain ⟨ne, isDigit, leading⟩ := sound
  obtain ⟨digits, point⟩ := decimal
  simp only at ne isDigit leading
  rcases le_or_gt point 0 with small | large
  · -- Zeros stand between the point and the digits.
    refine ⟨⟨['0'], List.replicate (-point).toNat '0' ++ digits, none, by simp, ?_, by simp, nofun,
      by simp [ne]⟩, ?_, ?_⟩
    · intro digit mem
      simp only [List.mem_append, List.mem_singleton, List.mem_replicate] at mem
      rcases mem with rfl | ⟨-, rfl⟩ | mem
      · rfl
      · rfl
      · exact isDigit digit mem
    · have whole : point.toNat = 0 := by omega
      simp [positional, Numeral.text, Numeral.marked, whole, Numeral.pointed_of_ne, ne]
    · refine decimal_shift 0 ?_ ?_
      · simp [Numeral.significand, Digits.significand, Nat.ofDigitChars_cons,
          Nat.ofDigitChars_append, Nat.ofDigitChars_replicate_zero]
      · simp only [Numeral.exponent, Numeral.power, Digits.exponent, List.length_append,
          List.length_replicate]
        omega
  · have whole : ¬point.toNat = 0 := by omega
    rcases Nat.lt_or_ge point.toNat digits.length with inside | outside
    · -- The point stands among the digits.
      have trailing_ne : digits.drop point.toNat ≠ [] := by simpa using inside
      have leading_ne : digits.take point.toNat ≠ [] := by simp [whole, ne]
      refine ⟨⟨digits.take point.toNat, digits.drop point.toNat, none, leading_ne, ?_, ?_, nofun,
        by simp [trailing_ne]⟩, ?_, ?_⟩
      · rwa [List.take_append_drop]
      · intro zero
        rw [List.head?_take, if_neg whole] at zero
        exact absurd zero leading
      · have below : (-point).toNat = 0 := by omega
        have covered : point.toNat - digits.length = 0 := by omega
        simp [positional, Numeral.text, Numeral.marked, whole, Numeral.pointed_of_ne, trailing_ne,
          below, inside.le]
      · refine decimal_shift 0 ?_ ?_
        · simp [Numeral.significand, Digits.significand]
        · simp only [Numeral.exponent, Numeral.power, Digits.exponent, List.length_drop]
          omega
    · -- Zeros stand between the digits and the point, and one after it.
      refine ⟨⟨digits ++ List.replicate (point.toNat - digits.length) '0', ['0'], none,
        by simp [ne], ?_, ?_, nofun, by simp⟩, ?_, ?_⟩
      · intro digit mem
        simp only [List.mem_append, List.mem_singleton, List.mem_replicate] at mem
        rcases mem with (mem | ⟨-, rfl⟩) | rfl
        · exact isDigit digit mem
        · rfl
        · rfl
      · intro zero
        rw [List.head?_append_of_ne_nil _ ne] at zero
        exact absurd zero leading
      · have below : (-point).toNat = 0 := by omega
        simp [positional, Numeral.text, Numeral.marked, Numeral.pointed, whole, below, outside]
      · refine decimal_shift (point.toNat - digits.length + 1) ?_ ?_
        · simp only [Numeral.significand, Digits.significand, Nat.ofDigitChars_append,
            Nat.ofDigitChars_replicate_zero, Nat.ofDigitChars_cons, Nat.ofDigitChars_nil,
            Nat.sub_self, Nat.add_zero]
          ring
        · simp only [Numeral.exponent, Numeral.power, Digits.exponent, List.length_singleton]
          omega

/-- Digits with an exponent mark are a numeral of the same value. -/
theorem exists_marked (width : ℕ) {decimal : Digits} (sound : decimal.IsSound) :
    ∃ numeral : Numeral, (marked width decimal).toList = numeral.text ∧
      (numeral.significand : ℚ) * 10 ^ numeral.exponent =
        decimal.significand * 10 ^ decimal.exponent := by
  obtain ⟨ne, isDigit, leading⟩ := sound
  obtain ⟨digits, point⟩ := decimal
  obtain ⟨first, rest, rfl⟩ := List.exists_cons_of_ne_nil ne
  -- One digit stands before the point, and the exponent counts from there.
  set exponentDigits := (padded width (point - 1).natAbs).toList with exponentDigits_eq
  rw [padded, String.toList_ofList] at exponentDigits_eq
  refine ⟨⟨[first], rest, some (point - 1 < 0, exponentDigits), by simp, isDigit, ?_, ?_,
    by simp⟩, ?_, ?_⟩
  · intro zero
    exact absurd zero leading
  · rintro negative digits ⟨⟩
    rw [exponentDigits_eq]
    refine ⟨by simp [Nat.toDigits_ne_nil], fun digit mem => ?_⟩
    rcases List.mem_append.mp mem with zero | mem
    · rw [List.eq_of_mem_replicate zero]
      rfl
    · exact Nat.isDigit_of_mem_toDigits (by norm_num) (by norm_num) mem
  · have ending : (padded width (point - 1).natAbs).toList = exponentDigits := rfl
    have fraction : (if rest.isEmpty then "" else "." ++ String.ofList rest).toList =
        Numeral.pointed rest := by
      cases rest <;> simp [Numeral.pointed]
    have mark : (if point - 1 < 0 then "e-" else "e+").toList =
        ['e', if (point - 1 < 0 : Bool) then '-' else '+'] := by
      by_cases negative : point - 1 < 0
      · simp [negative]
      · simp [negative]
    simp only [marked, List.drop_one, List.tail_cons, List.take_one, List.head?_cons,
      Option.toList_some, String.toList_append, String.toList_ofList, fraction, mark, ending,
      Numeral.text, Numeral.marked, List.append_assoc]
    rfl
  · refine decimal_shift 0 ?_ ?_
    · simp [Numeral.significand, Digits.significand]
    · have exponent_eq : signed (point - 1 < 0) (point - 1).natAbs = point - 1 := by
        by_cases negative : point - 1 < 0
        · simp only [signed, negative, decide_true, if_true]
          omega
        · simp only [signed, negative, decide_false, Bool.false_eq_true, if_false]
          omega
      simp only [Numeral.exponent, Numeral.power, Digits.exponent, List.length_cons]
      rw [exponentDigits_eq, Nat.ofDigitChars_append, Nat.ofDigitChars_replicate_zero, mul_zero,
        Nat.ofDigitChars_ten_toDigits, exponent_eq]
      push_cast
      ring

/-- Every finite double is laid out as a numeral that reads as it. -/
theorem exists_numeral (format : Format) {number : Float} {negative : Bool} {significand : ℕ}
    {exponent : ℤ} (reading : read number = .finite negative significand exponent) :
    ∃ numeral : Numeral,
      (format.write number).toList = (if negative then "-" else "").toList ++ numeral.text ∧
        ofMagnitude negative numeral.bits = number := by
  obtain ⟨isSignificand, number_eq⟩ := of_read_finite reading
  -- Zero has no digits of its own and is laid out apart.
  by_cases zero : significand = 0
  · subst zero
    refine ⟨⟨['0'], ['0'], none, by simp, by simp, by simp, nofun, by simp⟩, ?_, ?_⟩
    · simp only [Format.write, reading, String.toList_append]
      rfl
    · have subnormal : exponent = -1074 := isSignificand.normal.resolve_right (by norm_num)
      rw [← number_eq, subnormal]
      rfl
  · obtain ⟨scaled, power, decimal_eq, bits_eq⟩ := shortest_readsBack isSignificand zero
    have scaled_ne : scaled ≠ 0 := by
      rintro rfl
      have : nearestDecimal 0 power = 0 := by simp [nearestDecimal]
      omega
    obtain ⟨sound, same⟩ := Digits.ofScaled_spec scaled_ne power
    have written : (format.write number).toList = (if negative then "-" else "").toList ++
        (if format.leastPositional ≤ (Digits.ofScaled scaled power).point - 1 &&
            (Digits.ofScaled scaled power).point - 1 < format.leastMarked then
          positional (Digits.ofScaled scaled power)
        else marked format.exponentWidth (Digits.ofScaled scaled power)).toList := by
      simp only [Format.write, reading, decimal_eq, String.toList_append]
    generalize Digits.ofScaled scaled power = decimal at *
    -- Where the point is decides between the two layouts; either one has the value.
    obtain ⟨numeral, text_eq, value_eq⟩ : ∃ numeral : Numeral,
        (if format.leastPositional ≤ decimal.point - 1 && decimal.point - 1 < format.leastMarked
          then positional decimal else marked format.exponentWidth decimal).toList =
            numeral.text ∧
          (numeral.significand : ℚ) * 10 ^ numeral.exponent =
            decimal.significand * 10 ^ decimal.exponent := by
      split_ifs
      · exact exists_positional sound
      · exact exists_marked format.exponentWidth sound
    refine ⟨numeral, by rw [written, text_eq], ?_⟩
    rw [Numeral.bits_eq (value_eq.trans same), bits_eq, number_eq]

end Scriptlet.Decimal
