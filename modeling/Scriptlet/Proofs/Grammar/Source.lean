import Scriptlet.Proofs.Decimal.Layout
import Scriptlet.Proofs.Grammar.Refusal
import Scriptlet.Proofs.Token.Split

/-! # What becomes of a source text

The tokens of a source text have no unknown signs and stand on its lines.  Of their numbers, those
with a point can always be read, and those without one unless they are too long.  So a source text
denotes a program, or a syntax error on one of its lines is told, or it has an integer that is too
long, and then the failure is not a syntax error.

Main statements:

* `Decimal.integer?_ofList`, `Decimal.double?_isSome`: the numbers of a source text that can be
  read.
* `ofSource_settled`: what becomes of any source text. -/

namespace Scriptlet

open Text

/-! ## Numerals of a source text -/

namespace Decimal

/-- No digit is left out at the margin of a number. -/
theorem isMargin_eq_false_of_isDigit {character : Char} (digit : character.isDigit = true) :
    isMargin character = false := by
  have part : Token.isNamePart character = true := by
    rw [Token.isNamePart, digit, Bool.or_true]
  rw [isMargin, (Token.not_gap_of_isNamePart part).1, Bool.false_and]

/-- A text that neither starts nor ends with a margin character is trimmed to itself. -/
theorem trimMargin_eq_self {text : List Char}
    (front : ∀ character ∈ text.head?, isMargin character = false)
    (back : ∀ character ∈ text.getLast?, isMargin character = false) : trimMargin text = text := by
  have kept {characters : List Char}
      (inside : ∀ character ∈ characters.head?, isMargin character = false) :
      characters.dropWhile isMargin = characters := by
    cases characters with
    | nil => rfl
    | cons first rest => simp [inside first rfl]
  rw [trimMargin, kept front, kept (by rwa [List.head?_reverse]), List.reverse_reverse]

/-- A number that starts with a digit has no sign. -/
theorem takeSign_of_isDigit {text : List Char}
    (digit : ∀ character ∈ text.head?, character.isDigit = true) :
    takeSign text = (false, text) := by
  unfold takeSign
  split
  · exact absurd (digit '-' rfl) (by decide)
  · exact absurd (digit '+' rfl) (by decide)
  · rfl

/-- A row of digits is an integer numeral, unless it is too long. -/
theorem integer?_ofList {digits : List Char} (ne : digits ≠ [])
    (all : ∀ digit ∈ digits, digit.isDigit = true) :
    integer? (String.ofList digits) =
      if digits.length ≤ digitLimit then some (.ofNat (Nat.ofDigitChars 10 digits 0))
      else none := by
  have trimmed : trimMargin digits = digits :=
    trimMargin_eq_self
      (fun digit mem => isMargin_eq_false_of_isDigit (all digit (List.mem_of_mem_head? mem)))
      fun digit mem => isMargin_eq_false_of_isDigit (all digit (List.mem_of_mem_getLast? mem))
  have unsigned : takeSign digits = (false, digits) :=
    takeSign_of_isDigit fun digit mem => all digit (List.mem_of_mem_head? mem)
  have taken := @takeDigits_append digits [] all nofun
  rw [List.append_nil] at taken
  simp only [integer?, String.toList_ofList, trimmed, unsigned, taken, List.isEmpty_map,
    List.length_map, List.isEmpty_eq_false_iff.mpr ne, Bool.false_or, ofDigits_map]
  by_cases long : digits.length > digitLimit
  · simp [long]
  · simp [long, not_lt.mp long, signed]

/-- A row of digits is an integer numeral exactly if it is not too long. -/
theorem integer?_isSome_iff {digits : List Char} (ne : digits ≠ [])
    (all : ∀ digit ∈ digits, digit.isDigit = true) :
    (integer? (String.ofList digits)).isSome ↔ digits.length ≤ digitLimit := by
  rw [integer?_ofList ne all]
  split <;> rename_i short <;> simp [short]

/-- Digits with a point after them, and digits or none after the point, are a numeral. -/
theorem double?_isSome {whole fraction : List Char} (ne : whole ≠ [])
    (all : ∀ digit ∈ whole, digit.isDigit = true)
    (fractional : ∀ digit ∈ fraction, digit.isDigit = true) :
    (double? (String.ofList (whole ++ '.' :: fraction))).isSome := by
  have front : ∀ character ∈ (whole ++ '.' :: fraction).head?, character.isDigit = true := by
    intro character mem
    rw [List.head?_append_of_ne_nil _ ne] at mem
    exact all character (List.mem_of_mem_head? mem)
  have back : ∀ character ∈ (whole ++ '.' :: fraction).getLast?, isMargin character = false := by
    intro character mem
    rw [List.getLast?_append_of_ne_nil _ (List.cons_ne_nil _ _)] at mem
    obtain rfl | digit := List.mem_cons.mp (List.mem_of_mem_getLast? mem)
    · decide
    · exact isMargin_eq_false_of_isDigit (fractional character digit)
  -- A numeral has digits at both ends or a point, so nothing is trimmed from it.
  have trimmed : trimMargin (whole ++ '.' :: fraction) = whole ++ '.' :: fraction :=
    trimMargin_eq_self (fun digit mem => isMargin_eq_false_of_isDigit (front digit mem)) back
  have read : (magnitude? (whole ++ '.' :: fraction)).isSome := by
    have taken := @takeDigits_append whole ('.' :: fraction) all (by rintro _ ⟨⟩; decide)
    have after := @takeDigits_append fraction [] fractional nofun
    rw [List.append_nil] at after
    simp [magnitude?, taken, takeFraction, after, ne, takeExponent]
  simp only [double?, String.toList_ofList, trimmed, takeSign_of_isDigit front]
  split_ifs
  · rfl
  · rfl
  · rwa [Option.isSome_map]

end Decimal

namespace Token

/-! ## Tokens of a source text -/

/-- All operators of two characters are in use. -/
theorem ofOperator?_pair_isSome : ∀ pair ∈ pairOperators,
    (Grammar.Terminal.ofOperator? (String.ofList [pair.1, pair.2])).isSome := by
  apply List.all_eq_true.mp
  cbv

/-- All operators of one character are in use. -/
theorem ofOperator?_single_isSome : ∀ sign ∈ singleOperators,
    (Grammar.Terminal.ofOperator? (String.ofList [sign])).isSome := by
  apply List.all_eq_true.mp
  cbv

/-- All punctuation is in use. -/
theorem ofPunctuation?_isSome : ∀ mark ∈ punctuationMarks,
    (Grammar.Terminal.ofPunctuation? (String.ofList [mark])).isSome := by
  apply List.all_eq_true.mp
  cbv

/-- A token that a piece of a source text forms has a class. -/
theorem Forms.ofToken?_isSome {kind : Kind} {lexeme raw rest : List Char} (line : Int)
    (forms : Forms (.token kind lexeme) raw rest) :
    (Grammar.Terminal.ofToken? ⟨kind, String.ofList lexeme, line⟩).isSome := by
  cases forms with
  | word =>
    unfold wordKind
    split
    · rfl
    · rfl
  | integer | float | literal => rfl
  | pair known => exact ofOperator?_pair_isSome _ known
  | single known => exact ofOperator?_single_isSome _ known
  | punctuation known => exact ofPunctuation?_isSome _ known

/-- Of the tokens that pieces of a source text form, only integers that are too long are no
numerals. -/
theorem Forms.overlong_of_hasNumeral {kind : Kind} {lexeme raw rest : List Char} {line : Int}
    (forms : Forms (.token kind lexeme) raw rest)
    (unread : Grammar.hasNumeral ⟨kind, String.ofList lexeme, line⟩ = false) :
    kind = .integer ∧ Decimal.digitLimit < (String.ofList lexeme).length := by
  cases forms with
  | word =>
    unfold wordKind at unread
    split at unread
    · cases unread
    · cases unread
  | integer ne all =>
    have long := mt (Decimal.integer?_isSome_iff ne all).mpr (Bool.eq_false_iff.mp unread)
    rw [String.length_ofList]
    exact ⟨rfl, not_le.mp long⟩
  | float ne all fractional =>
    have read := Decimal.double?_isSome ne all fractional
    exact absurd read (Bool.eq_false_iff.mp unread)
  | literal | pair | single | punctuation => cases unread

/-- A token of a source text stands on one of its lines and is formed by a piece of it, unless it is
the mark of the end. -/
theorem Splits.exists_forms {slices : List Slice} {last text : List Char}
    (splits : Splits slices last text) (before : List Char) :
    ∀ token ∈ tokensAfter before slices last,
      (1 ≤ token.line ∧ token.line ≤ 1 + countNewlines (before ++ text)) ∧
        (token.kind = .endOfInput ∨ ∃ lexeme raw rest,
          Forms (.token token.kind lexeme) raw rest ∧ token.lexeme = String.ofList lexeme) := by
  induction splits generalizing before with
  | @last gap isGap =>
    intro token mem
    obtain rfl := List.mem_singleton.mp mem
    exact ⟨⟨by simp, le_rfl⟩, Or.inl rfl⟩
  | @slice slice slices last rest isGap forms later ih =>
    intro token mem
    obtain rfl | mem := List.mem_cons.mp mem
    · refine ⟨⟨by simp, ?_⟩, Or.inr ⟨slice.lexeme, slice.raw, rest, forms, rfl⟩⟩
      rw [← List.append_assoc, countNewlines_append (before ++ slice.gap)]
      push_cast
      omega
    · have following := ih (before ++ slice.gap ++ slice.raw) token mem
      rwa [List.append_assoc, List.append_assoc] at following

end Token

namespace Grammar

/-! ## Source texts -/

variable {source : String} {tokens : List Token}

/-- The tokens of a source text stand on its lines, and each has a class and is a numeral if it is
a number, unless it is an integer that is too long. -/
theorem forall_mem_of_tokenize (tokenized : Token.tokenize source = .ok tokens) :
    ∀ token ∈ tokens, (1 ≤ token.line ∧ token.line ≤ 1 + countNewlines source.toList) ∧
      (Terminal.ofToken? token).isSome ∧ (hasNumeral token = false →
        token.kind = .integer ∧ Decimal.digitLimit < token.lexeme.length) := by
  obtain ⟨slices, last, splits⟩ | ⟨before, rest, cause, whole, pieces, stuck⟩ :=
    Token.exists_split_or_halt source.toList
  · have scanned := Token.scan_of_splits splits []
    rw [Token.tokenize, show 1 = 1 + countNewlines [] from rfl, scanned] at tokenized
    obtain rfl := Except.ok.inj tokenized
    rintro ⟨kind, lexeme, line⟩ mem
    obtain ⟨lines, rfl | ⟨characters, raw, rest, forms, rfl⟩⟩ := splits.exists_forms [] _ mem
    · exact ⟨lines, rfl, nofun⟩
    · exact ⟨lines, forms.ofToken?_isSome line, forms.overlong_of_hasNumeral⟩
  · have scanned := Token.scan_of_pieces pieces stuck 1
    rw [whole] at scanned
    rw [Token.tokenize, scanned] at tokenized
    cases tokenized

/-- A source text that cannot be tokenized has a syntax error on one of its lines. -/
theorem error_of_tokenize {error : Error} (refused : Token.tokenize source = .error error) :
    error.cause.kind = .grammar ∧ 1 ≤ error.line ∧
      error.line ≤ 1 + countNewlines source.toList := by
  obtain ⟨slices, last, splits⟩ | ⟨before, rest, cause, whole, pieces, stuck⟩ :=
    Token.exists_split_or_halt source.toList
  · have scanned := Token.scan_of_splits splits []
    rw [Token.tokenize, show 1 = 1 + countNewlines [] from rfl, scanned] at refused
    cases refused
  · have scanned := Token.scan_of_pieces pieces stuck 1
    rw [whole] at scanned
    rw [Token.tokenize, scanned] at refused
    obtain rfl := Except.error.inj refused
    refine ⟨stuck.kind_eq, by simp, ?_⟩
    rw [← whole, Token.countNewlines_append]
    push_cast
    omega

/-- A source text denotes a program, or a syntax error on one of its lines is told.  Otherwise an
integer in it is too long to be read, and the failure that comes out is no syntax error. -/
theorem ofSource_settled (source : String) :
    (∃ body, Program.ofSource source = .ok (.program 0 body)) ∨
    (∃ error, Program.ofSource source = .error (.error error) ∧ error.cause.kind = .grammar ∧
      1 ≤ error.line ∧ error.line ≤ 1 + countNewlines source.toList) ∨
    ∃ tokens, Token.tokenize source = .ok tokens ∧ ∃ token ∈ tokens, token.kind = .integer ∧
      Decimal.digitLimit < token.lexeme.length ∧
      Program.ofSource source = .error (.badNumeral token.lexeme) := by
  unfold Program.ofSource
  split
  · rename_i error refused
    exact Or.inr (Or.inl ⟨error, rfl, error_of_tokenize refused⟩)
  · rename_i tokens tokenized
    have each := forall_mem_of_tokenize tokenized
    have within : sentence tokens ⊆ tokens := List.takeWhile_subset _
    have settled := ofTokens_settled tokens
    cases result : Program.ofTokens tokens with
    | ok program =>
      obtain ⟨body, rfl⟩ := exists_program_eq result
      exact Or.inl ⟨body, rfl⟩
    | error failure =>
      rw [result] at settled
      -- A token of the tokenizer has a known sign, so that only a number can be the reason beside
      -- an error.
      cases failure with
      | error error =>
        obtain ⟨kind_eq, line_eq⟩ := settled
        refine Or.inr (Or.inl ⟨error, rfl, kind_eq, ?_⟩)
        obtain first | ⟨token, mem, line_eq⟩ := line_eq
        · rw [first]
          exact ⟨le_rfl, by simp⟩
        · rw [line_eq]
          exact (each token (within mem)).1
      | unknownSign lexeme =>
        obtain ⟨token, mem, unknown, -⟩ := settled
        have known := (each token (within mem)).2.1
        rw [unknown] at known
        cases known
      | badNumeral lexeme =>
        obtain ⟨token, mem, unread, rfl⟩ := settled
        obtain ⟨kind_eq, long⟩ := (each token (within mem)).2.2 unread
        exact Or.inr (Or.inr ⟨tokens, tokenized, token, within mem, kind_eq, long, rfl⟩)

/-- A statement of too many digits is refused, but not as a syntax error. -/
theorem ofSource_overlong {digits : List Char} (all : ∀ digit ∈ digits, digit.isDigit = true)
    (long : Decimal.digitLimit < digits.length) :
    Program.ofSource (String.ofList (digits ++ [';'])) =
      .error (.badNumeral (String.ofList digits)) := by
  have ne : digits ≠ [] := by
    rintro rfl
    cases long
  have integer : Token.Forms (.token .integer digits) digits [';'] :=
    .integer ne all (by rintro _ ⟨⟩; decide)
  have semicolon : Token.Forms (.token .punctuation [';']) [';'] [] :=
    .punctuation (by decide)
  have splits : Token.Splits [⟨[], .integer, digits, digits⟩, ⟨[], .punctuation, [';'], [';']⟩] []
      (digits ++ [';']) :=
    .token integer (.token semicolon (.last .nil))
  have scanned := Token.scan_of_splits splits []
  have unread : Decimal.integer? (String.ofList digits) = none := by
    have := mt (Decimal.integer?_isSome_iff ne all).mp (not_le.mpr long)
    simpa using this
  rw [Program.ofSource, Token.tokenize, String.toList_ofList,
    show 1 = 1 + countNewlines [] from rfl, scanned]
  show (Clause.nodes [.expression (.integer _)] >>= fun body => pure (Node.program 0 body)) = _
  simp only [Clause.nodes, Clause.node, Phrase.node, unread]
  rfl

/-- A statement that is one integer of 4301 digits. -/
def longStatement : String :=
  String.ofList (List.replicate 4301 '1' ++ [';'])

/-- A number with too many digits is neither read nor reported as an error of the grammar. -/
theorem ofSource_longStatement :
    ¬((∃ body, Program.ofSource longStatement = .ok (.program 0 body)) ∨
      ∃ error, Program.ofSource longStatement = .error (.error error) ∧
        error.cause.kind = .grammar ∧ 1 ≤ error.line ∧
        error.line ≤ 1 + countNewlines longStatement.toList) := by
  have digits : ∀ digit ∈ List.replicate 4301 '1', digit.isDigit = true := by
    intro digit mem
    rw [List.eq_of_mem_replicate mem]
    rfl
  have long : Decimal.digitLimit < (List.replicate 4301 '1').length := by
    rw [List.length_replicate]
    decide
  obtain ⟨lexeme, refused⟩ : ∃ lexeme, Program.ofSource longStatement = .error (.badNumeral lexeme) :=
    ⟨_, ofSource_overlong digits long⟩
  rw [refused]
  rintro (⟨body, same⟩ | ⟨error, same, -⟩)
  · cases same
  · cases same

end Grammar

end Scriptlet
