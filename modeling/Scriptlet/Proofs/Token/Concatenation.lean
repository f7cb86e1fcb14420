import Scriptlet.Proofs.Token.Split

/-! # Tokens of texts that are put together

A text that can be tokenized does not depend on the lines after it: none of its pieces goes on past a
line break at its end.  What follows on later lines is tokenized as if it were alone, up to the
numbers of its lines.

Main definitions:

* `Token.later`, `Error.later`: a token and an error a number of lines later.
* `lastLine`: the line on which a source text ends.

Main statements: `scan_append_newline`, `scan_later` and `tokenize_append`. -/

namespace Scriptlet

/-- A token that stands a number of lines later. -/
def Token.later (lines : Int) (token : Token) : Token :=
  { token with line := token.line + lines }

/-- An error that is blamed on a line a number of lines later. -/
def Error.later (lines : Int) (error : Error) : Error :=
  { error with line := error.line + lines }

namespace Token

open Text

variable {raw rest text : List Char}

/-! ## Pieces before a line break -/

/-- What ends a piece still ends it if a line break and more follow. -/
theorem head?_append_newline (holds : Char → Prop) (newline : holds '\n')
    (longest : ∀ next ∈ rest.head?, holds next) (more : List Char) :
    ∀ next ∈ (rest ++ '\n' :: more).head?, holds next := by
  cases rest with
  | nil =>
    rintro _ ⟨⟩
    exact newline
  | cons next rest => exact longest

/-- A piece remains one if a line break and more text follow. -/
theorem Forms.append_newline {piece : Piece} (forms : Forms piece raw rest) (more : List Char) :
    Forms piece raw (rest ++ '\n' :: more) := by
  cases forms with
  | blank blank => exact .blank blank
  | lineComment inside ends =>
    exact .lineComment inside (head?_append_newline (· = '\n') rfl ends more)
  | blockComment inside => exact .blockComment inside
  | word start parts longest =>
    exact .word start parts (head?_append_newline (isNamePart · = false) (by decide) longest more)
  | integer some all longest =>
    refine .integer some all ?_
    exact head?_append_newline (fun next => next.isDigit = false ∧ next ≠ '.') (by decide) longest more
  | float some all fractional longest =>
    refine .float some all fractional ?_
    exact head?_append_newline (·.isDigit = false) (by decide) longest more
  | literal quote spells => exact .literal quote spells
  | pair known => exact .pair known
  | @single first _ known longest noComment =>
    have unpaired : (first, '\n') ∉ pairOperators := by
      have others : ∀ pair ∈ pairOperators, pair.2 ≠ '\n' := by decide
      exact fun paired => others _ paired rfl
    refine .single known ?_ fun slash => ?_
    · exact head?_append_newline (fun second => (first, second) ∉ pairOperators) unpaired longest more
    · exact head?_append_newline (fun second => second ≠ '/' ∧ second ≠ '*') (by decide)
        (noComment slash) more
  | punctuation known => exact .punctuation known

/-- Pieces stay pieces if a line break and more follow them. -/
theorem Pieces.append_newline {sort : Piece → Prop} (pieces : Pieces sort raw rest)
    (more : List Char) : Pieces sort raw (rest ++ '\n' :: more) := by
  induction pieces with
  | nil => exact .nil
  | @cons piece raw before rest fits forms later ih =>
    have forms' := forms.append_newline more
    rw [List.append_assoc] at forms'
    exact .cons fits forms' ih

/-! ## Scanning on -/

/-- No piece of a text is the mark of its end. -/
theorem Forms.kind_ne_endOfInput {kind : Kind} {lexeme : List Char}
    (forms : Forms (.token kind lexeme) raw rest) : kind ≠ .endOfInput := by
  cases forms with
  | word =>
    unfold wordKind
    split <;> exact nofun
  | integer | float | literal | pair | single | punctuation => exact nofun

/-- A line break is a gap of its own. -/
theorem scan_newline (line : Nat) (more : List Char) :
    scan line ('\n' :: more) = scan (line + 1) more :=
  @scan_gap ['\n'] more (.blank rfl) line

/-- The tokens of a text that splits remain if a line break and more text follow, up to the mark of
the end, which the tokens of that text take the place of. -/
theorem Splits.scan_append_newline {slices : List Slice} {last : List Char}
    (splits : Splits slices last text) (line : Nat) :
    ∃ words, (∀ word ∈ words, word.kind ≠ .endOfInput) ∧
      scan line text = .ok (words ++ [⟨.endOfInput, "", (line + countNewlines text : Nat)⟩]) ∧
      ∀ more, scan line (text ++ '\n' :: more) =
        (scan (line + countNewlines text + 1) more).map (words ++ ·) := by
  -- A line break ends the last gap and no piece, so the text is cut as before and what follows
  -- starts on the next line.
  induction splits generalizing line with
  | @last gap isGap =>
    refine ⟨[], nofun, ?_, fun more => ?_⟩
    · have skipped := scan_of_gap isGap line
      rw [List.append_nil] at skipped
      rw [skipped, scan, List.nil_append]
    · have isGap' : Gap gap ('\n' :: more) := isGap.append_newline more
      rw [scan_of_gap isGap', scan_newline]
      cases scan (line + countNewlines gap + 1) more <;> rfl
  | @slice slice slices last rest isGap forms later ih =>
    obtain ⟨words, notEnd, scans, goesOn⟩ :=
      ih (line + countNewlines slice.gap + countNewlines slice.raw)
    have place : line + countNewlines (slice.gap ++ (slice.raw ++ rest)) =
        line + countNewlines slice.gap + countNewlines slice.raw + countNewlines rest := by
      rw [countNewlines_append, countNewlines_append]
      omega
    rw [place]
    refine ⟨⟨slice.kind, String.ofList slice.lexeme, line + countNewlines slice.gap⟩ :: words,
      ?_, ?_, fun more => ?_⟩
    · exact List.forall_mem_cons.mpr ⟨forms.kind_ne_endOfInput, notEnd⟩
    · rw [scan_of_gap isGap, scan_token forms, scans]
      rfl
    · have isGap' := isGap.append_newline more
      rw [List.append_assoc] at isGap'
      rw [List.append_assoc, List.append_assoc, scan_of_gap isGap',
        scan_token (forms.append_newline more), goesOn]
      cases scan _ more <;> rfl

/-- A text that can be tokenized splits. -/
theorem exists_splits_of_scan {line : Nat} {tokens : List Token} (scans : scan line text = .ok tokens) :
    ∃ slices last, Splits slices last text := by
  obtain splits | ⟨before, rest, cause, rfl, pieces, stuck⟩ := exists_split_or_halt text
  · exact splits
  · rw [scan_of_pieces pieces stuck] at scans
    cases scans

/-! ## Later lines -/

/-- A text on later lines is scanned alike. -/
theorem Splits.scan_later {slices : List Slice} {last : List Char} (splits : Splits slices last text)
    (line lines : Nat) : scan (line + lines) text = (scan line text).map (List.map (later lines)) := by
  induction splits generalizing line with
  | @last gap isGap =>
    have skipped (line : Nat) : scan line gap = scan (line + countNewlines gap) [] := by
      rw [← scan_of_gap isGap, List.append_nil]
    rw [skipped, skipped, scan, scan, Nat.add_right_comm]
    rfl
  | @slice slice slices last rest isGap forms later ih =>
    rw [scan_of_gap isGap, scan_of_gap isGap, scan_token forms, scan_token forms,
      Nat.add_right_comm line, Nat.add_right_comm _ lines, ih]
    cases scan _ rest <;> simp [Except.map, Token.later]

/-- What is scanned from a later line on is the same, on later lines. -/
theorem scan_later (line lines : Nat) (text : List Char) :
    scan (line + lines) text =
      ((scan line text).map (List.map (later lines))).mapError (Error.later lines) := by
  obtain ⟨slices, last, splits⟩ | ⟨before, rest, cause, rfl, pieces, stuck⟩ :=
    exists_split_or_halt text
  · obtain ⟨words, -, scans, -⟩ := splits.scan_append_newline line
    rw [splits.scan_later, scans]
    rfl
  · rw [scan_of_pieces pieces stuck, scan_of_pieces pieces stuck]
    refine congrArg Except.error ?_
    simp only [Error.later, Int.natCast_add, Int.add_right_comm]

/-! ## Source texts -/

/-- The number of the line on which a source text ends. -/
def lastLine (source : String) : Nat :=
  1 + countNewlines source.toList

/-- The tokens of a source text up to the mark of its end, and what they are followed by if the text
goes on at a line break. -/
theorem exists_words_of_tokenize {source : String} {tokens : List Token}
    (tokenizes : tokenize source = .ok tokens) :
    ∃ words, (∀ word ∈ words, word.kind ≠ .endOfInput) ∧
      tokens = words ++ [⟨.endOfInput, "", lastLine source⟩] ∧ ∀ other, tokenize (source ++ "\n" ++ other) =
        (((tokenize other).map (List.map (later (lastLine source)))).mapError
          (Error.later (lastLine source))).map (words ++ ·) := by
  obtain ⟨slices, last, splits⟩ := exists_splits_of_scan tokenizes
  obtain ⟨words, notEnd, scans, goesOn⟩ := splits.scan_append_newline 1
  refine ⟨words, notEnd, Except.ok.inj (tokenizes.symm.trans scans), fun other => ?_⟩
  have whole : (source ++ "\n" ++ other).toList = source.toList ++ '\n' :: other.toList := by
    simp
  rw [tokenize, tokenize, whole, goesOn, lastLine, ← scan_later, Nat.add_comm 1 (1 + _)]

/-- Tokenizing goes on at a line break as if it started there: the tokens of a text, up to the mark of
its end, are followed by the tokens of the text after the line break, or by its error, as many lines
later as the first text has. -/
theorem tokenize_append {source : String} {tokens : List Token}
    (tokenizes : tokenize source = .ok tokens) (other : String) :
    ∃ words, (∀ word ∈ words, word.kind ≠ .endOfInput) ∧
      tokens = words ++ [⟨.endOfInput, "", lastLine source⟩] ∧
      (∀ others, tokenize other = .ok others →
        tokenize (source ++ "\n" ++ other) = .ok (words ++ others.map (later (lastLine source)))) ∧
      ∀ error, tokenize other = .error error →
        tokenize (source ++ "\n" ++ other) = .error (error.later (lastLine source)) := by
  obtain ⟨words, notEnd, tokens_eq, goesOn⟩ := exists_words_of_tokenize tokenizes
  refine ⟨words, notEnd, tokens_eq, ?_, ?_⟩
  · intro others others_eq
    rw [goesOn, others_eq]
    rfl
  · intro error error_eq
    rw [goesOn, error_eq]
    rfl

/-- A result that is there can be told by comparing it. -/
theorem eq_ok_of_toOption {result : Except Error (List Token)} {tokens : List Token}
    (found : result.toOption = some tokens) : result = .ok tokens := by
  cases result with
  | ok others => exact congrArg Except.ok (Option.some.inj found)
  | error error => cases found

/-- A number that ends with a point does not go on after the line break, and a text literal that is
not closed is reported on its line. -/
theorem openNumber_append :
    tokenize "\n1.\n5" = .ok [⟨.float, "1.", 2⟩, ⟨.integer, "5", 3⟩, ⟨.endOfInput, "", 3⟩] ∧
      tokenize "\n1.\n'" = .error ⟨.unclosedText, 3⟩ := by
  have tokenizes : tokenize "\n1." = .ok [⟨.float, "1.", 2⟩, ⟨.endOfInput, "", 2⟩] :=
    eq_ok_of_toOption (by decide +kernel)
  have others : tokenize "5" = .ok [⟨.integer, "5", 1⟩, ⟨.endOfInput, "", 1⟩] :=
    eq_ok_of_toOption (by decide +kernel)
  have fails : tokenize "'" = .error ⟨.unclosedText, 1⟩ := by cbv
  obtain ⟨words, -, tokens_eq, joins, -⟩ := tokenize_append tokenizes "5"
  obtain ⟨-, -, -, -, stops⟩ := tokenize_append tokenizes "'"
  obtain rfl : [⟨.float, "1.", 2⟩] = words := (List.append_inj_left' tokens_eq rfl)
  exact ⟨joins _ others, stops _ fails⟩

end Token

end Scriptlet
