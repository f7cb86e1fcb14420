import Scriptlet.Proofs.Token.Piece

/-! # How source texts split into tokens

A source text that can be tokenized splits, in one way only, into the raw texts of its tokens and
the gaps between them, of white space and comments.  Each token stands on the line where its raw
text begins.  A text that cannot be tokenized has pieces up to a place where no piece can follow.

Main definitions:

* `Pieces`: characters are made up of pieces.
* `Slice`, `Split`: a token with the gap before it, and a way to split a text.
* `Split.tokens`: the tokens of a split, with their lines.
* `Halt`: the place in a text where no piece can follow, with `Halt.error`.

Main statements: `tokenize_decides`. -/

namespace Scriptlet.Token

open Text

/-! ## Splits -/

/-- Characters that the rest of a text follows are made up of pieces of a sort. -/
inductive Pieces (sort : Piece → Prop) : List Char → List Char → Prop
  | nil {rest : List Char} : Pieces sort [] rest
  | cons {piece : Piece} {raw more rest : List Char} (fits : sort piece)
      (forms : Forms piece raw (more ++ rest)) (later : Pieces sort more rest) :
      Pieces sort (raw ++ more) rest

/-- White space and comments, up to the rest of a text. -/
abbrev Gap : List Char → List Char → Prop := Pieces (· = .gap)

/-- A token in a text: the gap before it, what it is, and its raw text. -/
structure Slice where
  gap : List Char
  kind : Kind
  lexeme : List Char
  raw : List Char

/-- A text is made up of slices and of a last gap. -/
inductive Splits : List Slice → List Char → List Char → Prop
  | last {gap : List Char} (isGap : Gap gap []) : Splits [] gap gap
  | slice {slice : Slice} {slices : List Slice} {last rest : List Char}
      (isGap : Gap slice.gap (slice.raw ++ rest))
      (forms : Forms (.token slice.kind slice.lexeme) slice.raw rest)
      (later : Splits slices last rest) :
      Splits (slice :: slices) last (slice.gap ++ (slice.raw ++ rest))

/-- A token in front of a text that splits, without a gap. -/
theorem Splits.token {kind : Kind} {lexeme raw last rest : List Char} {slices : List Slice}
    (forms : Forms (.token kind lexeme) raw rest) (splits : Splits slices last rest) :
    Splits (⟨[], kind, lexeme, raw⟩ :: slices) last (raw ++ rest) :=
  @Splits.slice ⟨[], kind, lexeme, raw⟩ slices last rest .nil forms splits

/-- A way to split a text into tokens and gaps. -/
structure Split (text : List Char) where
  slices : List Slice
  last : List Char
  splits : Splits slices last text

/-- The tokens of slices and of a last gap that come after given characters: a token stands on the
line after the newlines before its raw text, and the end of input on the line after all of them. -/
def tokensAfter (before : List Char) : List Slice → List Char → List Token
  | [], last => [⟨.endOfInput, "", 1 + countNewlines (before ++ last)⟩]
  | slice :: slices, last =>
    ⟨slice.kind, String.ofList slice.lexeme, 1 + countNewlines (before ++ slice.gap)⟩ ::
      tokensAfter (before ++ slice.gap ++ slice.raw) slices last

/-- The tokens of a split. -/
def Split.tokens {text : List Char} (split : Split text) : List Token :=
  tokensAfter [] split.slices split.last

/-- The place in a text up to which there are pieces and where none can follow. -/
structure Halt (text : List Char) where
  before : List Char
  rest : List Char
  cause : Cause
  whole : before ++ rest = text
  pieces : Pieces (fun _ => True) before rest
  stuck : Stuck rest cause

/-- The error that tells of a place where no piece can follow, on its line. -/
def Halt.error {text : List Char} (halt : Halt text) : Error :=
  ⟨halt.cause, 1 + countNewlines halt.before⟩

/-! ## Scanning -/

variable {raw rest : List Char}

/-- The line breaks of two texts add up. -/
theorem countNewlines_append (front back : List Char) :
    countNewlines (front ++ back) = countNewlines front + countNewlines back :=
  List.count_append

/-- What a piece on a line puts in front of the tokens after it. -/
def Piece.before (line : Nat) (tokens : List Token) : Piece → List Token
  | .gap => tokens
  | .token kind lexeme => ⟨kind, String.ofList lexeme, line⟩ :: tokens

/-- Scanning takes off a piece at the front of a text, and goes on with what follows it. -/
theorem scan_piece {piece : Piece} (forms : Forms piece raw rest) (line : Nat) :
    scan line (raw ++ rest) =
      (scan (line + countNewlines raw) rest).map (piece.before line) := by
  obtain ⟨first, more, rfl, cuts⟩ := forms.exists_cut_eq
  rw [List.cons_append, scan]
  split
  · rename_i fails
    rw [cuts] at fails
    cases fails
  · rename_i found
    rw [cuts] at found
    cases found
    cases scan (line + countNewlines (first :: more)) rest with
    | ok tokens => cases piece <;> rfl
    | error error => rfl

/-- A gap is skipped when a text is scanned. -/
theorem scan_gap (forms : Forms .gap raw rest) (line : Nat) :
    scan line (raw ++ rest) = scan (line + countNewlines raw) rest :=
  (scan_piece forms line).trans (congrFun Except.map_id _)

/-- A token is the first one of what is scanned. -/
theorem scan_token {kind : Kind} {lexeme : List Char} (forms : Forms (.token kind lexeme) raw rest)
    (line : Nat) :
    scan line (raw ++ rest) = (scan (line + countNewlines raw) rest).map
      (⟨kind, String.ofList lexeme, line⟩ :: ·) :=
  scan_piece forms line

/-- Where no piece can be cut, scanning fails on the line. -/
theorem scan_stuck {cause : Cause} (stuck : Stuck rest cause) (line : Nat) :
    scan line rest = .error ⟨cause, line⟩ := by
  obtain ⟨first, more, rfl⟩ : ∃ first more, rest = first :: more := by
    cases stuck <;> exact ⟨_, _, rfl⟩
  have fails := cut_eq_error_iff.mpr stuck
  rw [scan]
  split
  · rename_i same
    rw [fails] at same
    cases same
    rfl
  · rename_i found
    rw [fails] at found
    cases found

/-- A gap is skipped. -/
theorem scan_of_gap {gap : List Char} (isGap : Gap gap rest) (line : Nat) :
    scan line (gap ++ rest) = scan (line + countNewlines gap) rest := by
  induction isGap generalizing line with
  | nil => rfl
  | cons fits forms later ih =>
    subst fits
    rw [List.append_assoc, scan_gap forms, ih, countNewlines_append, Nat.add_assoc]

/-- The tokens of a text that splits. -/
theorem scan_of_splits {slices : List Slice} {last text : List Char}
    (splits : Splits slices last text) (before : List Char) :
    scan (1 + countNewlines before) text = .ok (tokensAfter before slices last) := by
  induction splits generalizing before with
  | @last gap isGap =>
    have skipped := scan_of_gap isGap (1 + countNewlines before)
    rw [List.append_nil] at skipped
    rw [skipped, scan, tokensAfter, countNewlines_append]
    simp [Int.add_assoc]
  | @slice slice slices last rest isGap forms later ih =>
    have place : 1 + countNewlines before + countNewlines slice.gap =
        1 + countNewlines (before ++ slice.gap) := by
      rw [countNewlines_append, Nat.add_assoc]
    have following := ih (before ++ slice.gap ++ slice.raw)
    rw [countNewlines_append, ← Nat.add_assoc] at following
    rw [scan_of_gap isGap, place, scan_token forms, following]
    rfl

/-- The error of a text whose pieces end at a place where none can follow. -/
theorem scan_of_pieces {sort : Piece → Prop} {before : List Char} {cause : Cause}
    (pieces : Pieces sort before rest) (stuck : Stuck rest cause) (line : Nat) :
    scan line (before ++ rest) = .error ⟨cause, line + countNewlines before⟩ := by
  induction pieces generalizing line with
  | nil => exact scan_stuck stuck line
  | @cons piece raw more rest fits forms later ih =>
    have following := ih stuck (line + countNewlines raw)
    rw [List.append_assoc]
    cases piece with
    | gap =>
      rw [scan_gap forms, following, countNewlines_append]
      simp [Int.add_assoc]
    | token kind lexeme =>
      rw [scan_token forms, following, countNewlines_append]
      simp [Int.add_assoc, Except.map]

/-! ## Every text splits or has such a place -/

/-- A gap in front of a text that splits is part of its first gap. -/
theorem Splits.exists_gap_append {slices : List Slice} {last text : List Char}
    (forms : Forms .gap raw text) (splits : Splits slices last text) :
    ∃ slices last, Splits slices last (raw ++ text) := by
  cases splits with
  | last isGap =>
    rw [← List.append_nil last] at forms
    exact ⟨[], raw ++ last, .last (.cons rfl forms isGap)⟩
  | @slice slice slices last rest isGap token later =>
    have wider : Splits ({ slice with gap := raw ++ slice.gap } :: slices) last
        (raw ++ slice.gap ++ (slice.raw ++ rest)) :=
      @Splits.slice { slice with gap := raw ++ slice.gap } slices last rest
        (.cons rfl forms isGap) token later
    rw [List.append_assoc] at wider
    exact ⟨_, last, wider⟩

/-- A text is split into slices, or there is a place where no piece can be cut. -/
theorem exists_split_or_halt (text : List Char) :
    (∃ slices last, Splits slices last text) ∨ ∃ before rest cause,
      before ++ rest = text ∧ Pieces (fun _ => True) before rest ∧ Stuck rest cause := by
  induction length : text.length using Nat.strongRecOn generalizing text with
  | ind length_text ih =>
    cases text with
    | nil => exact Or.inl ⟨[], [], .last .nil⟩
    | cons first rest =>
      -- What is cut off is joined to what becomes of the shorter rest.
      obtain ⟨found, cuts, forms⟩ | ⟨cause, -, stuck⟩ := cut_decides first rest
      · have whole := append_cut cuts
        have shorter := length_rest_lt cuts
        rw [length] at shorter
        obtain ⟨slices, last, splits⟩ | ⟨before, after, cause, parts, pieces, stuck⟩ :=
          ih _ shorter found.rest rfl
        · cases piece : found.piece with
          | gap =>
            rw [piece] at forms
            obtain ⟨slices, last, splits⟩ := splits.exists_gap_append forms
            exact Or.inl ⟨slices, last, whole ▸ splits⟩
          | token kind lexeme =>
            rw [piece] at forms
            exact Or.inl ⟨_, last, whole ▸ Splits.token forms splits⟩
        · rw [← parts] at forms
          refine Or.inr ⟨found.raw ++ before, after, cause, ?_, .cons trivial forms pieces, stuck⟩
          rw [List.append_assoc, parts, whole]
      · exact Or.inr ⟨[], first :: rest, cause, rfl, .nil, stuck⟩

/-! ## The split is unique -/

/-- A gap ends where no other gap begins. -/
theorem Gap.unique {gap other after following : List Char} (isGap : Gap gap after)
    (otherGap : Gap other following) (same : gap ++ after = other ++ following)
    (ends : ∀ raw rest, Forms .gap raw rest → raw ++ rest ≠ after)
    (otherEnds : ∀ raw rest, Forms .gap raw rest → raw ++ rest ≠ following) :
    gap = other ∧ after = following := by
  induction isGap generalizing other with
  | nil =>
    cases otherGap with
    | nil => exact ⟨rfl, same⟩
    | cons fits forms later =>
      subst fits
      rw [List.nil_append, List.append_assoc] at same
      exact absurd same.symm (ends _ _ forms)
  | cons fits forms later ih =>
    subst fits
    cases otherGap with
    | nil =>
      rw [List.nil_append, List.append_assoc] at same
      exact absurd same (otherEnds _ _ forms)
    | cons otherFits otherForms otherLater =>
      subst otherFits
      rw [List.append_assoc, List.append_assoc] at same
      obtain ⟨-, rfl, rest_eq⟩ := forms.unique otherForms same
      obtain ⟨rfl, rfl⟩ := ih otherLater rest_eq ends
      exact ⟨rfl, rfl⟩

/-- The end of a text is no gap. -/
theorem Forms.append_ne_nil {piece : Piece} (forms : Forms piece raw rest) : raw ++ rest ≠ [] := by
  obtain ⟨first, more, rfl, -⟩ := forms.exists_cut_eq
  exact List.cons_ne_nil _ _

/-- A token is no gap. -/
theorem Forms.append_ne_token {kind : Kind} {lexeme : List Char} {tokenRaw tokenRest : List Char}
    (forms : Forms .gap raw rest) (token : Forms (.token kind lexeme) tokenRaw tokenRest) :
    raw ++ rest ≠ tokenRaw ++ tokenRest := by
  intro same
  cases (forms.unique token same).1

/-- A text is split in one way. -/
theorem Splits.unique {slices others : List Slice} {last otherLast text : List Char}
    (splits : Splits slices last text) (other : Splits others otherLast text) :
    slices = others ∧ last = otherLast := by
  -- Slice by slice: gaps and tokens are pieces, and a text has one piece at its front.
  induction splits generalizing others with
  | @last gap isGap =>
    generalize whole : gap = text at other
    cases other with
    | last => exact ⟨rfl, rfl⟩
    | slice otherGap token later =>
      rw [← List.append_nil gap] at whole
      obtain ⟨-, empty⟩ := isGap.unique otherGap whole (fun _ _ forms => forms.append_ne_nil)
        fun _ _ forms => forms.append_ne_token token
      exact absurd empty.symm token.append_ne_nil
  | @slice slice slices last rest isGap token later ih =>
    generalize whole : slice.gap ++ (slice.raw ++ rest) = text at other
    cases other with
    | last otherGap =>
      rw [← List.append_nil otherLast] at whole
      obtain ⟨-, empty⟩ := isGap.unique otherGap whole
        (fun _ _ forms => forms.append_ne_token token) fun _ _ forms => forms.append_ne_nil
      exact absurd empty token.append_ne_nil
    | @slice otherSlice _ _ otherRest otherGap otherToken otherLater =>
      obtain ⟨gap_eq, following⟩ := isGap.unique otherGap whole
        (fun _ _ forms => forms.append_ne_token token)
        fun _ _ forms => forms.append_ne_token otherToken
      obtain ⟨piece_eq, raw_eq, rfl⟩ := token.unique otherToken following
      obtain ⟨rfl, rfl⟩ := ih otherLater
      obtain ⟨gap, kind, lexeme, raw⟩ := slice
      obtain ⟨gap', kind', lexeme', raw'⟩ := otherSlice
      obtain ⟨rfl, rfl⟩ := Piece.token.inj piece_eq
      obtain rfl : gap = gap' := gap_eq
      obtain rfl : raw = raw' := raw_eq
      exact ⟨rfl, rfl⟩

/-- A text that cannot be cut is an error of the grammar. -/
theorem Stuck.kind_eq {cause : Cause} (stuck : Stuck rest cause) : cause.kind = .grammar := by
  cases stuck with
  | stray | openText | openComment => rfl

/-- Tokenizing decides the lexical grammar.  It has tokens for exactly the texts that split, and
they are the tokens of the split, of which there is only one.  It fails for exactly the texts with a
place where no piece can follow, with a syntax error on the line of that place. -/
theorem tokenize_decides (source : String) :
    (∀ tokens, tokenize source = .ok tokens ↔
      ∃ split : Split source.toList, tokens = split.tokens) ∧
    (∀ split other : Split source.toList, split = other) ∧
    ∀ error, tokenize source = .error error ↔
      ∃ halt : Halt source.toList, error = halt.error ∧ error.cause.kind.name = "SyntaxError" := by
  have scanned : ∀ split : Split source.toList, tokenize source = .ok split.tokens :=
    fun split => scan_of_splits split.splits []
  have halted : ∀ halt : Halt source.toList, tokenize source = .error halt.error := by
    intro halt
    have scanned := scan_of_pieces halt.pieces halt.stuck 1
    rw [halt.whole] at scanned
    exact scanned
  -- A text is split or has a place to stop at, and never both: each settles what the tokenizer
  -- gives.
  have decided : (∃ split : Split source.toList, tokenize source = .ok split.tokens) ∨
      ∃ halt : Halt source.toList, tokenize source = .error halt.error := by
    obtain ⟨slices, last, splits⟩ | ⟨before, rest, cause, whole, pieces, stuck⟩ :=
      exists_split_or_halt source.toList
    · exact Or.inl ⟨⟨slices, last, splits⟩, scanned _⟩
    · exact Or.inr ⟨⟨before, rest, cause, whole, pieces, stuck⟩, halted _⟩
  refine ⟨?_, ?_, ?_⟩
  · intro tokens
    constructor
    · intro success
      obtain ⟨split, same⟩ | ⟨halt, failure⟩ := decided
      · rw [same] at success
        exact ⟨split, (Except.ok.inj success).symm⟩
      · rw [failure] at success
        cases success
    · rintro ⟨split, rfl⟩
      exact scanned split
  · rintro ⟨slices, last, splits⟩ ⟨others, otherLast, otherSplits⟩
    obtain ⟨rfl, rfl⟩ := splits.unique otherSplits
    rfl
  · intro error
    constructor
    · intro failure
      obtain ⟨split, success⟩ | ⟨halt, same⟩ := decided
      · rw [success] at failure
        cases failure
      · rw [same] at failure
        obtain rfl := Except.error.inj failure
        refine ⟨halt, rfl, ?_⟩
        show halt.cause.kind.name = _
        rw [halt.stuck.kind_eq]
        rfl
    · rintro ⟨halt, rfl, -⟩
      exact halted halt

-- A point makes a float, the longer operator goes first, the comment is not closed by its own
-- opening, and the newline inside the literal counts for what follows.
example : tokenize "7.<<=/*/*/'a\\\n'" = .ok [⟨.float, "7.", 1⟩, ⟨.operator, "<<", 1⟩,
    ⟨.operator, "=", 1⟩, ⟨.string, "a\n", 1⟩, ⟨.endOfInput, "", 2⟩] := by
  cbv

end Scriptlet.Token
