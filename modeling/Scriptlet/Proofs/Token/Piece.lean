import Mathlib.Data.List.TakeWhile
import Scriptlet.Proofs.Text.Span
import Scriptlet.Token.Lexer

/-! # The pieces of a source text

The lexical grammar, apart from how texts are cut.  A piece is described by its characters and by
the text that follows it, since words, numbers and operators are as long as they can be.

Main definitions:

* `Spells`: the characters after an opening quote spell a text.
* `Forms`: the characters at the front of a text form a piece.
* `Stuck`: no piece can be at the front of a text, for a cause.

Main statements: `cut_eq_ok_iff` and `cut_eq_error_iff`, by which cutting decides between the two,
and `Forms.unique`. -/

namespace Scriptlet.Token

open Text

/-! ## The lexical grammar -/

/-- Characters that end with a closing quote, the first one that is not escaped, spell a text. -/
inductive Spells (mark : Char) : List Char → List Char → Prop
  | closing : Spells mark [mark] []
  | escaped {character : Char} {raw text : List Char} (more : Spells mark raw text) :
      Spells mark ('\\' :: character :: raw) (unescape character :: text)
  | plain {character : Char} {raw text : List Char} (inside : character ≠ mark)
      (unescaped : character ≠ '\\') (more : Spells mark raw text) :
      Spells mark (character :: raw) (character :: text)

/-- Characters, followed by the rest of a text, form a piece of it. -/
inductive Forms : Piece → List Char → List Char → Prop
  | blank {character : Char} {rest : List Char} (blank : isBlank character = true) :
      Forms .gap [character] rest
  /-- A line comment goes up to the end of its line. -/
  | lineComment {body rest : List Char} (inside : '\n' ∉ body)
      (ends : ∀ next ∈ rest.head?, next = '\n') : Forms .gap ('/' :: '/' :: body) rest
  /-- A block comment goes up to the first closing mark, which does not overlap the opening one. -/
  | blockComment {body rest : List Char} (inside : ¬['*', '/'] <:+: body ++ ['*']) :
      Forms .gap ('/' :: '*' :: (body ++ ['*', '/'])) rest
  /-- A word is as long as it can be; it is a keyword or an identifier. -/
  | word {first : Char} {more rest : List Char} (start : isNameStart first = true)
      (parts : ∀ character ∈ more, isNamePart character = true)
      (longest : ∀ next ∈ rest.head?, isNamePart next = false) :
      Forms (.token (wordKind (first :: more)) (first :: more)) (first :: more) rest
  /-- A number without a point is as long as it can be, and no point follows it. -/
  | integer {digits rest : List Char} (some : digits ≠ [])
      (all : ∀ digit ∈ digits, digit.isDigit = true)
      (longest : ∀ next ∈ rest.head?, next.isDigit = false ∧ next ≠ '.') :
      Forms (.token .integer digits) digits rest
  /-- A number with a point is as long as it can be; no digit need follow the point. -/
  | float {whole fraction rest : List Char} (some : whole ≠ [])
      (all : ∀ digit ∈ whole, digit.isDigit = true)
      (fractional : ∀ digit ∈ fraction, digit.isDigit = true)
      (longest : ∀ next ∈ rest.head?, next.isDigit = false) :
      Forms (.token .float (whole ++ '.' :: fraction)) (whole ++ '.' :: fraction) rest
  /-- A literal in quotes of either form; its lexeme is what it spells. -/
  | literal {mark : Char} {raw text rest : List Char} (quote : mark = '"' ∨ mark = '\x27')
      (spells : Spells mark raw text) : Forms (.token .string text) (mark :: raw) rest
  | pair {first second : Char} {rest : List Char} (known : (first, second) ∈ pairOperators) :
      Forms (.token .operator [first, second]) [first, second] rest
  /-- An operator of one character is not the first character of a longer one or of a comment. -/
  | single {first : Char} {rest : List Char} (known : first ∈ singleOperators)
      (longest : ∀ second ∈ rest.head?, (first, second) ∉ pairOperators)
      (noComment : first = '/' → ∀ second ∈ rest.head?, second ≠ '/' ∧ second ≠ '*') :
      Forms (.token .operator [first]) [first] rest
  | punctuation {mark : Char} {rest : List Char} (known : mark ∈ punctuationMarks) :
      Forms (.token .punctuation [mark]) [mark] rest

/-- No piece can be at the front of a text: its first character starts no piece at all, or opens a
literal or a block comment that is not closed. -/
inductive Stuck : List Char → Cause → Prop
  | stray {first : Char} {rest : List Char}
      (none : ∀ piece raw following, ¬Forms piece (first :: raw) following) :
      Stuck (first :: rest) (.strayCharacter first)
  | openText {mark : Char} {rest : List Char} (quote : mark = '"' ∨ mark = '\x27')
      (unclosed : ∀ raw text following, Spells mark raw text → raw ++ following ≠ rest) :
      Stuck (mark :: rest) .unclosedText
  | openComment {rest : List Char} (unclosed : ¬['*', '/'] <:+: rest) :
      Stuck ('/' :: '*' :: rest) .unclosedComment

/-! ## Classes of characters -/

/-- Digits stand together among the characters. -/
theorem isDigit_iff {character : Char} :
    character.isDigit = true ↔ 48 ≤ character.toNat ∧ character.toNat ≤ 57 := by
  simp only [Char.isDigit, Char.toNat, Bool.and_eq_true, decide_eq_true_eq, ge_iff_le,
    UInt32.le_iff_toNat_le]
  rfl

/-- Letters stand together among the characters, small ones and capitals apart. -/
theorem isNameStart_iff {character : Char} : isNameStart character = true ↔
    (65 ≤ character.toNat ∧ character.toNat ≤ 90) ∨
      (97 ≤ character.toNat ∧ character.toNat ≤ 122) ∨ character = '_' := by
  have upper : character.isUpper = true ↔ 65 ≤ character.toNat ∧ character.toNat ≤ 90 :=
    decide_eq_true_iff
  have lower : character.isLower = true ↔ 97 ≤ character.toNat ∧ character.toNat ≤ 122 := by
    show (decide ('a'.val ≤ character.val) && decide (character.val ≤ 'z'.val)) = true ↔ _
    rw [Bool.and_eq_true, decide_eq_true_eq, decide_eq_true_eq]
    rfl
  show (character.isUpper || character.isLower || decide (character = '_')) = true ↔ _
  rw [Bool.or_eq_true, Bool.or_eq_true, upper, lower, decide_eq_true_eq, or_assoc]

/-- Blanks come before or after all characters that words and signs are written with. -/
theorem bounds_of_isBlank {character : Char} (blank : isBlank character = true) :
    character.toNat ≤ 32 ∨ 133 ≤ character.toNat := by
  simp only [isBlank, blanks, List.any_cons, List.any_nil, Bool.or_false, Bool.or_eq_true,
    Bool.and_eq_true, decide_eq_true_eq] at blank
  omega

/-- A name or a number starts with a character that is neither blank nor a slash. -/
theorem not_gap_of_isNamePart {character : Char} (part : isNamePart character = true) :
    isBlank character = false ∧ character ≠ '/' := by
  have bounds : 48 ≤ character.toNat ∧ character.toNat ≤ 122 := by
    rw [isNamePart, Bool.or_eq_true, isNameStart_iff, isDigit_iff] at part
    obtain (start | start | rfl) | digit := part
    · omega
    · omega
    · decide
    · omega
  refine ⟨?_, ?_⟩
  · cases blank : isBlank character with
    | false => rfl
    | true =>
      have := bounds_of_isBlank blank
      omega
  · rintro rfl
    exact absurd bounds (by decide)

/-- No name starts with a digit. -/
theorem not_isNameStart_of_isDigit {character : Char} (digit : character.isDigit = true) :
    isNameStart character = false := by
  cases start : isNameStart character with
  | false => rfl
  | true =>
    rw [isDigit_iff] at digit
    obtain upper | lower | rfl := isNameStart_iff.mp start
    · omega
    · omega
    · exact absurd digit (by decide)

/-! ## Comments, literals and numbers -/

/-- A comment is closed at its start or later. -/
theorem closing_infix_cons_iff {character : Char} {text : List Char} :
    ['*', '/'] <:+: character :: text ↔
      (character = '*' ∧ text.head? = some '/') ∨ ['*', '/'] <:+: text := by
  rw [List.infix_cons_iff]
  refine or_congr_left ?_
  cases text with
  | nil => simp
  | cons next text => simp [eq_comm]

/-- A comment is cut at the first place where it is closed. -/
theorem cutComment_append {body : List Char} (inside : ¬['*', '/'] <:+: body ++ ['*'])
    (rest : List Char) :
    cutComment (body ++ '*' :: '/' :: rest) = some (body ++ ['*', '/'], rest) := by
  induction body with
  | nil => rfl
  | cons character body ih =>
    rw [List.cons_append, closing_infix_cons_iff, not_or] at inside
    have here : ∀ following, character = '*' →
        body ++ '*' :: '/' :: rest = '/' :: following → False := by
      intro following star slash
      refine inside.1 ⟨star, ?_⟩
      cases body with
      | nil => cases slash
      | cons next body => simpa using (List.cons.inj slash).1
    rw [List.cons_append, cutComment.eq_2 _ _ here, ih inside.2]
    rfl

/-- What is cut as a comment is closed at its end and nowhere before. -/
theorem exists_of_cutComment {text raw rest : List Char}
    (found : cutComment text = some (raw, rest)) :
    ∃ body, raw = body ++ ['*', '/'] ∧ ¬['*', '/'] <:+: body ++ ['*'] := by
  fun_induction cutComment text generalizing raw with
  | case1 text =>
    cases found
    exact ⟨[], rfl, by decide⟩
  | case2 character text here ih =>
    simp only [Option.map_eq_some_iff, Prod.exists, Prod.mk.injEq] at found
    obtain ⟨inner, _, found, rfl, rfl⟩ := found
    obtain ⟨body, rfl, inside⟩ := ih found
    refine ⟨character :: body, rfl, ?_⟩
    rw [List.cons_append, closing_infix_cons_iff, not_or]
    refine ⟨?_, inside⟩
    rintro ⟨rfl, slash⟩
    have whole := append_cutComment found
    cases body with
    | nil => cases slash
    | cons next body =>
      obtain rfl : next = '/' := by simpa using slash
      exact here _ rfl whole.symm
  | case3 => cases found

/-- No comment is cut from a text where none is closed. -/
theorem cutComment_eq_none_iff {text : List Char} :
    cutComment text = none ↔ ¬['*', '/'] <:+: text := by
  constructor
  · intro unclosed
    fun_induction cutComment text with
    | case1 => cases unclosed
    | case2 character text here ih =>
      rw [closing_infix_cons_iff, not_or]
      refine ⟨?_, ih (Option.map_eq_none_iff.mp unclosed)⟩
      rintro ⟨rfl, slash⟩
      obtain ⟨following, rfl⟩ := List.head?_eq_some_iff.mp slash
      exact here following rfl rfl
    | case3 => decide
  · intro unclosed
    cases found : cutComment text with
    | none => rfl
    | some pair =>
      obtain ⟨raw, rest⟩ := pair
      obtain ⟨body, rfl, -⟩ := exists_of_cutComment found
      refine absurd ⟨body, rest, ?_⟩ unclosed
      rw [← append_cutComment found]

/-- Characters that spell a text are cut as that text. -/
theorem Spells.cutLiteral_append {mark : Char} {raw text : List Char}
    (spells : Spells mark raw text) (quote : mark ≠ '\\') (rest : List Char) :
    cutLiteral mark (raw ++ rest) = some (text, raw, rest) := by
  induction spells with
  | closing =>
    rw [List.cons_append, cutLiteral.eq_2, if_pos rfl]
    · rfl
    · exact fun _ _ escape => absurd escape quote
  | escaped more ih =>
    rw [List.cons_append, List.cons_append, cutLiteral, ih]
    rfl
  | plain inside unescaped more ih =>
    rw [List.cons_append, cutLiteral.eq_2, if_neg inside, ih]
    · rfl
    · exact fun _ _ escape => absurd escape unescaped

/-- What is cut as a text is spelled by its characters. -/
theorem spells_of_cutLiteral {mark : Char} {following raw text rest : List Char}
    (found : cutLiteral mark following = some (text, raw, rest)) : Spells mark raw text := by
  fun_induction cutLiteral mark following generalizing text raw with
  | case1 character following ih =>
    simp only [Option.map_eq_some_iff, Prod.exists, Prod.mk.injEq] at found
    obtain ⟨_, _, _, found, rfl, rfl, rfl⟩ := found
    exact .escaped (ih found)
  | case2 following =>
    cases found
    exact .closing
  | case3 character following here inside ih =>
    simp only [Option.map_eq_some_iff, Prod.exists, Prod.mk.injEq] at found
    obtain ⟨_, _, _, found, rfl, rfl, rfl⟩ := found
    refine .plain inside ?_ (ih found)
    rintro rfl
    cases following with
    | nil => cases found
    | cons next following => exact here next following rfl rfl
  | case4 => cases found

/-- Digits without a point after them are an integer. -/
theorem cutNumber_integer {digits rest : List Char} (all : ∀ digit ∈ digits, digit.isDigit = true)
    (longest : ∀ next ∈ rest.head?, next.isDigit = false ∧ next ≠ '.') :
    cutNumber (digits ++ rest) = (.integer, digits, rest) := by
  obtain ⟨taken, dropped⟩ := takeWhile_append_longest all fun next mem => (longest next mem).1
  rw [cutNumber, taken, dropped]
  split
  · exact absurd rfl (longest '.' rfl).2
  · rfl

/-- Digits around a point are a float, and there may be none behind it. -/
theorem cutNumber_float {whole fraction rest : List Char}
    (all : ∀ digit ∈ whole, digit.isDigit = true)
    (fractional : ∀ digit ∈ fraction, digit.isDigit = true)
    (longest : ∀ next ∈ rest.head?, next.isDigit = false) :
    cutNumber (whole ++ '.' :: fraction ++ rest) = (.float, whole ++ '.' :: fraction, rest) := by
  have point : ∀ next ∈ ('.' :: (fraction ++ rest)).head?, next.isDigit = false := by
    rintro next ⟨⟩
    rfl
  obtain ⟨taken, dropped⟩ := takeWhile_append_longest all point
  obtain ⟨takenLater, droppedLater⟩ := takeWhile_append_longest fractional longest
  rw [List.append_assoc, List.cons_append, cutNumber, taken, dropped]
  show (_, whole ++ '.' :: (fraction ++ rest).takeWhile _, (fraction ++ rest).dropWhile _) = _
  rw [takenLater, droppedLater]

/-! ## Cutting -/

variable {first : Char} {rest : List Char}

/-- A comment after two slashes goes up to the end of the line. -/
theorem cut_slashes (body : List Char) : cut '/' ('/' :: body) =
    .ok ⟨.gap, '/' :: '/' :: body.takeWhile (· ≠ '\n'), body.dropWhile (· ≠ '\n')⟩ := rfl

/-- A comment that is opened goes up to where it is closed. -/
theorem cut_opening (body : List Char) : cut '/' ('*' :: body) =
    match cutComment body with
    | some (raw, rest) => .ok ⟨.gap, '/' :: '*' :: raw, rest⟩
    | none => .error .unclosedComment := rfl

/-- A letter starts the longest word that it can. -/
theorem cut_of_isNameStart (start : isNameStart first = true) (rest : List Char) :
    cut first rest = .ok ⟨.token (wordKind (first :: rest.takeWhile isNamePart))
      (first :: rest.takeWhile isNamePart), first :: rest.takeWhile isNamePart,
        rest.dropWhile isNamePart⟩ := by
  have part : isNamePart first = true := by rw [isNamePart, start, Bool.true_or]
  obtain ⟨notBlank, notSlash⟩ := not_gap_of_isNamePart part
  simp [cut, notBlank, notSlash, start]

/-- A digit starts the longest number that it can. -/
theorem cut_of_isDigit (digit : first.isDigit = true) (rest : List Char) :
    cut first rest = .ok ⟨.token (cutNumber rest).1 (first :: (cutNumber rest).2.1),
      first :: (cutNumber rest).2.1, (cutNumber rest).2.2⟩ := by
  have part : isNamePart first = true := by rw [isNamePart, digit, Bool.or_true]
  obtain ⟨notBlank, notSlash⟩ := not_gap_of_isNamePart part
  simp [cut, notBlank, notSlash, not_isNameStart_of_isDigit digit, digit]

/-- A quote does not escape. -/
theorem unescaped_of_quote (quote : first = '"' ∨ first = '\x27') : first ≠ '\\' := by
  obtain rfl | rfl := quote
  · decide
  · decide

/-- A quote starts a text up to the same quote. -/
theorem cut_of_quote (quote : first = '"' ∨ first = '\x27') (rest : List Char) :
    cut first rest = match cutLiteral first rest with
      | some (text, raw, rest) => .ok ⟨.token .string text, first :: raw, rest⟩
      | none => .error .unclosedText := by
  obtain rfl | rfl := quote
  · rfl
  · rfl

/-- A character that starts no white space, word, number or literal: it starts a comment, an
operator or a punctuation mark, if anything. -/
structure IsSign (first : Char) : Prop where
  notBlank : isBlank first = false
  notName : isNameStart first = false
  notDigit : first.isDigit = false
  notQuote : ¬(first = '"' ∨ first = '\x27')

/-- Signs of one character are signs. -/
theorem isSign_of_mem (known : first ∈ singleOperators ++ punctuationMarks) : IsSign first := by
  have all : (singleOperators ++ punctuationMarks).all fun sign => !isBlank sign &&
      !isNameStart sign && !sign.isDigit && sign ≠ '"' && sign ≠ '\x27' := by decide
  have plain := List.all_eq_true.mp all first known
  simp only [Bool.and_eq_true, Bool.not_eq_true', decide_eq_true_eq] at plain
  obtain ⟨⟨⟨⟨notBlank, notName⟩, notDigit⟩, notDouble⟩, notSingle⟩ := plain
  exact ⟨notBlank, notName, notDigit, not_or.mpr ⟨notDouble, notSingle⟩⟩

/-- A sign that starts no comment is cut as a sign. -/
theorem cut_of_isSign (sign : IsSign first)
    (noComment : first = '/' → ∀ second ∈ rest.head?, second ≠ '/' ∧ second ≠ '*') :
    cut first rest = cutSign first rest := by
  have notLine : ¬(first = '/' ∧ rest.head? = some '/') := by
    rintro ⟨slash, second⟩
    exact (noComment slash '/' second).1 rfl
  have notBlock : ¬(first = '/' ∧ rest.head? = some '*') := by
    rintro ⟨slash, second⟩
    exact (noComment slash '*' second).2 rfl
  rw [cut, if_neg (by simp [sign.notBlank]), if_neg (by simpa using notLine),
    if_neg (by simpa using notBlock), if_neg (by simp [sign.notName]),
    if_neg (by simp [sign.notDigit]), if_neg (by simpa using sign.notQuote)]

/-- Two characters that are an operator are cut as one. -/
theorem cutSign_pair {second : Char} (known : (first, second) ∈ pairOperators) :
    cutSign first (second :: rest) =
      .ok ⟨.token .operator [first, second], [first, second], rest⟩ :=
  if_pos (List.contains_iff_mem.mpr known)

/-- A sign is not the first character of an operator of two. -/
theorem cutSign_unpaired (unpaired : ∀ second ∈ rest.head?, (first, second) ∉ pairOperators) :
    cutSign first rest =
      if first ∈ singleOperators then .ok ⟨.token .operator [first], [first], rest⟩
      else if first ∈ punctuationMarks then .ok ⟨.token .punctuation [first], [first], rest⟩
      else .error (.strayCharacter first) := by
  cases rest with
  | nil => simp [cutSign]
  | cons second rest => simp [cutSign, unpaired second rfl]

/-- A punctuation mark is no operator and starts none. -/
theorem not_operator_of_mem (known : first ∈ punctuationMarks) :
    first ∉ singleOperators ∧ ∀ second, (first, second) ∉ pairOperators := by
  have all : punctuationMarks.all fun mark => !singleOperators.contains mark &&
      pairOperators.all (·.1 ≠ mark) := by decide
  have plain := List.all_eq_true.mp all first known
  simp only [Bool.and_eq_true, Bool.not_eq_true', List.contains_eq_mem, decide_eq_false_iff_not,
    List.all_eq_true, decide_eq_true_eq] at plain
  exact ⟨plain.1, fun second pair => plain.2 _ pair rfl⟩

/-- A piece is cut off a text as its characters and what follows them. -/
theorem Forms.exists_cut_eq {piece : Piece} {raw rest : List Char} (forms : Forms piece raw rest) :
    ∃ first more, raw = first :: more ∧ cut first (more ++ rest) = .ok ⟨piece, raw, rest⟩ := by
  -- What makes a piece as long as it can be is what stops the cut at its end.
  cases forms with
  | @blank character _ blank => exact ⟨character, [], rfl, if_pos blank⟩
  | @lineComment body _ inside ends =>
    refine ⟨'/', '/' :: body, rfl, ?_⟩
    have all : ∀ character ∈ body, decide (character ≠ '\n') = true := by
      intro character mem
      exact decide_eq_true fun newline => inside (newline ▸ mem)
    obtain ⟨taken, dropped⟩ := takeWhile_append_longest all fun next mem => by simp [ends next mem]
    rw [List.cons_append, cut_slashes, taken, dropped]
  | @blockComment body _ inside =>
    refine ⟨'/', '*' :: (body ++ ['*', '/']), rfl, ?_⟩
    have found : cutComment (body ++ (['*', '/'] ++ rest)) = some (body ++ ['*', '/'], rest) :=
      cutComment_append inside rest
    rw [List.cons_append, List.append_assoc, cut_opening, found]
  | @word first more _ start parts longest =>
    obtain ⟨taken, dropped⟩ := takeWhile_append_longest parts longest
    refine ⟨first, more, rfl, ?_⟩
    rw [cut_of_isNameStart start, taken, dropped]
  | @integer digits _ some all longest =>
    obtain ⟨first, more, rfl⟩ := List.exists_cons_of_ne_nil some
    obtain ⟨digit, others⟩ := List.forall_mem_cons.mp all
    refine ⟨first, more, rfl, ?_⟩
    rw [cut_of_isDigit digit, cutNumber_integer others longest]
  | @float whole fraction _ some all fractional longest =>
    obtain ⟨first, more, rfl⟩ := List.exists_cons_of_ne_nil some
    obtain ⟨digit, others⟩ := List.forall_mem_cons.mp all
    refine ⟨first, more ++ '.' :: fraction, rfl, ?_⟩
    rw [cut_of_isDigit digit, cutNumber_float others fractional longest]
    rfl
  | @literal mark raw text _ quote spells =>
    refine ⟨mark, raw, rfl, ?_⟩
    rw [cut_of_quote quote, spells.cutLiteral_append (unescaped_of_quote quote)]
  | @pair first second _ known =>
    have signs : ∀ pair ∈ pairOperators, pair.1 ∈ singleOperators ∧
        (pair.1 = '/' → pair.2 ≠ '/' ∧ pair.2 ≠ '*') := by decide
    obtain ⟨sign, noComment⟩ := signs _ known
    refine ⟨first, [second], rfl, ?_⟩
    rw [List.singleton_append, cut_of_isSign (isSign_of_mem (List.mem_append_left _ sign)),
      cutSign_pair known]
    rintro slash _ ⟨⟩
    exact noComment slash
  | @single first _ known longest noComment =>
    refine ⟨first, [], rfl, ?_⟩
    rw [List.nil_append, cut_of_isSign (isSign_of_mem (List.mem_append_left _ known)) noComment,
      cutSign_unpaired longest, if_pos known]
  | @punctuation mark _ known =>
    obtain ⟨notSingle, unpaired⟩ := not_operator_of_mem known
    have notSlash : mark ≠ '/' := by
      rintro rfl
      exact notSingle (by decide)
    refine ⟨mark, [], rfl, ?_⟩
    rw [List.nil_append, cut_of_isSign (isSign_of_mem (List.mem_append_right _ known))
      fun slash => absurd slash notSlash, cutSign_unpaired fun second _ => unpaired second,
      if_neg notSingle, if_pos known]

/-- A piece starts with a character that is no sign, or with a known one. -/
theorem Forms.mem_of_isSign {piece : Piece} {raw following : List Char}
    (forms : Forms piece (first :: raw) following) (sign : IsSign first) :
    first ∈ singleOperators ∨ first ∈ punctuationMarks := by
  generalize whole : first :: raw = text at forms
  -- A sign is neither blank nor a quote, and starts neither a word nor a number.
  cases forms with
  | blank blank =>
    cases whole
    exact absurd blank (by simp [sign.notBlank])
  | lineComment | blockComment =>
    cases whole
    exact Or.inl (by decide)
  | word start =>
    cases whole
    exact absurd start (by simp [sign.notName])
  | integer _ all =>
    have digit := all first (whole ▸ List.mem_cons_self ..)
    exact absurd digit (by simp [sign.notDigit])
  | @float digits fraction _ some all =>
    obtain ⟨digit, more, rfl⟩ := List.exists_cons_of_ne_nil some
    cases whole
    exact absurd (all first (List.mem_cons_self ..)) (by simp [sign.notDigit])
  | literal quote =>
    cases whole
    exact absurd quote sign.notQuote
  | @pair _ second _ known =>
    cases whole
    have singles : ∀ pair ∈ pairOperators, pair.1 ∈ singleOperators := by decide
    exact Or.inl (singles _ known)
  | single known =>
    cases whole
    exact Or.inl known
  | punctuation known =>
    cases whole
    exact Or.inr known

/-- A number is as long as it can be. -/
theorem forms_number (digit : first.isDigit = true) (rest : List Char) :
    Forms (.token (cutNumber rest).1 (first :: (cutNumber rest).2.1))
      (first :: (cutNumber rest).2.1) (cutNumber rest).2.2 := by
  have all : ∀ character ∈ first :: rest.takeWhile Char.isDigit, character.isDigit = true :=
    List.forall_mem_cons.mpr ⟨digit, fun _ => List.mem_takeWhile_imp⟩
  -- A point makes it a float, whether digits follow or not.
  unfold cutNumber
  split
  · exact .float (List.cons_ne_nil _ _) all (fun _ => List.mem_takeWhile_imp) head?_dropWhile
  · rename_i noPoint
    refine .integer (List.cons_ne_nil _ _) all fun next mem => ⟨head?_dropWhile next mem, ?_⟩
    rintro rfl
    obtain ⟨following, point⟩ := List.head?_eq_some_iff.mp mem
    exact noPoint following point

/-- An operator is as long as it can be; a character that is no known sign is a stray one. -/
theorem cutSign_decides (sign : IsSign first)
    (noComment : first = '/' → ∀ second ∈ rest.head?, second ≠ '/' ∧ second ≠ '*') :
    (∃ found, cutSign first rest = .ok found ∧ Forms found.piece found.raw found.rest) ∨
      ∃ cause, cutSign first rest = .error cause ∧ Stuck (first :: rest) cause := by
  -- Two signs that are an operator together come before the first by itself.
  by_cases paired : ∃ second ∈ rest.head?, (first, second) ∈ pairOperators
  · obtain ⟨second, head, known⟩ := paired
    obtain ⟨rest, rfl⟩ := List.head?_eq_some_iff.mp head
    exact Or.inl ⟨_, cutSign_pair known, .pair known⟩
  · have unpaired : ∀ second ∈ rest.head?, (first, second) ∉ pairOperators :=
      fun second head known => paired ⟨second, head, known⟩
    rw [cutSign_unpaired unpaired]
    split
    · rename_i known
      exact Or.inl ⟨_, rfl, .single known unpaired noComment⟩
    · rename_i notSingle
      split
      · rename_i known
        exact Or.inl ⟨_, rfl, .punctuation known⟩
      · rename_i notMark
        refine Or.inr ⟨_, rfl, .stray fun piece raw following forms => ?_⟩
        exact (forms.mem_of_isSign sign).elim notSingle notMark

/-- What is cut off a text is a piece of it; if nothing is, no piece can be at its front. -/
theorem cut_decides (first : Char) (rest : List Char) :
    (∃ found, cut first rest = .ok found ∧ Forms found.piece found.raw found.rest) ∨
      ∃ cause, cut first rest = .error cause ∧ Stuck (first :: rest) cause := by
  -- The cases are those of the cut, in its order, since a slash may start three kinds of pieces.
  by_cases blank : isBlank first = true
  · exact Or.inl ⟨_, if_pos blank, .blank blank⟩
  by_cases line : first = '/' ∧ rest.head? = some '/'
  · obtain ⟨rfl, head⟩ := line
    obtain ⟨body, rfl⟩ := List.head?_eq_some_iff.mp head
    refine Or.inl ⟨_, cut_slashes body, .lineComment ?_ ?_⟩
    · intro newline
      have other := List.mem_takeWhile_imp newline
      exact of_decide_eq_true other rfl
    · intro next mem
      exact Classical.not_not.mp (of_decide_eq_false (head?_dropWhile next mem))
  by_cases block : first = '/' ∧ rest.head? = some '*'
  · obtain ⟨rfl, head⟩ := block
    obtain ⟨body, rfl⟩ := List.head?_eq_some_iff.mp head
    rw [cut_opening]
    cases found : cutComment body with
    | none => exact Or.inr ⟨_, rfl, .openComment (cutComment_eq_none_iff.mp found)⟩
    | some pair =>
      obtain ⟨raw, rest⟩ := pair
      obtain ⟨inner, rfl, inside⟩ := exists_of_cutComment found
      exact Or.inl ⟨_, rfl, .blockComment inside⟩
  by_cases start : isNameStart first = true
  · exact Or.inl ⟨_, cut_of_isNameStart start rest,
      .word start (fun _ => List.mem_takeWhile_imp) head?_dropWhile⟩
  by_cases digit : first.isDigit = true
  · exact Or.inl ⟨_, cut_of_isDigit digit rest, forms_number digit rest⟩
  by_cases quote : first = '"' ∨ first = '\x27'
  · rw [cut_of_quote quote]
    cases found : cutLiteral first rest with
    | none =>
      refine Or.inr ⟨_, rfl, .openText quote ?_⟩
      rintro raw text following spells rfl
      rw [spells.cutLiteral_append (unescaped_of_quote quote)] at found
      cases found
    | some triple =>
      obtain ⟨text, raw, rest⟩ := triple
      exact Or.inl ⟨_, rfl, .literal quote (spells_of_cutLiteral found)⟩
  -- Whatever is left is a sign, known or not.
  have sign : IsSign first :=
    ⟨by simpa using blank, by simpa using start, by simpa using digit, quote⟩
  have noComment : first = '/' → ∀ second ∈ rest.head?, second ≠ '/' ∧ second ≠ '*' := by
    intro slash second head
    refine ⟨?_, ?_⟩
    · rintro rfl
      exact line ⟨slash, head⟩
    · rintro rfl
      exact block ⟨slash, head⟩
  rw [cut_of_isSign sign noComment]
  exact cutSign_decides sign noComment

/-- Cutting finds exactly the pieces. -/
theorem cut_eq_ok_iff {found : Cut} : cut first rest = .ok found ↔
    found.raw ++ found.rest = first :: rest ∧ Forms found.piece found.raw found.rest := by
  constructor
  · intro cuts
    refine ⟨append_cut cuts, ?_⟩
    obtain ⟨other, same, forms⟩ | ⟨cause, fails, -⟩ := cut_decides first rest
    · rw [cuts] at same
      cases same
      exact forms
    · rw [cuts] at fails
      cases fails
  · -- The other way round, a piece at the front is the one that is cut.
    rintro ⟨whole, forms⟩
    obtain ⟨start, more, raw_eq, cuts⟩ := forms.exists_cut_eq
    rw [raw_eq, List.cons_append] at whole
    obtain ⟨rfl, rfl⟩ := List.cons.inj whole
    exact cuts

/-- Cutting fails exactly if no piece can be at the front. -/
theorem cut_eq_error_iff {cause : Cause} :
    cut first rest = .error cause ↔ Stuck (first :: rest) cause := by
  constructor
  · intro fails
    obtain ⟨found, cuts, -⟩ | ⟨other, same, stuck⟩ := cut_decides first rest
    · rw [fails] at cuts
      cases cuts
    · rw [fails] at same
      cases same
      exact stuck
  · intro stuck
    generalize whole : first :: rest = text at stuck
    -- Each way to be stuck is one that the cut finds, with its own cause.
    cases stuck with
    | stray none =>
      obtain ⟨rfl, rfl⟩ := List.cons.inj whole
      obtain ⟨found, cuts, forms⟩ | ⟨other, fails, stuck⟩ := cut_decides first rest
      · obtain ⟨more, raw_eq⟩ := List.head?_eq_some_iff.mp (head_cut cuts)
        rw [raw_eq] at forms
        exact absurd forms (none _ _ _)
      · -- A quote and a slash do start pieces.
        cases stuck with
        | stray => exact fails
        | openText quote => exact absurd (.literal quote .closing) (none _ _ [])
        | openComment => exact absurd (.single (by decide) (by simp) (by simp)) (none _ _ [])
    | openText quote unclosed =>
      obtain ⟨rfl, rfl⟩ := List.cons.inj whole
      rw [cut_of_quote quote]
      cases found : cutLiteral first rest with
      | none => rfl
      | some triple =>
        obtain ⟨text, raw, rest⟩ := triple
        exact absurd (append_cutLiteral found) (unclosed _ _ _ (spells_of_cutLiteral found))
    | openComment unclosed =>
      obtain ⟨rfl, rfl⟩ := List.cons.inj whole
      rw [cut_opening, cutComment_eq_none_iff.mpr unclosed]

/-- There is at most one piece at the front of a text. -/
theorem Forms.unique {piece other : Piece} {raw rest otherRaw otherRest : List Char}
    (forms : Forms piece raw rest) (otherForms : Forms other otherRaw otherRest)
    (same : raw ++ rest = otherRaw ++ otherRest) :
    piece = other ∧ raw = otherRaw ∧ rest = otherRest := by
  obtain ⟨first, more, raw_eq, cuts⟩ := forms.exists_cut_eq
  have otherCuts : cut first (more ++ rest) = .ok ⟨other, otherRaw, otherRest⟩ := by
    refine cut_eq_ok_iff.mpr ⟨?_, otherForms⟩
    rw [← same, raw_eq, List.cons_append]
  rw [cuts] at otherCuts
  cases otherCuts
  exact ⟨rfl, rfl, rfl⟩

end Scriptlet.Token
