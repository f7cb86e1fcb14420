import Scriptlet.Proofs.Grammar.Completion
import Scriptlet.Proofs.Grammar.Program
import Scriptlet.Proofs.Grammar.Relabel

/-! # The first impossible token

A program that is refused is refused at the first token with which no program goes on, or at its end
if there is no such token.  A reader that has not refused a token can still be completed, so what it
was given starts a program; and what starts a program is read without a refusal.

Main definitions:

* `HaveTerminals`: the classes of tokens.
* `IsSentence`, `IsViable`: classes of the tokens of a program, and of those that start one.
* `IsFirstImpossible`: classes that start no program, though all of them but the last do.
* `Refuses`: a list of tokens is refused with a message and a line.

Main results:

* `isViable_iff`: what starts a program is what a reader takes in.
* `ofTokens_blames_first_impossible`: where a program is refused, and why. -/

namespace Scriptlet.Grammar

/-! ## Classes of tokens -/

/-- The tokens are of the classes, one by one. -/
def HaveTerminals (tokens : List Token) (terminals : List Terminal) : Prop :=
  tokens.map Terminal.ofToken? = terminals.map some

instance (tokens : List Token) (terminals : List Terminal) :
    Decidable (HaveTerminals tokens terminals) :=
  inferInstanceAs (Decidable (tokens.map Terminal.ofToken? = terminals.map some))

/-- The classes are those of the tokens of a program. -/
def IsSentence (terminals : List Terminal) : Prop :=
  ∃ derivation : Derivation .start, HaveTerminals derivation.tokens terminals

/-- The classes are those of tokens that start a program. -/
def IsViable (terminals : List Terminal) : Prop :=
  ∃ rest, IsSentence (terminals ++ rest)

/-- The classes are those of tokens that start no program, though any fewer of them do. -/
structure IsFirstImpossible (terminals : List Terminal) : Prop where
  /-- No program starts with all of them. -/
  impossible : ¬IsViable terminals
  /-- Some program starts with any fewer. -/
  possible : ∀ front, front <+: terminals → front ≠ terminals → IsViable front

section Classes

variable {tokens more : List Token} {terminals others : List Terminal}

/-- Tokens have the classes of those in front and of those behind. -/
theorem HaveTerminals.append (have_tokens : HaveTerminals tokens terminals)
    (have_more : HaveTerminals more others) : HaveTerminals (tokens ++ more) (terminals ++ others) := by
  unfold HaveTerminals at *
  rw [List.map_append, List.map_append, have_tokens, have_more]

/-- What is of the same classes is derived alike. -/
theorem HaveTerminals.exists_derivation {derivation : Derivation .start}
    (derived : HaveTerminals derivation.tokens terminals) (given : HaveTerminals tokens terminals) :
    ∃ relabelled : Derivation .start, relabelled.tokens = tokens :=
  derivation.relabels tokens (given.trans derived.symm)

/-- Classes are a sentence if and only if tokens of these classes are derived. -/
theorem isSentence_iff (given : HaveTerminals tokens terminals) :
    IsSentence terminals ↔ ∃ derivation : Derivation .start, derivation.tokens = tokens := by
  constructor
  · rintro ⟨derivation, derived⟩
    exact derived.exists_derivation given
  · rintro ⟨derivation, rfl⟩
    exact ⟨derivation, given⟩

/-- Every token that a reader takes in has a class. -/
theorem Reader.Feeds.exists_terminals {reader after : Reader} (feeds : reader.Feeds tokens after) :
    ∃ terminals, HaveTerminals tokens terminals := by
  induction tokens generalizing reader with
  | nil => exact ⟨[], rfl⟩
  | cons token tokens ih =>
    obtain ⟨terminal, leaf, middle, rfl, -, next⟩ := feeds.of_cons
    obtain ⟨terminals, given⟩ := ih next
    refine ⟨terminal :: terminals, ?_⟩
    rw [HaveTerminals, List.map_cons, List.map_cons, leaf.ofToken?_eq, given]

/-- What a reader takes in, it takes in piece by piece. -/
theorem Reader.Feeds.of_append {reader after : Reader} (feeds : reader.Feeds (tokens ++ more) after) :
    ∃ middle, reader.Feeds tokens middle ∧ middle.Feeds more after := by
  induction tokens generalizing reader with
  | nil => exact ⟨reader, .nil reader, feeds⟩
  | cons token tokens ih =>
    obtain ⟨terminal, leaf, next, rfl, accepts, rest⟩ := feeds.of_cons
    obtain ⟨middle, feeds', rest'⟩ := ih rest
    exact ⟨middle, .cons leaf accepts feeds', rest'⟩

/-- What starts a program is what a reader takes in: by completeness of the reader what starts a
program is taken in, and by its soundness a completion of the reader is one of the program. -/
theorem isViable_iff (given : HaveTerminals tokens terminals) :
    IsViable terminals ↔ ∃ after, Reader.initial.Feeds tokens after := by
  constructor
  · rintro ⟨rest, derivation, derived⟩
    -- the rest of the derivation goes on after the given tokens as it does after its own
    rw [HaveTerminals, List.map_append, List.map_eq_append_iff] at derived
    obtain ⟨before, more, tokens_eq, of_before, of_more⟩ := derived
    obtain ⟨relabelled, relabelled_eq⟩ : ∃ other : Derivation .start, other.tokens = tokens ++ more := by
      refine derivation.relabels _ ?_
      rw [tokens_eq, List.map_append, List.map_append, given, of_before]
    obtain ⟨after, feeds, -⟩ := relabelled.exists_feeds
    rw [relabelled_eq] at feeds
    obtain ⟨middle, feeds', -⟩ := feeds.of_append
    exact ⟨middle, feeds'⟩
  · rintro ⟨after, feeds⟩
    obtain ⟨more, last, clauses, feeds', ends⟩ := after.completes
    obtain ⟨rest, of_more⟩ := feeds'.exists_terminals
    obtain ⟨derivation, -, tokens_eq⟩ :=
      (Reader.spelled_initial.feeds (feeds.append feeds')).exists_derivation ends
    exact ⟨rest, derivation, tokens_eq ▸ given.append of_more⟩

end Classes

/-! ## Shortest impossible starts -/

section FirstImpossible

variable {tokens : List Token} {terminals first : List Terminal}

/-- What starts no program has a shortest part that starts none. -/
theorem exists_isFirstImpossible (impossible : ¬IsViable terminals) :
    ∃ first, first <+: terminals ∧ IsFirstImpossible first := by
  induction h : terminals.length using Nat.strong_induction_on generalizing terminals with
  | _ length ih =>
    by_cases possible : ∀ front, front <+: terminals → front ≠ terminals → IsViable front
    · exact ⟨terminals, List.prefix_refl terminals, impossible, possible⟩
    · push Not at possible
      obtain ⟨front, within, ne, impossible'⟩ := possible
      have shorter : front.length < length := by
        have := mt within.eq_of_length ne
        have := within.length_le
        omega
      obtain ⟨first, within', isFirst⟩ := ih front.length shorter impossible' rfl
      exact ⟨first, within'.trans within, isFirst⟩

/-- The first classes of tokens are those of the first tokens. -/
theorem HaveTerminals.exists_of_prefix (given : HaveTerminals tokens terminals)
    (within : first <+: terminals) : ∃ shown, shown <+: tokens ∧ HaveTerminals shown first := by
  obtain ⟨rest, rfl⟩ := within
  rw [HaveTerminals, List.map_append, List.map_eq_append_iff] at given
  obtain ⟨shown, after, rfl, of_shown, -⟩ := given
  exact ⟨shown, List.prefix_append shown after, of_shown⟩

/-- A reader takes in all tokens of a shortest impossible start but the last, and refuses that one. -/
theorem IsFirstImpossible.exists_refused (isFirst : IsFirstImpossible terminals)
    (given : HaveTerminals tokens terminals) :
    ∃ before token, tokens = before ++ [token] ∧ ∃ middle, Reader.initial.Feeds before middle ∧
      middle.feed token = .error (.error ⟨.unexpectedToken token.lexeme, token.line⟩) := by
  obtain rfl | ⟨before, token, rfl⟩ := tokens.eq_nil_or_concat'
  · exact absurd ((isViable_iff given).2 ⟨_, .nil _⟩) isFirst.impossible
  · have split := given.symm
    rw [List.map_append, List.map_eq_append_iff] at split
    obtain ⟨front, back, rfl, of_front, of_back⟩ := split
    obtain ⟨terminal, rfl, terminal_eq⟩ := List.map_eq_singleton_iff.1 of_back
    have viable := isFirst.possible front (List.prefix_append front _) (by simp)
    obtain ⟨middle, feeds⟩ := (isViable_iff of_front.symm).1 viable
    refine ⟨before, token, rfl, middle, feeds, ?_⟩
    -- were the last token taken in, the whole would start a program
    have refused : middle.accept? terminal token = none := by
      by_contra accepted
      obtain ⟨next, accepts⟩ := Option.ne_none_iff_exists'.1 accepted
      have taken : middle.Feeds [token] next :=
        .single (⟨token, terminal_eq.symm⟩ : Leaf terminal) accepts
      exact isFirst.impossible ((isViable_iff given).2 ⟨next, feeds.append taken⟩)
    simp only [Reader.feed, ← terminal_eq, refused]

end FirstImpossible

/-! ## Refusals -/

/-- The tokens are refused with a message and a line, as the text of no program. -/
def Refuses (tokens : List Token) (message : String) (line : Int) : Prop :=
  ∃ error : Error, Program.ofTokens tokens = .error (.error error) ∧ error.cause.kind = .grammar ∧
    error.cause.message = message ∧ error.line = line

variable {tokens before rest : List Token} {token : Token} {middle after : Reader}

/-- The first token that a reader refuses settles what the tokens denote. -/
theorem ofTokens_of_refused {failure : Failure} (feeds : Reader.initial.Feeds before middle)
    (refused : middle.feed token = .error failure)
    (within : before ++ [token] <+: sentence tokens) :
    Program.ofTokens tokens = .error failure := by
  obtain ⟨rest, tokens_eq⟩ := within
  have stops : (sentence tokens).foldlM Reader.feed Reader.initial = .error failure := by
    rw [← tokens_eq, List.append_assoc, List.foldlM_append, feeds]
    change middle.feed token >>= (fun next => rest.foldlM Reader.feed next) = _
    rw [refused]
    rfl
  have read_eq : read tokens = .error failure := by
    unfold sentence at stops
    simp only [read, stops]
  rw [Program.ofTokens, read_eq]
  rfl

/-- A reader that holds no whole program at the end settles it, too. -/
theorem ofTokens_of_unfinished (feeds : Reader.initial.Feeds (sentence tokens) after)
    (unfinished : after.clauses? = none) :
    Program.ofTokens tokens = .error (.error ⟨.unexpectedEnd, lastLine (sentence tokens)⟩) := by
  have feeds' : (tokens.takeWhile (·.kind ≠ .endOfInput)).foldlM Reader.feed Reader.initial
      = .ok after := feeds
  have read_eq : read tokens
      = .error (.error ⟨.unexpectedEnd, lastLine (sentence tokens)⟩) := by
    simp only [read, feeds', unfinished]
    rfl
  rw [Program.ofTokens, read_eq]
  rfl

/-- The last line is that of the last token, if that is written with any character. -/
theorem lastLine_of_getLast? (last : tokens.getLast? = some token) (ne : token.lexeme ≠ "") :
    lastLine tokens = token.line := by
  have : token.lexeme.isEmpty = false := by simpa using ne
  simp [lastLine, last, this]

/-- Where a program is refused, and why.  If some tokens at the start are those of no program, the
last token of the shortest such start is blamed, and whatever follows it makes no difference.  If
there are none, and still the whole is no program, its end is blamed. -/
theorem ofTokens_blames_first_impossible (tokens : List Token) :
    (∀ shown terminals, shown <+: sentence tokens → HaveTerminals shown terminals →
      ¬IsViable terminals →
      ∃ before token first, before ++ [token] <+: shown ∧ HaveTerminals (before ++ [token]) first ∧
        IsFirstImpossible first ∧
        Refuses tokens ("unexpected " ++ Text.quoted token.lexeme) token.line ∧
        ∀ other, before ++ [token] <+: sentence other →
          Program.ofTokens other = Program.ofTokens tokens) ∧
    ∀ terminals, HaveTerminals (sentence tokens) terminals → ¬IsSentence terminals →
      (∀ front, front <+: terminals → IsViable front) →
      ∃ line, Refuses tokens "unexpected end of input" line ∧
        (sentence tokens = [] → line = 1) ∧
        ∀ token, (sentence tokens).getLast? = some token → token.lexeme ≠ "" →
          line = token.line := by
  constructor
  · intro shown terminals within given impossible
    obtain ⟨first, front, isFirst⟩ := exists_isFirstImpossible impossible
    obtain ⟨part, part_within, of_part⟩ := given.exists_of_prefix front
    obtain ⟨before, token, rfl, middle, feeds, refused⟩ := isFirst.exists_refused of_part
    have error_eq := ofTokens_of_refused feeds refused (part_within.trans within)
    refine ⟨before, token, first, part_within, of_part, isFirst, ⟨_, error_eq, rfl, rfl, rfl⟩, ?_⟩
    intro other within'
    rw [error_eq, ofTokens_of_refused feeds refused within']
  · intro terminals given notSentence possible
    obtain ⟨after, feeds⟩ :=
      (isViable_iff given).1 (possible terminals (List.prefix_refl terminals))
    -- a reader that held a whole program would have read a sentence
    have unfinished : after.clauses? = none := by
      by_contra finished
      obtain ⟨clauses, ends⟩ := Option.ne_none_iff_exists'.1 finished
      obtain ⟨derivation, -, tokens_eq⟩ :=
        (Reader.spelled_initial.feeds feeds).exists_derivation ends
      exact notSentence ((isSentence_iff given).2 ⟨derivation, tokens_eq⟩)
    refine ⟨_, ⟨_, ofTokens_of_unfinished feeds unfinished, rfl, rfl, rfl⟩, ?_, ?_⟩
    · intro none_read
      rw [none_read]
      rfl
    · intro token last ne
      exact lastLine_of_getLast? last ne

/-- The tokens of `x = ;` on two lines. -/
def misplacedSemicolon : List Token :=
  [⟨.identifier, "x", 1⟩, ⟨.operator, "=", 1⟩, ⟨.punctuation, ";", 2⟩, ⟨.endOfInput, "", 2⟩]

/-- The tokens of `x = y` on two lines. -/
def missingSemicolon : List Token :=
  [⟨.identifier, "x", 1⟩, ⟨.operator, "=", 1⟩, ⟨.identifier, "y", 2⟩, ⟨.endOfInput, "", 3⟩]

/-- A semicolon in a wrong place is blamed, and so is the end of a text that lacks one. -/
theorem semicolons_blamed :
    (HaveTerminals (sentence misplacedSemicolon) [.identifier, .assign, .semicolon] ∧
      ¬IsViable [.identifier, .assign, .semicolon] ∧
      ∃ before token first, before ++ [token] <+: sentence misplacedSemicolon ∧
        HaveTerminals (before ++ [token]) first ∧ IsFirstImpossible first ∧
        Refuses misplacedSemicolon ("unexpected " ++ Text.quoted token.lexeme) token.line) ∧
    HaveTerminals (sentence missingSemicolon) [.identifier, .assign, .identifier] ∧
      ¬IsSentence [.identifier, .assign, .identifier] ∧
      ∃ line, Refuses missingSemicolon "unexpected end of input" line ∧ line = 2 := by
  obtain ⟨misplaced, -⟩ := ofTokens_blames_first_impossible misplacedSemicolon
  obtain ⟨-, missing⟩ := ofTokens_blames_first_impossible missingSemicolon
  have given : HaveTerminals (sentence misplacedSemicolon) [.identifier, .assign, .semicolon] := by
    decide
  have given' : HaveTerminals (sentence missingSemicolon) [.identifier, .assign, .identifier] := by
    decide
  -- Whether tokens can begin a program is what the reader finds when it is fed with them.
  have impossible : ¬IsViable [.identifier, .assign, .semicolon] := by
    rw [isViable_iff given]
    rintro ⟨after, feeds⟩
    cases feeds
  have viable : IsViable [.identifier, .assign, .identifier] :=
    (isViable_iff given').2 ⟨_, rfl⟩
  have notSentence : ¬IsSentence [.identifier, .assign, .identifier] := by
    rw [isSentence_iff given']
    rintro ⟨derivation, tokens_eq⟩
    have read_eq := read_eq_ok_iff.2 ⟨derivation, tokens_eq, rfl⟩
    cases read_eq
  refine ⟨⟨given, impossible, ?_⟩, given', notSentence, ?_⟩
  · obtain ⟨before, token, first, within, of_before, isFirst, refuses, -⟩ :=
      misplaced _ _ (List.prefix_refl _) given impossible
    exact ⟨before, token, first, within, of_before, isFirst, refuses⟩
  · obtain ⟨line, refuses, -, line_eq⟩ := missing _ given' notSentence fun front within => by
      obtain ⟨rest, rest_eq⟩ := within
      obtain ⟨more, sentence⟩ := viable
      exact ⟨rest ++ more, by rwa [← List.append_assoc, rest_eq]⟩
    exact ⟨line, refuses, line_eq _ rfl (by decide)⟩

end Scriptlet.Grammar
