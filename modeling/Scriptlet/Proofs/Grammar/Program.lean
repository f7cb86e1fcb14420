import Mathlib
import Scriptlet.Proofs.Grammar.Denotation
import Scriptlet.Proofs.Grammar.Soundness
import Scriptlet.Proofs.Grammar.Unambiguous

/-! # Programs are what the grammar derives

A list of tokens is read exactly if the grammar derives it.  The derivation is then the only one,
and, if it has no faults, the program that the tokens denote is what the derivation denotes.

Main definitions:

* `sentence`: the tokens up to the end of the input.

Main results:

* `read_eq_ok_iff`: what is read is the tree of a derivation.
* `ofTokens_of_derivation`: what the tokens of a derivation denote. -/

namespace Scriptlet.Grammar

/-- The tokens up to the first mark of the end of input. -/
def sentence (tokens : List Token) : List Token :=
  tokens.takeWhile (·.kind ≠ .endOfInput)

variable {tokens : List Token} {clauses : List Clause}

/-- Tokens are read if the reader takes the sentence in and then holds a program. -/
theorem read_eq_ok_iff_feeds : read tokens = .ok clauses ↔
    ∃ after, Reader.initial.Feeds (sentence tokens) after ∧ after.clauses? = some clauses := by
  constructor
  · intro h
    simp only [read] at h
    split at h
    · cases h
    · rename_i after feeds
      split at h
      · rename_i clauses_eq
        cases h
        exact ⟨after, feeds, clauses_eq⟩
      · cases h
  · rintro ⟨after, feeds, clauses_eq⟩
    have feeds' : (tokens.takeWhile (·.kind ≠ .endOfInput)).foldlM Reader.feed Reader.initial
        = .ok after := feeds
    simp only [read, feeds', clauses_eq]

/-- What is read is the tree of a derivation. -/
theorem read_eq_ok_iff : read tokens = .ok clauses ↔
    ∃ derivation : Derivation .start, derivation.tokens = sentence tokens ∧
      derivation.tree = clauses := by
  rw [read_eq_ok_iff_feeds]
  constructor
  · rintro ⟨after, feeds, clauses_eq⟩
    obtain ⟨derivation, tree_eq, tokens_eq⟩ :=
      (Reader.spelled_initial.feeds feeds).exists_derivation clauses_eq
    exact ⟨derivation, tokens_eq, tree_eq⟩
  · rintro ⟨derivation, tokens_eq, rfl⟩
    rw [← tokens_eq]
    exact derivation.exists_feeds

/-- The tokens of a derivation denote what the derivation denotes, or else its first fault is
reported. -/
theorem ofTokens_of_derivation (derivation : Derivation .start)
    (tokens_eq : derivation.tokens = sentence tokens) (numerals : HaveNumerals (sentence tokens)) :
    Program.ofTokens tokens = outcome derivation.faults (.program 0 derivation.meaning) := by
  have read_eq : read tokens = .ok derivation.tree := read_eq_ok_iff.2 ⟨derivation, tokens_eq, rfl⟩
  have nodes_eq : Clause.nodes derivation.tree = outcome derivation.faults derivation.meaning :=
    derivation.denotes (tokens_eq ▸ numerals)
  unfold Program.ofTokens
  rw [read_eq]
  change (Clause.nodes derivation.tree >>= fun body => pure (Node.program 0 body)) = _
  rw [nodes_eq]
  exact outcome_pure _

/-- The reader decides the grammar, and a program is what its only derivation denotes. -/
theorem ofTokens_decides_grammar (tokens : List Token) (numerals : HaveNumerals (sentence tokens)) :
    ((∃ clauses, read tokens = .ok clauses) ↔
      ∃ derivation : Derivation .start, derivation.tokens = sentence tokens) ∧
    (∀ derivation other : Derivation .start, derivation.tokens = sentence tokens →
      other.tokens = sentence tokens → derivation = other) ∧
    ∀ derivation : Derivation .start, derivation.tokens = sentence tokens →
      derivation.faults = [] →
      Program.ofTokens tokens = .ok (.program 0 derivation.meaning) := by
  refine ⟨?_, ?_, ?_⟩
  -- soundness and completeness of the reader
  · constructor
    · rintro ⟨clauses, read_eq⟩
      obtain ⟨derivation, tokens_eq, -⟩ := read_eq_ok_iff.1 read_eq
      exact ⟨derivation, tokens_eq⟩
    · rintro ⟨derivation, tokens_eq⟩
      exact ⟨derivation.tree, read_eq_ok_iff.2 ⟨derivation, tokens_eq, rfl⟩⟩
  -- unambiguity of the grammar
  · intro derivation other tokens_eq tokens_eq'
    exact Derivation.eq_of_tokens_eq (tokens_eq.trans tokens_eq'.symm)
  -- without faults, the outcome is the program
  · intro derivation tokens_eq faults_eq
    rw [ofTokens_of_derivation derivation tokens_eq numerals, faults_eq, outcome_nil]

/-- The tokens of `x += (a - b) * 2;` on four lines. -/
def scaledDifference : List Token :=
  [⟨.identifier, "x", 1⟩, ⟨.operator, "+=", 1⟩, ⟨.punctuation, "(", 2⟩, ⟨.identifier, "a", 2⟩,
    ⟨.operator, "-", 2⟩, ⟨.identifier, "b", 3⟩, ⟨.punctuation, ")", 3⟩, ⟨.operator, "*", 4⟩,
    ⟨.integer, "2", 4⟩, ⟨.punctuation, ";", 4⟩, ⟨.endOfInput, "", 5⟩]

/-- A compound assignment over several lines, with what it denotes. -/
theorem scaledDifference_decided :
    HaveNumerals (sentence scaledDifference) ∧
      ∃ derivation : Derivation .start, derivation.tokens = sentence scaledDifference ∧
        derivation.faults = [] ∧
        derivation.meaning = [.binary 1 "=" (.reference 1 "x") (.binary 1 "+" (.reference 1 "x")
          (.binary 4 "*" (.binary 2 "-" (.reference 2 "a") (.reference 3 "b")) (.integer 4 2)))] ∧
        Program.ofTokens scaledDifference = .ok (.program 0 derivation.meaning) := by
  have numerals : HaveNumerals (sentence scaledDifference) := by decide
  obtain ⟨derives, -, denotes⟩ := ofTokens_decides_grammar scaledDifference numerals
  have read_eq : ∃ clauses, read scaledDifference = .ok clauses := ⟨_, rfl⟩
  have value_eq : Program.ofTokens scaledDifference = .ok (.program 0
      [.binary 1 "=" (.reference 1 "x") (.binary 1 "+" (.reference 1 "x")
        (.binary 4 "*" (.binary 2 "-" (.reference 2 "a") (.reference 3 "b")) (.integer 4 2)))]) := by
    cbv
  obtain ⟨derivation, tokens_eq⟩ := derives.1 read_eq
  rw [ofTokens_of_derivation derivation tokens_eq numerals] at value_eq
  obtain ⟨faults_eq, program_eq⟩ := outcome_eq_ok value_eq
  exact ⟨numerals, derivation, tokens_eq, faults_eq, (Node.program.inj program_eq).2,
    denotes derivation tokens_eq faults_eq⟩

end Scriptlet.Grammar
