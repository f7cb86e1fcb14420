import Scriptlet.CommandLine.Response
import Scriptlet.Proofs.Grammar.Source
import Scriptlet.Proofs.Json.Scalar
import Scriptlet.Proofs.Machine.Evaluation
import Scriptlet.Proofs.Operator.Words
import Scriptlet.Proofs.Session.Isolation

/-! # Literals are printed as they are written

A program that prints a literal prints what the literal stands for.  A negative integer is written
as an operator in front of a natural, so the least integer stands behind its sign as a natural that
is no word: it is wrapped to the least integer, and so is the opposite of that.

Main definitions:

* `printing`: the source text of a program that prints a literal.
* `Token.enquote`: a text as a literal in quotes of either form.
* `Prints`: a source text prints a line and nothing else.

Main statements:

* `Token.spells_flatMap_escape`: a text between quotes spells that text.
* `literals_readBack`: integers and texts are printed as they are. -/

namespace Scriptlet

/-- The source text of a program that prints a literal. -/
def printing (literal : String) : String :=
  "print(" ++ literal ++ ");"

/-! ## Tokens -/

namespace Token

/-- A character between quotes: such a quote and a backslash stand behind a backslash, and all other
characters as they are. -/
def escape (mark character : Char) : List Char :=
  if character = mark ∨ character = '\\' then ['\\', character] else [character]

/-- A text as a literal in quotes. -/
def enquote (mark : Char) (text : String) : String :=
  String.ofList (mark :: (text.toList.flatMap (escape mark) ++ [mark]))

variable {mark : Char}

/-- A text between quotes spells that text, whatever characters it has. -/
theorem spells_flatMap_escape (quote : mark = '"' ∨ mark = '\x27') (text : List Char) :
    Spells mark (text.flatMap (escape mark) ++ [mark]) text := by
  induction text with
  | nil => exact .closing
  | cons character text inductionHypothesis =>
    rw [List.flatMap_cons, List.append_assoc, escape]
    split
    · rename_i special
      -- Neither a quote nor a backslash becomes a control character.
      have itself : unescape character = character := by
        obtain rfl | rfl := special
        · obtain rfl | rfl := quote <;> rfl
        · rfl
      have spells : Spells mark ('\\' :: character :: (text.flatMap (escape mark) ++ [mark]))
          (unescape character :: text) := .escaped inductionHypothesis
      rwa [itself] at spells
    · rename_i ordinary
      exact .plain (fun same => ordinary (.inl same)) (fun same => ordinary (.inr same))
        inductionHypothesis

/-- The tokens before a literal that is printed. -/
def opening : List Slice :=
  [⟨[], .identifier, ['p', 'r', 'i', 'n', 't'], ['p', 'r', 'i', 'n', 't']⟩,
    ⟨[], .punctuation, ['('], ['(']⟩]

/-- The tokens after a literal that is printed. -/
def closing : List Slice :=
  [⟨[], .punctuation, [')'], [')']⟩, ⟨[], .punctuation, [';'], [';']⟩]

/-- The end of the call is split into its two signs. -/
theorem splits_closing : Splits closing [] [')', ';'] := by
  have bracket : Forms (.token .punctuation [')']) [')'] [';'] := .punctuation (by decide)
  have semicolon : Forms (.token .punctuation [';']) [';'] [] := .punctuation (by decide)
  exact .token bracket (.token semicolon (.last .nil))

/-- The tokens of a program that prints a literal. -/
theorem tokenize_printing {slices : List Slice} {literal : List Char}
    (splits : Splits slices [] (literal ++ [')', ';'])) :
    tokenize (printing (String.ofList literal)) = .ok (tokensAfter [] (opening ++ slices) []) := by
  have bracket : Forms (.token .punctuation ['(']) ['('] (literal ++ [')', ';']) :=
    .punctuation (by decide)
  have name : Forms (.token .identifier ['p', 'r', 'i', 'n', 't']) ['p', 'r', 'i', 'n', 't']
      ('(' :: (literal ++ [')', ';'])) := by
    have kind_eq : wordKind ['p', 'r', 'i', 'n', 't'] = .identifier := rfl
    rw [← kind_eq]
    exact .word rfl (List.all_eq_true.mp rfl) (by rintro _ ⟨⟩; decide)
  have whole := Splits.token name (Splits.token bracket splits)
  have text : (printing (String.ofList literal)).toList =
      ['p', 'r', 'i', 'n', 't'] ++ '(' :: (literal ++ [')', ';']) := by
    simp [printing]
  rw [tokenize, text]
  exact scan_of_splits whole []

end Token

/-! ## Programs -/

namespace Grammar

/-- The program of tokens that are read as a call with one argument. -/
theorem ofTokens_call {tokens : List Token} {callee : Token} {phrase : Phrase} {node : Node}
    (read_eq : read tokens = .ok [.expression (.call callee [phrase])])
    (node_eq : phrase.node = .ok node) :
    Program.ofTokens tokens =
      .ok (.program 0 [.call callee.line callee.lexeme [node]]) := by
  simp only [Program.ofTokens, read_eq, bind, Except.bind, Clause.nodes, Clause.node, Phrase.node,
    Phrase.nodes, node_eq]
  rfl

open Token (opening closing tokensAfter)

/-- A text in quotes is read as the argument of the call. -/
theorem read_text (text raw : List Char) :
    read (tokensAfter [] (opening ++ ⟨[], .string, text, raw⟩ :: closing) []) =
      .ok [.expression (.call ⟨.identifier, "print", 1⟩
        [.string ⟨.string, String.ofList text, 1⟩])] := by
  rfl

/-- So are the digits of an integer. -/
theorem read_integer (digits : List Char) :
    read (tokensAfter [] (opening ++ ⟨[], .integer, digits, digits⟩ :: closing) []) =
      .ok [.expression (.call ⟨.identifier, "print", 1⟩
        [.integer ⟨.integer, String.ofList digits, 1⟩])] := by
  rfl

/-- So are they with a sign in front. -/
theorem read_negative (digits : List Char) :
    read (tokensAfter [] (opening ++ ⟨[], .operator, ['-'], ['-']⟩ ::
        ⟨[], .integer, digits, digits⟩ :: closing) []) =
      .ok [.expression (.call ⟨.identifier, "print", 1⟩
        [.unary ⟨.operator, "-", 1⟩ (.integer ⟨.integer, String.ofList digits, 1⟩)])] := by
  rfl

end Grammar

/-- A source text is a program that prints one line and ends, whatever has been run before it and
whatever is traced. -/
structure Prints (source line : String) : Prop where
  /-- A machine in which printing is built in runs the program to its end, in a number of steps that
  no run is short of, and prints the line after what it had printed. -/
  run_eq : ∃ body, Program.ofSource source = .ok (.program 0 body) ∧ ∃ enough ≤ Session.patience,
    ∀ settings : Settings, settings.builtin? "print" = some .print → ∀ machine : Machine,
      ∀ limit ≥ enough, (machine.run settings limit body).1 = .ended ∧
        (machine.run settings limit body).2.printed = line :: machine.printed
  /-- Run by itself, it ends well with that line as its output, if its trace can be written. -/
  response_eq : ∀ (look : String → CommandLine.Found) (verbosity : Int),
    (0 < verbosity → (look CommandLine.traceFile).obstacle? = none) →
      (CommandLine.runSource look source verbosity).ending = .exit 0 ∧
        (CommandLine.runSource look source verbosity).output = line ++ "\n"

/-- The response to the source text of a program that prints one line and ends. -/
theorem runSource_of_ended {source line : String} {verbosity : Int} {body : List Node}
    {look : String → CommandLine.Found}
    (source_eq : Program.ofSource source = .ok (.program 0 body))
    (ended : (Machine.initial.run (Session.settingsFor verbosity none []) Session.patience
      body).1 = .ended)
    (printed : (Machine.initial.run (Session.settingsFor verbosity none []) Session.patience
      body).2.printed = [line])
    (writable : 0 < verbosity → (look CommandLine.traceFile).obstacle? = none) :
    (CommandLine.runSource look source verbosity).ending = .exit 0 ∧
      (CommandLine.runSource look source verbosity).output = line ++ "\n" := by
  let session := Session.start (Session.settingsFor verbosity none [])
  have free : (if session.hasFile then (look CommandLine.traceFile).obstacle? else none) = none := by
    by_cases traces : 0 < verbosity
    · simp [writable traces]
    · simp [session, Session.start, Session.hasFile, Session.settingsFor, traces]
  have outcome_eq : (session.run Session.patience body).1.outcome = .ended := by
    rw [Session.outcome_run]
    exact ended
  have printed_eq : (session.run Session.patience body).1.printed = [line] := by
    rw [Session.printed_run]
    exact congrArg List.reverse printed
  simp only [CommandLine.runSource, source_eq, CommandLine.runBody, CommandLine.bodyOf,
    Option.map_none, session, free, outcome_eq, printed_eq]
  exact ⟨rfl, by simp [CommandLine.lines]⟩

/-- A call that prints the value of an expression makes a program that prints one line. -/
theorem prints_of_gives {source : String} {line : Int} {argument : Node} {value : Value}
    (source_eq : Program.ofSource source = .ok (.program 0 [.call line "print" [argument]]))
    (lined : (Node.call line "print" [argument]).Lined) {steps : Nat} (few : steps ≤ 3)
    (gives : ∀ settings, argument.Gives settings steps value []) : Prints source value.print := by
  have ends : ∀ settings : Settings, settings.builtin? "print" = some .print →
      ∀ machine : Machine, ∀ limit ≥ steps + 2 + 4,
        (machine.run settings limit [.call line "print" [argument]]).1 = .ended ∧
          (machine.run settings limit [.call line "print" [argument]]).2.printed =
            value.print :: machine.printed :=
    fun settings known machine limit enough =>
      Machine.run_of_gives ((gives settings).print known lined) enough machine
  have patient : steps + 2 + 4 ≤ Session.patience :=
    Nat.le_trans (m := 9) (by omega) (by decide)
  refine ⟨⟨_, source_eq, steps + 2 + 4, patient, ends⟩, ?_⟩
  intro look verbosity writable
  obtain ⟨ended, printed⟩ := ends (Session.settingsFor verbosity none []) rfl .initial _ patient
  exact runSource_of_ended source_eq ended printed writable

/-! ## Literals -/

namespace Token

variable {mark : Char}

/-- A text in quotes is the only argument of the program that prints it. -/
theorem ofSource_enquote (quote : mark = '"' ∨ mark = '\x27') (text : String) :
    Program.ofSource (printing (enquote mark text)) =
      .ok (.program 0 [.call 1 "print" [.text 1 text]]) := by
  have forms : Forms (.token .string text.toList)
      (mark :: (text.toList.flatMap (escape mark) ++ [mark])) [')', ';'] :=
    .literal quote (spells_flatMap_escape quote text.toList)
  have scanned := tokenize_printing (Splits.token forms splits_closing)
  rw [Program.ofSource, enquote, scanned]
  have node_eq : (Grammar.Phrase.string ⟨.string, String.ofList text.toList, 1⟩).node =
      .ok (.text 1 text) := by
    simp [Grammar.Phrase.node]
  exact Grammar.ofTokens_call (Grammar.read_text ..) node_eq

end Token

section Integers

variable {natural : ℕ}

/-- The digits of a number are digits. -/
theorem isDigit_of_mem_toDigits : ∀ digit ∈ Nat.toDigits 10 natural, digit.isDigit = true :=
  fun _ mem => Nat.isDigit_of_mem_toDigits (by norm_num) (by norm_num) mem

/-- The digits of a natural are a token of the program that prints it. -/
theorem Token.splits_toDigits (natural : ℕ) :
    Token.Splits (⟨[], .integer, Nat.toDigits 10 natural, Nat.toDigits 10 natural⟩ :: Token.closing)
      [] (Nat.toDigits 10 natural ++ [')', ';']) := by
  have forms : Token.Forms (.token .integer (Nat.toDigits 10 natural)) (Nat.toDigits 10 natural)
      [')', ';'] :=
    .integer Nat.toDigits_ne_nil isDigit_of_mem_toDigits (by rintro _ ⟨⟩; decide)
  exact .token forms Token.splits_closing

/-- The digits of a natural denote it, if there are not too many of them. -/
theorem node_toDigits (small : natural < 10 ^ Decimal.digitLimit) (line : ℤ) :
    (Grammar.Phrase.integer ⟨.integer, String.ofList (Nat.toDigits 10 natural), line⟩).node =
      .ok (.integer line natural) := by
  have short : (Nat.toDigits 10 natural).length ≤ Decimal.digitLimit :=
    (Nat.length_toDigits_le_iff (by norm_num) (by norm_num [Decimal.digitLimit])).mpr small
  simp only [Grammar.Phrase.node, Decimal.integer?_ofList Nat.toDigits_ne_nil
    isDigit_of_mem_toDigits, if_pos short, Nat.ofDigitChars_ten_toDigits]
  rfl

/-- The digits of a natural are the only argument of the program that prints them. -/
theorem ofSource_toDigits (small : natural < 10 ^ Decimal.digitLimit) :
    Program.ofSource (printing (String.ofList (Nat.toDigits 10 natural))) =
      .ok (.program 0 [.call 1 "print" [.integer 1 natural]]) := by
  rw [Program.ofSource, Token.tokenize_printing (Token.splits_toDigits natural)]
  exact Grammar.ofTokens_call (Grammar.read_integer _) (node_toDigits small 1)

/-- Behind a minus they are the operand of an operator. -/
theorem ofSource_minus (small : natural < 10 ^ Decimal.digitLimit) :
    Program.ofSource (printing (String.ofList ('-' :: Nat.toDigits 10 natural))) =
      .ok (.program 0 [.call 1 "print" [.unary 1 "-" (.integer 1 natural)]]) := by
  have digit : ∀ next ∈ (Nat.toDigits 10 natural ++ [')', ';']).head?, next.isDigit = true := by
    intro next mem
    rw [List.head?_append_of_ne_nil _ Nat.toDigits_ne_nil] at mem
    exact isDigit_of_mem_toDigits next (List.mem_of_mem_head? mem)
  have minus : Token.Forms (.token .operator ['-']) ['-']
      (Nat.toDigits 10 natural ++ [')', ';']) := by
    refine .single (by decide) ?_ nofun
    intro next mem pair
    -- The only longer operator that a minus begins goes on with an equals sign.
    obtain rfl : next = '=' := by simpa [Token.pairOperators] using pair
    cases digit '=' mem
  have splits : Token.Splits (⟨[], .operator, ['-'], ['-']⟩ ::
      ⟨[], .integer, Nat.toDigits 10 natural, Nat.toDigits 10 natural⟩ :: Token.closing) []
      ('-' :: Nat.toDigits 10 natural ++ [')', ';']) :=
    .token minus (Token.splits_toDigits natural)
  have node_eq : (Grammar.Phrase.unary ⟨.operator, "-", 1⟩
      (.integer ⟨.integer, String.ofList (Nat.toDigits 10 natural), 1⟩)).node =
        .ok (.unary 1 "-" (.integer 1 natural)) := by
    rw [Grammar.Phrase.node, node_toDigits small]
    rfl
  rw [Program.ofSource, Token.tokenize_printing splits]
  exact Grammar.ofTokens_call (Grammar.read_negative _) node_eq

end Integers

/-- The numeral of an integer has its digits, behind a minus if it is negative. -/
theorem toString_eq_ofList (number : ℤ) : toString number = String.ofList
    (if number < 0 then '-' :: Nat.toDigits 10 number.natAbs
      else Nat.toDigits 10 number.natAbs) := by
  rw [← String.ofList_toList (s := toString number), Json.toList_toString]
  by_cases negative : number < 0 <;> simp [negative]

/-- The opposite of an integer, both wrapped, is the opposite if that is a word. -/
theorem Word.wrap_neg_wrap {integer : ℤ} (fits : Fits (-integer)) :
    wrap (-wrap integer) = -integer :=
  (eq_wrap fits (wrap_modEq integer).neg.symm).symm

/-- Integers and texts are printed as they are: a program that prints the numeral of a word prints
that numeral, and one that prints a text in quotes of either form prints that text. -/
theorem literals_readBack :
    (∀ number : ℤ, -2 ^ 63 ≤ number → number ≤ 2 ^ 63 - 1 →
      Prints (printing (toString number)) (toString number)) ∧
    ∀ (mark : Char) (text : String), mark = '"' ∨ mark = '\x27' →
      Prints (printing (Token.enquote mark text)) text := by
  have first : ∀ {node : Node}, node.line = 1 → node.Lined := Node.lined_of_line_eq_one
  constructor
  · intro number least greatest
    have fits : Word.Fits number := ⟨least, by omega⟩
    have small : number.natAbs < 10 ^ Decimal.digitLimit :=
      calc number.natAbs ≤ 2 ^ 63 := by omega
        _ < 10 ^ 20 := by norm_num
        _ ≤ 10 ^ Decimal.digitLimit := Nat.pow_le_pow_right (by norm_num) (by decide)
    have numeral := toString_eq_ofList number
    rcases lt_or_ge number 0 with negative | nonneg
    -- The natural behind the sign may be no word, so it is wrapped before its opposite is.
    · have opposite : number = -number.natAbs := by omega
      have read := prints_of_gives (ofSource_minus small) (first rfl) (by decide) fun settings =>
        (Node.gives_integer settings (first rfl)).unary (first rfl) rfl
      rw [if_pos negative] at numeral
      rw [opposite] at fits
      rw [← numeral, Word.wrap_neg_wrap fits, ← opposite] at read
      exact read
    · have read := prints_of_gives (ofSource_toDigits small) (first rfl) (by decide) fun settings =>
        Node.gives_integer settings (first rfl)
      rw [if_neg (not_lt.mpr nonneg)] at numeral
      rw [← numeral, Int.natAbs_of_nonneg nonneg, Operator.wrap_of_fits fits] at read
      exact read
  · intro mark text quote
    exact prints_of_gives (Token.ofSource_enquote quote text) (first rfl) (by decide)
      fun settings => Node.gives_text settings (first rfl)

/-- The least integer is printed, and a text of a backslash and an `n`, a quote and a line break. -/
theorem least_and_escaped_readBack :
    Prints "print(-9223372036854775808);" "-9223372036854775808" ∧
      Prints "print(\"\\\\n\\\"\n\");" "\\n\"\n" := by
  have least : printing (toString (-2 ^ 63 : ℤ)) = "print(-9223372036854775808);" := by
    decide +kernel
  have escaped : printing (Token.enquote '"' "\\n\"\n") = "print(\"\\\\n\\\"\n\");" := by
    decide +kernel
  constructor
  · rw [← least]
    exact literals_readBack.1 (-2 ^ 63) (by decide) (by decide)
  · rw [← escaped]
    exact literals_readBack.2 '"' _ (by decide)

end Scriptlet
