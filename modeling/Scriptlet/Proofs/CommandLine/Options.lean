import Mathlib.Data.List.Basic
import Scriptlet.CommandLine.Response

/-! # Command lines with options

A command line that gives options before its task asks for that task, at the verbosity and under the
limit that the options choose.

Main definitions:

* `options`: the words that choose a verbosity and a limit.
* `Limit.ofText?`: the limit that a text gives.
* `IsName`: a word that can name a file.

Main statements:

* `ofWords_emit`, `ofWords_runDocument`, `ofWords_runSource`: what the three command lines ask
  for. -/

namespace Scriptlet.CommandLine

/-- The words that raise the verbosity so many times and, if a limit is given, set it. -/
def options (verbosity : Nat) (limit : Option String) : List String :=
  List.replicate verbosity "-v" ++ (limit.map ("--max-depth=" ++ ·)).toList

/-- The limit that a text gives, if it is an integer or stands for no number. -/
def Limit.ofText? (text : String) : Option Limit :=
  if text = separatorWord then some .void else (Decimal.integer? text).map .count

/-- A text for a limit, if there is one, gives a limit. -/
def IsLimit (limit : Option String) : Prop :=
  ∀ text ∈ limit, (Limit.ofText? text).isSome

instance : (limit : Option String) → Decidable (IsLimit limit)
  | none => isTrue (by simp [IsLimit])
  | some text => decidable_of_iff ((Limit.ofText? text).isSome = true) (by simp [IsLimit])

/-- A word that can name a file: it is not empty and does not look like a switch. -/
def IsName (word : String) : Prop :=
  word.isEmpty = false ∧ word.toList.head? ≠ some '-'

instance (word : String) : Decidable (IsName word) :=
  inferInstanceAs (Decidable (_ ∧ _))

/-! ## What the words are -/

/-- What the words of options are. -/
def optionWords (verbosity : Nat) (limit : Option String) : List Word :=
  List.replicate verbosity (.switch .verbose true none) ++
    (limit.map fun text => Word.switch .maxDepth false (some text.toList)).toList

/-- A name is not the word that ends the switches. -/
theorem IsName.ne_separatorWord {word : String} (isName : IsName word) : word ≠ separatorWord := by
  rintro rfl
  exact isName.2 rfl

/-- A name counts as given. -/
theorem IsName.filter_eq {word : String} (isName : IsName word) :
    (some word).filter (!·.isEmpty) = some word := by
  simp [Option.filter, isName.1]

/-- A name is a plain word. -/
theorem classify_name {word : String} (isName : IsName word) :
    Word.classify word = .ok (.plain word) := by
  simp only [Word.classify]
  rw [if_pos isName.2]

/-- Words are classified one by one. -/
theorem classifyAll_cons {word : String} {words : List String} {first : Word} {rest : List Word}
    (ne : word ≠ separatorWord) (first_eq : Word.classify word = .ok first)
    (rest_eq : Word.classifyAll words = .ok rest) :
    Word.classifyAll (word :: words) = .ok (first :: rest) := by
  rw [Word.classifyAll, if_neg ne, first_eq, rest_eq]
  rfl

/-- The characters of a switch with a limit. -/
theorem toList_limit (text : String) :
    ("--max-depth=" ++ text).toList = "--max-depth".toList ++ '=' :: text.toList := by
  rw [String.toList_append]
  rfl

/-- Such a switch is cut at its equals sign. -/
theorem cutMark_limit (text : String) :
    cutMark ("--max-depth=" ++ text).toList = ("--max-depth".toList, some text.toList) := by
  rw [toList_limit]
  rfl

/-- No spelling of a switch has an equals sign. -/
theorem lookup_limit (text : String) : Switch.spellings.lookup ("--max-depth=" ++ text) = none := by
  have no_mark : ∀ entry ∈ Switch.spellings, '=' ∉ entry.1.toList := by decide +kernel
  refine List.lookup_eq_none_iff.mpr fun entry mem => ?_
  rw [bne_iff_ne]
  intro same
  refine no_mark entry mem ?_
  rw [← same, toList_limit]
  simp

/-- A switch with a value attached to it. -/
theorem classify_limit (text : String) :
    Word.classify ("--max-depth=" ++ text) = .ok (.switch .maxDepth false (some text.toList)) := by
  have dashed : ¬("--max-depth=" ++ text).toList.head? ≠ some '-' := by
    rw [toList_limit]
    exact not_not.mpr rfl
  have long : ¬("--max-depth=" ++ text).toList.length = 1 := by
    rw [toList_limit, List.length_append, show "--max-depth".toList.length = 11 from rfl]
    omega
  have spelled : Switch.spellings.lookup (String.ofList "--max-depth".toList) = some .maxDepth := by
    decide +kernel
  simp only [Word.classify, cutMark_limit, if_neg dashed, lookup_limit, if_neg long, spelled]
  rfl

/-- Options are classified before what follows them. -/
theorem classifyAll_options (verbosity : Nat) (limit : Option String) {words : List String}
    {found : List Word} (found_eq : Word.classifyAll words = .ok found) :
    Word.classifyAll (options verbosity limit ++ words) =
      .ok (optionWords verbosity limit ++ found) := by
  induction verbosity with
  | zero =>
    cases limit with
    | none => exact found_eq
    | some text =>
      have ne : "--max-depth=" ++ text ≠ separatorWord := by
        intro same
        have := congrArg String.toList same
        rw [toList_limit] at this
        cases this
      exact classifyAll_cons ne (classify_limit text) found_eq
  | succ verbosity ih =>
    exact classifyAll_cons (by decide) (by decide +kernel) ih

/-! ## What the words choose -/

/-- The choices that options make. -/
def optionChoices (verbosity : Nat) (limit : Option String) : Choices :=
  { verbosity := verbosity, depthLimit := limit.bind Limit.ofText? }

/-- A switch for verbosity raises it by one. -/
theorem takeWords_flag (choices : Choices) (found : List Word) :
    choices.takeWords (.switch .verbose true none :: found) =
      { choices with verbosity := choices.verbosity + 1 }.takeWords found := by
  rw [Choices.takeWords.eq_def]
  rfl

/-- Several of them raise it by their number. -/
theorem takeWords_verbose (choices : Choices) (verbosity : Nat) (found : List Word) :
    choices.takeWords (List.replicate verbosity (.switch .verbose true none) ++ found) =
      { choices with verbosity := choices.verbosity + verbosity }.takeWords found := by
  induction verbosity generalizing choices with
  | zero => rfl
  | succ verbosity ih =>
    rw [List.replicate_succ, List.cons_append, takeWords_flag, ih]
    simp only [Nat.add_assoc, Nat.add_comm 1]

/-- A limit is set to what its text gives. -/
theorem takeWords_limit {choices : Choices} {text : String} {limit : Limit}
    (limit_eq : Limit.ofText? text = some limit) (found : List Word) :
    choices.takeWords (.switch .maxDepth false (some text.toList) :: found) =
      { choices with depthLimit := some limit }.takeWords found := by
  have attached : choices.takeAttached .maxDepth text.toList =
      .ok { choices with depthLimit := some limit } := by
    unfold Limit.ofText? at limit_eq
    split at limit_eq
    next same =>
      cases limit_eq
      simp [Choices.takeAttached, same]
    next ne =>
      obtain ⟨value, value_eq, rfl⟩ := Option.map_eq_some_iff.mp limit_eq
      simp [Choices.takeAttached, ne, Choices.takeValue, Choices.takeLimit, value_eq]
  show (choices.takeAttached .maxDepth text.toList >>= fun choices => choices.takeWords found) = _
  rw [attached]
  rfl

/-- Options are chosen before what follows them. -/
theorem takeWords_options {limit : Option String} (isLimit : IsLimit limit) (verbosity : Nat)
    (found : List Word) :
    Choices.takeWords {} (optionWords verbosity limit ++ found) =
      (optionChoices verbosity limit).takeWords found := by
  rw [optionWords, List.append_assoc, takeWords_verbose, Nat.zero_add]
  cases limit with
  | none => rfl
  | some text =>
    obtain ⟨value, value_eq⟩ := Option.isSome_iff_exists.mp (isLimit text rfl)
    have chosen : (some text).bind Limit.ofText? = some value := value_eq
    rw [optionChoices, chosen]
    exact takeWords_limit value_eq found

/-- What a command line chooses by its last words, after options. -/
theorem ofWords_options {limit : Option String} (isLimit : IsLimit limit) (verbosity : Nat)
    {words : List String} {found : List Word} {choices : Choices}
    (found_eq : Word.classifyAll words = .ok found)
    (choices_eq : (optionChoices verbosity limit).takeWords found = .ok choices)
    (no_extras : choices.extras = []) :
    Request.ofWords (options verbosity limit ++ words) = .ofChoices choices := by
  have chosen : Choices.ofWords (options verbosity limit ++ words) = .ok choices := by
    rw [Choices.ofWords, classifyAll_options verbosity limit found_eq]
    show (Choices.takeWords {} (optionWords verbosity limit ++ found) >>= _) = _
    rw [takeWords_options isLimit, choices_eq]
    simp [bind, Except.bind, no_extras]
    rfl
  rw [Request.ofWords, chosen]

/-! ## What the choices ask for -/

section Requests

variable {limit : Option String} (isLimit : IsLimit limit) (verbosity : Nat) {name : String}
  (isName : IsName name)
include isLimit isName

/-- What a command line chooses by a switch with a file, after options. -/
theorem ofWords_switch {spelling : String} {switch : Switch} {choices : Choices}
    (apart : spelling ≠ separatorWord)
    (classified : Word.classify spelling = .ok (.switch switch false none))
    (choices_eq : (optionChoices verbosity limit).takeWords
      [.switch switch false none, .plain name] = .ok choices)
    (no_extras : choices.extras = []) :
    Request.ofWords (options verbosity limit ++ [spelling, name]) = .ofChoices choices :=
  have found_eq := classifyAll_cons apart classified
    (classifyAll_cons isName.ne_separatorWord (classify_name isName) rfl)
  ofWords_options isLimit verbosity found_eq choices_eq no_extras

/-- The document of a file is asked for. -/
theorem ofWords_emit : Request.ofWords (options verbosity limit ++ ["--emit-ast", name]) =
    .task .emit (normalize name) verbosity (limit.bind Limit.ofText?) := by
  have classified : Word.classify "--emit-ast" = .ok (.switch .emit false none) := by decide +kernel
  rw [ofWords_switch isLimit verbosity isName (by decide) classified rfl rfl]
  simp [Request.ofChoices, optionChoices, isName.filter_eq]

/-- The program of a document is asked for. -/
theorem ofWords_runDocument : Request.ofWords (options verbosity limit ++ ["--ast", name]) =
    .task .runDocument (normalize name) verbosity (limit.bind Limit.ofText?) := by
  have classified : Word.classify "--ast" = .ok (.switch .document false none) := by decide +kernel
  rw [ofWords_switch isLimit verbosity isName (by decide) classified rfl rfl]
  simp [Request.ofChoices, optionChoices, isName.filter_eq]

/-- The program of a source is asked for. -/
theorem ofWords_runSource : Request.ofWords (options verbosity limit ++ [name]) =
    .task .runSource (normalize name) verbosity (limit.bind Limit.ofText?) := by
  have found_eq : Word.classifyAll [name] = .ok [.plain name] :=
    classifyAll_cons isName.ne_separatorWord (classify_name isName) rfl
  have choices_eq : (optionChoices verbosity limit).takeWords [.plain name] =
      .ok { optionChoices verbosity limit with program := some name } := rfl
  rw [ofWords_options isLimit verbosity found_eq choices_eq rfl]
  simp [Request.ofChoices, optionChoices, isName.filter_eq]

end Requests

end Scriptlet.CommandLine
