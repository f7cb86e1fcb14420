import Mathlib
import Scriptlet.Proofs.CommandLine.Emission
import Scriptlet.Proofs.Document.Oversize

/-! # Refused documents

A command line that names a document runs the program that the document denotes, or it refuses the
document in words and ends with status one.  Neither happens only to a document that gives an integer
past all doubles for a double: no words are found for it, and the command line breaks down.

Main definitions:

* `Denotes`: a document denotes a program of given statements.
* `refusal`: the response that refuses a document.

Main statements:

* `document_runs_or_refused`: what the command line makes of any document. -/

namespace Scriptlet.CommandLine

open Document

/-- A document denotes a program of given statements. -/
def Denotes (json : Json) (body : List Node) : Prop :=
  ∃ line, load json = .ok (.node (.program line body))

/-- The response that refuses the document at a path. -/
def refusal (path message : String) : Response :=
  .refuse 1 s!"Error: invalid AST file {path}: {message}\n"

/-- A breakdown is no refusal. -/
theorem breakdown_ne_refusal (breakdown : Breakdown) (path message : String) :
    Response.breakdown breakdown ≠ refusal path message := nofun

/-- A document denotes a program, or is refused in words or for an integer past all doubles. -/
theorem programOf_cases (json : Json) :
    (∃ line body, load json = .ok (.node (.program line body)) ∧
      programOf json = .ok (some (.program line body))) ∨
    ((∀ body, ¬Denotes json body) ∧ ∃ message, programOf json = .error message) ∨
    load json = .error .tooLarge ∧ programOf json = .ok none := by
  unfold programOf
  split
  next line body loaded => exact .inl ⟨line, body, loaded, rfl⟩
  next item other loaded =>
    refine .inr (.inl ⟨?_, _, rfl⟩)
    rintro body ⟨line, loaded'⟩
    obtain rfl := Except.ok.inj (loaded.symm.trans loaded')
    exact other line body rfl
  next loaded => exact .inr (.inr ⟨loaded, rfl⟩)
  next failure other loaded =>
    refine .inr (.inl ⟨?_, _, rfl⟩)
    rintro body ⟨line, loaded'⟩
    cases loaded.symm.trans loaded'

section Requests

variable {look : String → Found} {name source : String} {content : ByteArray} {json : Json}
  {limit : Option String} (isName : IsName name) (found : look (normalize name) = .file content)
  (source_eq : decode content = some source) (read_eq : Json.read source = .ok json)
  (verbosity : Nat) (isLimit : IsLimit limit)
include isName found source_eq read_eq isLimit

/-- A document that is read is run, or refused, or it breaks the command down. -/
theorem respond_document :
    respond look (options verbosity limit ++ ["--ast", name]) =
      match programOf json with
      | .ok (some program) =>
        runBody look verbosity (limit.bind Limit.ofText?) reportRun (bodyOf program)
      | .ok none => .breakdown .tooLarge
      | .error message => refusal (normalize name) message := by
  rw [respond, ofWords_runDocument isLimit verbosity isName]
  simp only [Request.respond, found, source_eq, perform, runDocument, read_eq]
  rfl

/-- A command line that names a document runs the program that the document denotes, at the verbosity
and under the limit that the options choose; or the document denotes no program, and is refused in
words with status one.  Only if the document gives an integer past all doubles for a double, and is
refused for that, does the command line break down. -/
theorem document_runs_or_refused :
    (∃ body, Denotes json body ∧ respond look (options verbosity limit ++ ["--ast", name]) =
      runBody look verbosity (limit.bind Limit.ofText?) reportRun body) ∨
    ((∀ body, ¬Denotes json body) ∧
      ∃ message, respond look (options verbosity limit ++ ["--ast", name]) =
        refusal (normalize name) message) ∨
    Oversizes json ∧ load json = .error .tooLarge ∧
      respond look (options verbosity limit ++ ["--ast", name]) = .breakdown .tooLarge := by
  have response := respond_document isName found source_eq read_eq verbosity isLimit
  obtain ⟨line, body, loaded, program_eq⟩ | ⟨none, message, refused⟩ | ⟨failed, large⟩ :=
    programOf_cases json
  · rw [program_eq] at response
    exact .inl ⟨body, ⟨line, loaded⟩, response⟩
  · rw [refused] at response
    exact .inr (.inl ⟨none, message, response⟩)
  · rw [large] at response
    exact .inr (.inr ⟨oversizes_of_load failed, failed, response⟩)

end Requests

/-! ## Documents that are no programs -/

/-- A program of one statement, whose type is not one of nodes. -/
def lawlessDocument : Json :=
  .object [("type", .string "Program"), ("body", .array [.object [("type", .string "Goto")]])]

/-- A document with a type that there is not is refused. -/
theorem lawlessDocument_refused :
    ∃ message, respond (store (fun _ => .nothing) "goto.json" lawlessDocument.write)
        ["-v", "--max-depth=3", "--ast", "./goto.json"] = refusal "goto.json" message := by
  have name_eq : normalize "./goto.json" = "goto.json" := by decide +kernel
  have found : store (fun _ => .nothing) "goto.json" lawlessDocument.write
      (normalize "./goto.json") = .file lawlessDocument.write.toUTF8 := by
    rw [name_eq, store_self]
  have isLimit : IsLimit (some "3") := by decide +kernel
  have readable : lawlessDocument.IsReadable := by
    simp [lawlessDocument, Json.IsReadable, Json.AreReadable, Json.HaveReadable]
  have failed : load lawlessDocument = .error (.unknownType "Goto") := by
    simp [lawlessDocument, load, loadItems, loadParts, typeName, loadNode, loadOne, Parts.line,
      Parts.get, List.lookup, bind, Except.bind, pure, Except.pure]
  obtain ⟨body, ⟨line, loaded⟩, -⟩ | ⟨-, message, refused⟩ | ⟨-, large, -⟩ :=
    document_runs_or_refused (by decide +kernel) found
      (decode_toUTF8 (Json.return_not_mem_write _)) (Json.read_write readable) 1 isLimit
  · cases failed.symm.trans loaded
  · exact ⟨message, name_eq ▸ refused⟩
  · cases failed.symm.trans large

/-- A program of one statement, a double that is given as an integer. -/
def doubleDocument (integer : ℤ) : Json :=
  .object [("type", .string "Program"), ("body", .array
    [.object [("type", .string "FloatLiteral"), ("value", .integer integer)]])]

section Large

variable {integer : ℤ}

/-- A document with a short integer for a double is readable. -/
theorem isReadable_doubleDocument (short : IsShort integer) :
    (doubleDocument integer).IsReadable := by
  simpa [doubleDocument, Json.IsReadable, Json.AreReadable, Json.HaveReadable, IsShort] using short

/-- If the integer is past all doubles, it is not loaded, for this reason. -/
theorem load_doubleDocument (large : Decimal.pastDoubles ≤ integer.natAbs) :
    load (doubleDocument integer) = .error .tooLarge := by
  have none_eq := Decimal.ofInteger?_eq_none_iff.mpr large
  simp [doubleDocument, load, loadItems, loadParts, typeName, loadNode, loadOne, Parts.line,
    Parts.get, List.lookup, bind, Except.bind, pure, Except.pure, Expectation.float, none_eq]

/-- It then denotes no program. -/
theorem not_denotes_doubleDocument (large : Decimal.pastDoubles ≤ integer.natAbs)
    (body : List Node) : ¬Denotes (doubleDocument integer) body := by
  rintro ⟨line, loaded⟩
  cases (load_doubleDocument large).symm.trans loaded

/-- Nothing refuses the document if the integer is past all doubles. -/
theorem respond_doubleDocument (large : Decimal.pastDoubles ≤ integer.natAbs)
    (short : IsShort integer) {name : String} (isName : IsName name) (look : String → Found) :
    respond (store look (normalize name) (doubleDocument integer).write) ["--ast", name] =
      .breakdown .tooLarge := by
  have unlimited : IsLimit none := by decide
  have response := respond_document isName (store_self look _ _)
    (decode_toUTF8 (Json.return_not_mem_write _))
    (Json.read_write (isReadable_doubleDocument short)) 0 unlimited
  rw [programOf, load_doubleDocument large] at response
  exact response

end Large

/-- The least power of ten that is past all doubles is given for a double: the text is read, and
denotes no program, but nothing is reported. -/
theorem doubleDocument_unreported :
    Json.read (doubleDocument (10 ^ 309)).write = .ok (doubleDocument (10 ^ 309)) ∧
      (∀ body, ¬Denotes (doubleDocument (10 ^ 309)) body) ∧ ∀ message,
        respond (store (fun _ => .nothing) "a.json" (doubleDocument (10 ^ 309)).write)
          ["--ast", "a.json"] ≠ refusal "a.json" message := by
  have large : Decimal.pastDoubles ≤ ((10 : ℤ) ^ 309).natAbs := by decide +kernel
  have short : IsShort ((10 : ℤ) ^ 309) := by
    rw [IsShort]
    decide +kernel
  refine ⟨Json.read_write (isReadable_doubleDocument short), not_denotes_doubleDocument large,
    fun message same => ?_⟩
  have name_eq : normalize "a.json" = "a.json" := by decide +kernel
  have isName : IsName "a.json" := by decide +kernel
  have response := respond_doubleDocument large short isName fun _ => .nothing
  rw [name_eq] at response
  exact breakdown_ne_refusal _ _ _ (response.symm.trans same)

end Scriptlet.CommandLine
