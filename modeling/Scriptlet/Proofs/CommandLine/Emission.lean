import Scriptlet.Proofs.CommandLine.Options
import Scriptlet.Proofs.Document.Readable
import Scriptlet.Proofs.Document.RoundTrip

/-! # Emitted programs run alike

The document that a program is emitted to runs as the program itself does: its text survives being
stored in a file, reads back as the same data, and loads to the same program, lines included.

Main definitions:

* `store`: what is found at the paths after a text has been written in a file.

Main statements:

* `decode_toUTF8`: a text without carriage returns survives being stored.
* `programOf_emitted`: the text of a program's document denotes the program.
* `emitted_runs_alike`: emitting a program and running its document is running the program. -/

namespace Scriptlet.CommandLine

/-- What is found at the paths after a text has been written in a file. -/
def store (look : String → Found) (path text : String) : String → Found := fun other =>
  if other = path then .file text.toUTF8 else look other

/-- A file that has been written holds what was written. -/
@[simp] theorem store_self (look : String → Found) (path text : String) :
    store look path text path = .file text.toUTF8 :=
  if_pos rfl

/-- All other files are as before. -/
theorem store_of_ne {look : String → Found} {path text other : String} (ne : other ≠ path) :
    store look path text other = look other :=
  if_neg ne

/-! ## Texts in files -/

/-- A text without carriage returns is read as it is written. -/
theorem unifyNewlines_of_not_mem {text : List Char} (absent : '\r' ∉ text) :
    Text.unifyNewlines text = text := by
  fun_induction Text.unifyNewlines text with
  | case1 => rfl
  | case2 | case3 => simp at absent
  | case4 character rest _ _ ih =>
    rw [List.mem_cons, not_or] at absent
    rw [ih absent.2]

/-- A text without carriage returns survives being stored in a file. -/
theorem decode_toUTF8 {text : String} (absent : '\r' ∉ text.toList) :
    decode text.toUTF8 = some text := by
  have bytes : String.fromUTF8? text.toUTF8 = some text := by
    rw [String.toUTF8_eq_toByteArray, String.fromUTF8?, dif_pos text.isValidUTF8]
    rfl
  rw [decode, bytes, Option.map_some, unifyNewlines_of_not_mem absent, String.ofList_toList]

/-! ## Paths -/

/-- The document of a source is another file. -/
theorem documentFile_ne (path : String) : path ≠ documentFile path := by
  intro same
  have := congrArg (fun text => text.toList.length) same
  simp [documentFile] at this

/-- The trace is no document. -/
theorem traceFile_ne (path : String) : traceFile ≠ documentFile path := by
  intro same
  have := congrArg (fun text => text.toList.getLast?) same
  simp [documentFile, traceFile] at this

/-! ## Programs -/

/-- A source text denotes a program on line zero. -/
theorem exists_program {source : String} {program : Node}
    (accepted : Program.ofSource source = .ok program) : ∃ body, program = .program 0 body := by
  unfold Program.ofSource at accepted
  split at accepted
  · cases accepted
  · simp only [Program.ofTokens, Grammar.bind_eq_ok, Grammar.pure_eq_ok] at accepted
    obtain ⟨clauses, -, body, -, rfl⟩ := accepted
    exact ⟨body, rfl⟩

/-- The text of a program's document denotes the program. -/
theorem programOf_emitted {source : String} {program : Node}
    (accepted : Program.ofSource source = .ok program)
    (short : Text.countNewlines source.toList + 1 < 10 ^ Decimal.digitLimit) :
    Json.read program.toJson.write = .ok program.toJson ∧
      programOf program.toJson = .ok (some program) := by
  refine ⟨Json.read_write (isReadable_ofSource short accepted), ?_⟩
  obtain ⟨body, rfl⟩ := exists_program accepted
  rw [programOf, Document.load_toJson]

/-- A run depends on the file for its trace only. -/
theorem runBody_store {look : String → Found} {path : String} (ne : traceFile ≠ path)
    (text : String) (verbosity : Int) (limit : Option Limit) (reportError : Error → Response)
    (body : List Node) :
    runBody (store look path text) verbosity limit reportError body =
      runBody look verbosity limit reportError body := by
  rw [runBody, runBody, store_of_ne ne]

/-! ## Requests -/

section Requests

variable {look : String → Found} {path source : String} {content : ByteArray} {program : Node}
  (found : look path = .file content) (source_eq : decode content = some source)
  (accepted : Program.ofSource source = .ok program)
include found source_eq accepted

/-- The document of an accepted source is written next to it. -/
theorem respond_emit (writable : (look (documentFile path)).obstacle? = none) (verbosity : Nat)
    (limit : Option Limit) :
    (Request.task .emit path verbosity limit).respond look =
      { ending := .exit 0, output := lines [documentFile path]
        files := [(documentFile path, program.toJson.write)] } := by
  simp only [Request.respond, found, source_eq, perform, withProgram, accepted, emitDocument,
    writable]

/-- An accepted source is run as its program. -/
theorem respond_runSource (verbosity : Nat) (limit : Option Limit) :
    (Request.task .runSource path verbosity limit).respond look =
      runBody look verbosity limit reportRun (bodyOf program) := by
  simp only [Request.respond, found, source_eq, perform, withProgram, accepted]

/-- The document of a program, once it is stored, runs as the program itself does. -/
theorem respond_runDocument (short : Text.countNewlines source.toList + 1 < 10 ^ Decimal.digitLimit)
    (verbosity : Nat) (limit : Option Limit) :
    (Request.task .runDocument (documentFile path) verbosity limit).respond
        (store look (documentFile path) program.toJson.write) =
      (Request.task .runSource path verbosity limit).respond look := by
  have stored := decode_toUTF8 (Json.return_not_mem_write program.toJson)
  obtain ⟨read_eq, program_eq⟩ := programOf_emitted accepted short
  rw [respond_runSource found source_eq accepted]
  simp only [Request.respond, store_self, stored, perform, runDocument, read_eq, program_eq]
  exact runBody_store (traceFile_ne path) _ verbosity limit reportRun (bodyOf program)

end Requests

/-- Emitting a program and running its document is running the program, whatever the verbosity and
the limit: the document is written in full, what it holds is the program with its lines, and the two
runs print, report and trace the same and end alike.  All that is asked is that a file can be
written at the path of the document, and that the lines of the source have numbers that are short
enough to be read. -/
theorem emitted_runs_alike {look : String → Found} {name source : String} {content : ByteArray}
    {program : Node} (isName : IsName name) (found : look (normalize name) = .file content)
    (source_eq : decode content = some source) (accepted : Program.ofSource source = .ok program)
    (short : Text.countNewlines source.toList + 1 < 10 ^ Decimal.digitLimit)
    (writable : (look (documentFile (normalize name))).obstacle? = none) :
    ∃ text json,
      (∀ verbosity limit, IsLimit limit →
        respond look (options verbosity limit ++ ["--emit-ast", name]) =
          { ending := .exit 0, output := lines [documentFile (normalize name)]
            files := [(documentFile (normalize name), text)] }) ∧
      Json.read text = .ok json ∧ Document.load json = .ok (.node program) ∧
      ∀ document verbosity limit, IsName document →
        normalize document = documentFile (normalize name) → IsLimit limit →
        respond (store look (documentFile (normalize name)) text)
            (options verbosity limit ++ ["--ast", document]) =
          respond look (options verbosity limit ++ [name]) := by
  refine ⟨program.toJson.write, program.toJson, ?_, (programOf_emitted accepted short).1,
    Document.load_toJson program, ?_⟩
  · intro verbosity limit isLimit
    rw [respond, ofWords_emit isLimit verbosity isName]
    exact respond_emit found source_eq accepted writable verbosity _
  · intro document verbosity limit isDocument document_eq isLimit
    rw [respond, ofWords_runDocument isLimit verbosity isDocument, document_eq, respond,
      ofWords_runSource isLimit verbosity isName]
    exact respond_runDocument found source_eq accepted short verbosity _

/-- A program with a double and with escapes, on three lines. -/
def sampleSource : String :=
  "// halves \"¿\"\nvar half = 0.5;\nprint(\"é\\t\\\\\", half * 7);\n"

/-- A place with one program in it. -/
def samplePlace : String → Found :=
  store (fun _ => .nothing) "a/half.js" sampleSource

/-- A sample runs alike from its source and from the document that is written for it. -/
theorem sampleSource_runs_alike :
    ∃ program text json, Program.ofSource sampleSource = .ok program ∧
      respond samplePlace ["-v", "--emit-ast", "a//half.js"] =
        { ending := .exit 0, output := "a/half.js.ast.json\n"
          files := [("a/half.js.ast.json", text)] } ∧
      Json.read text = .ok json ∧ Document.load json = .ok (.node program) ∧
      respond (store samplePlace "a/half.js.ast.json" text)
          ["-v", "-v", "--max-depth=3", "--ast", "./a/half.js.ast.json"] =
        respond samplePlace ["-v", "-v", "--max-depth=3", "a//half.js"] := by
  have accepted : (Program.ofSource sampleSource).isOk = true := by decide +kernel
  obtain ⟨program, accepted⟩ : ∃ program, Program.ofSource sampleSource = .ok program := by
    cases outcome : Program.ofSource sampleSource with
    | ok program => exact ⟨program, rfl⟩
    | error failure => simp [outcome, Except.isOk, Except.toBool] at accepted
  have name_eq : normalize "a//half.js" = "a/half.js" := by decide +kernel
  have document_eq : documentFile "a/half.js" = "a/half.js.ast.json" := by decide +kernel
  have place_eq : normalize "./a/half.js.ast.json" = documentFile (normalize "a//half.js") := by
    decide +kernel
  have found : samplePlace (normalize "a//half.js") = .file sampleSource.toUTF8 := by
    rw [name_eq]
    exact store_self _ _ _
  have free : samplePlace (documentFile (normalize "a//half.js")) = .nothing := by
    rw [name_eq]
    exact store_of_ne (documentFile_ne "a/half.js").symm
  obtain ⟨text, json, emitted, read_eq, load_eq, alike⟩ :=
    emitted_runs_alike (by decide +kernel) found (decode_toUTF8 (by decide +kernel)) accepted
      (by decide +kernel) (by rw [free]; rfl)
  have emits := emitted 1 none (by decide)
  have runs := alike "./a/half.js.ast.json" 2 (some "3") (by decide +kernel) place_eq
    (by decide +kernel)
  rw [name_eq, document_eq] at emits runs
  exact ⟨program, text, json, accepted, emits, read_eq, load_eq, runs⟩

end Scriptlet.CommandLine
