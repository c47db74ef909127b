import Mathlib
import TreeCodec.CommandLine
import TreeCodec.Proofs.Format.Notation
import TreeCodec.Proofs.Settings.BuiltIn
import TreeCodec.Proofs.Settings.Crash

/-!
A conversion does all of its work or none. Its stages are the settings, the
input, the tree and the formats, each of which needs those before it. What can
go wrong is said here without the program: `FirstFailure` names the stage that
cannot be done behind stages that can. The program reports exactly this one and
writes nothing, and where there is none it writes the text of every format.

There is one exception, and no error that is reported: settings that ask for a
position that lies nowhere crash the program. It has written nothing by then.
-/

namespace TreeCodec

open Text

namespace Format

/-- Some format goes by the name. -/
def Registered (name : String) : Prop :=
  ∃ format ∈ all, format.name = name

instance (name : String) : Decidable (Registered name) :=
  inferInstanceAs (Decidable (∃ format ∈ all, format.name = name))

theorem exists_map_name {names : List String}
    (h : ∀ name ∈ names, Registered name) :
    ∃ formats : List Format, names = formats.map Format.name := by
  induction names with
  | nil => exact ⟨[], rfl⟩
  | cons name names ih =>
    obtain ⟨hname, hnames⟩ := List.forall_mem_cons.mp h
    obtain ⟨format, -, rfl⟩ := hname
    obtain ⟨formats, rfl⟩ := ih hnames
    exact ⟨format :: formats, rfl⟩

theorem registered_of_mem_map_name {formats : List Format} {name : String}
    (h : name ∈ formats.map Format.name) : Registered name := by
  obtain ⟨format, -, rfl⟩ := List.mem_map.mp h
  exact ⟨format, by cases format <;> decide, rfl⟩

variable (fill : Fill) (t : Tree)

theorem renderNamed_name (format : Format) :
    renderNamed fill t format.name = .ok (format.render fill t) := by
  rw [renderNamed, named?_name]
  rfl

theorem renderNamed_of_not_registered {name : String} (h : ¬Registered name) :
    renderNamed fill t name = .error (.unknownFormat name) := by
  have hnone : all.find? (·.name == name) = none := by
    rw [List.find?_eq_none]
    intro format hformat hname
    exact h ⟨format, hformat, beq_iff_eq.mp hname⟩
  rw [renderNamed, named?, hnone]
  rfl

/-- No format refuses a tree. -/
theorem renderNamed_ne_cannotRender (name format reason : String) :
    renderNamed fill t name ≠ .error (.cannotRender format reason) := by
  by_cases h : Registered name
  · obtain ⟨known, -, rfl⟩ := h
    rw [renderNamed_name]
    exact fun hsame => nomatch hsame
  · rw [renderNamed_of_not_registered fill t h]
    exact fun hsame => nomatch hsame

end Format

namespace CommandLine

def isLineEnd (c : Char) : Bool :=
  c = '\n' || c = '\r'

section Rendering

variable (fill : Fill) (t : Tree)

theorem renderAll_cons (name : String) (names : List String) :
    renderAll fill t (name :: names)
      = (Format.renderNamed fill t name).bind fun text =>
          (renderAll fill t names).map ((name, text) :: ·) := by
  rw [renderAll, List.mapM_cons]
  cases Format.renderNamed fill t name with
  | error cause => rfl
  | ok text => rfl

theorem renderAll_map_name (formats : List Format) :
    renderAll fill t (formats.map Format.name)
      = .ok (formats.map fun format => (format.name, format.render fill t)) := by
  induction formats with
  | nil => rfl
  | cons format formats ih =>
    rw [List.map_cons, renderAll_cons, Format.renderNamed_name, ih]
    rfl

/-- The first name that no format goes by is reported, whatever comes after. -/
theorem renderAll_append_of_not_registered (known : List Format) {name : String}
    (h : ¬Format.Registered name) (later : List String) :
    renderAll fill t (known.map Format.name ++ name :: later)
      = .error (.unknownFormat name) := by
  induction known with
  | nil =>
    rw [List.map_nil, List.nil_append, renderAll_cons,
      Format.renderNamed_of_not_registered fill t h]
    rfl
  | cons format known ih =>
    rw [List.map_cons, List.cons_append, renderAll_cons, Format.renderNamed_name, ih]
    rfl

end Rendering

/-- A conversion as it is asked for, with the files and the standard input that
it finds. -/
structure Conversion where
  options : Options
  input : Option String
  formats : List String
  files : List Settings.File
  stdin : ByteArray

namespace Conversion

def Loads (c : Conversion) (settings : Settings) : Prop :=
  c.options.sources.load c.files = .ok settings

/-- The text that is converted: the input as it is, or what the standard input
says in UTF-8, without the line ends behind it. -/
inductive Reads (c : Conversion) : List Char → Prop where
  | input {text : String} (hinput : c.input = some text) : Reads c text.toList
  | stdin {text : String} (hinput : c.input = none)
    (hstdin : c.stdin = text.toUTF8) :
    Reads c (trimEnd isLineEnd text.toList)

/-- The names of the formats that are asked for, or else those of the settings. -/
def selected (c : Conversion) (settings : Settings) : List String :=
  if c.formats.isEmpty then settings.formats else c.formats

/-- The files ask for a position that lies nowhere. -/
def Crashes (c : Conversion) : Prop :=
  c.options.sources.load c.files = .error .crash

/-- Every stage can be done. -/
def Possible (c : Conversion) : Prop :=
  ∃ settings text t, c.Loads settings ∧ c.Reads text ∧ Tree.parse? text = .ok t ∧
    ∀ name ∈ c.selected settings, Format.Registered name

/-- The first stage that cannot be done, or the first format in it. -/
inductive FirstFailure (c : Conversion) : Failure → Prop where
  | settings {cause : Settings.Error}
    (h : c.options.sources.load c.files = .error (.reported cause)) :
    FirstFailure c (.settings cause)
  | input {settings : Settings} (hsettings : c.Loads settings)
    (hinput : c.input = none) (h : ¬c.stdin.IsValidUTF8) :
    FirstFailure c .inputNotText
  | tree {settings : Settings} {text : List Char} {cause : ParseFailure}
    (hsettings : c.Loads settings) (htext : c.Reads text)
    (h : Tree.parse? text = .error cause) : FirstFailure c (.tree cause)
  | format {settings : Settings} {text : List Char} {t : Tree}
    {known later : List String} {name : String} (hsettings : c.Loads settings)
    (htext : c.Reads text) (htree : Tree.parse? text = .ok t)
    (hnames : c.selected settings = known ++ name :: later)
    (hknown : ∀ name ∈ known, Format.Registered name)
    (h : ¬Format.Registered name) :
    FirstFailure c (.format (.unknownFormat name))

/-- What the program makes of the conversion. -/
def outcome (c : Conversion) : Except Stop (List Char) :=
  conversion c.options c.input c.formats c.files c.stdin

/-- What it makes of a tree, as the last stage. -/
def outcomeOf (c : Conversion) (settings : Settings) (t : Tree) :
    Except Failure (List Char) :=
  ((renderAll settings.layout.fill t (c.selected settings)).mapError .format).map
    report

end Conversion

theorem readInput_toUTF8 (text : String) :
    readInput text.toUTF8 = .ok (trimEnd isLineEnd text.toList) := by
  have hdecoded : String.fromUTF8? text.toUTF8 = some text :=
    dif_pos text.isValidUTF8
  rw [readInput, hdecoded]
  rfl

theorem readInput_of_not_valid {stdin : ByteArray} (h : ¬stdin.IsValidUTF8) :
    readInput stdin = .error .inputNotText := by
  have hdecoded : String.fromUTF8? stdin = none := dif_neg h
  rw [readInput, hdecoded]

namespace Conversion

variable {c : Conversion} {settings : Settings} {text : List Char} {t : Tree}

/-- What is left to do with the settings loaded. -/
theorem outcome_of_loads (hsettings : c.Loads settings) :
    c.outcome
      = ((match c.input with
          | some text => Except.ok text.toList
          | none => readInput c.stdin).bind fun text =>
        ((Tree.parse? text).mapError Failure.tree).bind
          (c.outcomeOf settings)).mapError .failed := by
  rw [outcome, conversion, loadSettings, hsettings]
  cases c.input <;> rfl

/-- What is left to do with the text read as well. -/
theorem outcome_of_reads (hsettings : c.Loads settings) (htext : c.Reads text) :
    c.outcome
      = (((Tree.parse? text).mapError Failure.tree).bind
          (c.outcomeOf settings)).mapError .failed := by
  rw [outcome_of_loads hsettings]
  cases htext with
  | input hinput =>
    rw [hinput]
    rfl
  | stdin hinput hstdin =>
    rw [hinput, hstdin]
    simp only [readInput_toUTF8]
    rfl

/-- What is left to do with the tree known as well. -/
theorem outcome_of_parsed (hsettings : c.Loads settings) (htext : c.Reads text)
    (htree : Tree.parse? text = .ok t) :
    c.outcome = (c.outcomeOf settings t).mapError .failed := by
  rw [outcome_of_reads hsettings htext, htree]
  rfl

theorem outcome_eq_ok (hsettings : c.Loads settings) (htext : c.Reads text)
    (htree : Tree.parse? text = .ok t) {formats : List Format}
    (hnames : c.selected settings = formats.map Format.name) :
    c.outcome
      = .ok (report (formats.map fun format =>
          (format.name, format.render settings.layout.fill t))) := by
  rw [outcome_of_parsed hsettings htext htree, outcomeOf, hnames,
    renderAll_map_name]
  rfl

theorem outcome_eq_error {failure : Failure} (h : c.FirstFailure failure) :
    c.outcome = .error (.failed failure) := by
  cases h with
  | settings h =>
    rw [outcome, conversion, loadSettings, h]
    rfl
  | input hsettings hinput h =>
    rw [outcome_of_loads hsettings, hinput]
    simp only [readInput_of_not_valid h]
    rfl
  | tree hsettings htext h =>
    rw [outcome_of_reads hsettings htext, h]
    rfl
  | format hsettings htext htree hnames hknown h =>
    obtain ⟨formats, rfl⟩ := Format.exists_map_name hknown
    rw [outcome_of_parsed hsettings htext htree, outcomeOf, hnames,
      renderAll_append_of_not_registered _ _ formats h]
    rfl

theorem outcome_eq_crashed (h : c.Crashes) : c.outcome = .error .crashed := by
  have hload : c.options.sources.load c.files = .error .crash := h
  rw [outcome, conversion, loadSettings, hload]
  rfl

theorem exists_reads_or_input (c : Conversion) :
    (∃ text, c.Reads text) ∨ c.input = none ∧ ¬c.stdin.IsValidUTF8 := by
  cases hinput : c.input with
  | some text => exact .inl ⟨_, .input hinput⟩
  | none =>
    by_cases hvalid : c.stdin.IsValidUTF8
    · have hdecoded : c.stdin = (String.fromUTF8 c.stdin hvalid).toUTF8 := rfl
      exact .inl ⟨_, .stdin hinput hdecoded⟩
    · exact .inr ⟨rfl, hvalid⟩

/-- A conversion has a first failure unless all of it is possible or it crashes. -/
theorem possible_or_crashes_or_exists_firstFailure (c : Conversion) :
    c.Possible ∨ c.Crashes ∨ ∃ failure, c.FirstFailure failure := by
  cases hsettings : c.options.sources.load c.files with
  | error failure =>
    cases failure with
    | reported cause => exact .inr (.inr ⟨_, .settings hsettings⟩)
    | crash => exact .inr (.inl hsettings)
  | ok settings =>
    obtain ⟨text, htext⟩ | ⟨hinput, hvalid⟩ := c.exists_reads_or_input
    · cases htree : Tree.parse? text with
      | error cause => exact .inr (.inr ⟨_, .tree hsettings htext htree⟩)
      | ok t =>
        cases hunknown : (c.selected settings).find? (¬Format.Registered ·) with
        | none =>
          refine .inl ⟨settings, text, t, hsettings, htext, htree, ?_⟩
          intro name hname
          simpa using List.find?_eq_none.mp hunknown name hname
        | some name =>
          obtain ⟨hname, known, later, hnames, hknown⟩ :=
            List.find?_eq_some_iff_append.mp hunknown
          refine .inr (.inr ⟨_, .format hsettings htext htree hnames ?_ ?_⟩)
          · intro name hname
            simpa using hknown name hname
          · simpa using hname
    · exact .inr (.inr ⟨_, .input hsettings hinput hvalid⟩)

end Conversion

section Run

variable {arguments : List String} {c : Conversion}
  (harguments : Command.ofArguments arguments
    = .ok (.convert c.options c.input c.formats))
include harguments

theorem run_of_outcome_ok {output : List Char} (h : c.outcome = .ok output) :
    run arguments c.files c.stdin = ⟨0, String.ofList output, ""⟩ := by
  rw [Conversion.outcome] at h
  rw [run, harguments]
  simp only [Command.run, h, Except.map]

theorem run_of_outcome_error {stop : Stop} (h : c.outcome = .error stop) :
    run arguments c.files c.stdin = stop.result := by
  rw [Conversion.outcome] at h
  rw [run, harguments]
  simp only [Command.run, h, Except.map]

theorem run_of_firstFailure {failure : Failure} (h : c.FirstFailure failure) :
    run arguments c.files c.stdin = ⟨1, "", failure.message ++ "\n"⟩ :=
  run_of_outcome_error harguments (Conversion.outcome_eq_error h)

theorem run_of_crashes (h : c.Crashes) :
    run arguments c.files c.stdin = Stop.crashed.result :=
  run_of_outcome_error harguments (Conversion.outcome_eq_crashed h)

theorem run_of_stages {settings : Settings} {text : List Char} {t : Tree}
    (hsettings : c.Loads settings) (htext : c.Reads text)
    (htree : Tree.parse? text = .ok t) {formats : List Format}
    (hnames : c.selected settings = formats.map Format.name) :
    run arguments c.files c.stdin
      = ⟨0, String.ofList (report (formats.map fun format =>
          (format.name, format.render settings.layout.fill t))), ""⟩ :=
  run_of_outcome_ok harguments
    (Conversion.outcome_eq_ok hsettings htext htree hnames)

end Run

/-- Whatever the arguments for a conversion, the files and the standard input
are: it ends with status 0 and no message exactly if every stage can be done,
and then it has written the texts of all formats. Otherwise, unless it crashes,
there is just one first failure, the status is 1, nothing is written, and the
message is that of this failure. A crash has a status of its own and leaves
nothing written either, and there is none without a file in which a key has a
position that may lie nowhere. No format ever fails to render a tree. -/
theorem run_convert_allOrNothing {arguments : List String} {options : Options}
    {input : Option String} {formats : List String}
    (harguments : Command.ofArguments arguments
      = .ok (.convert options input formats))
    (files : List Settings.File) (stdin : ByteArray) :
    let c : Conversion := ⟨options, input, formats, files, stdin⟩
    let result := run arguments files stdin
    (result.status = 0 ∧ result.errors = "" ↔ c.Possible) ∧
    (∀ settings text t (selected : List Format), c.Loads settings →
      c.Reads text → Tree.parse? text = .ok t →
      c.selected settings = selected.map Format.name →
      result.output = String.ofList (report (selected.map fun format =>
        (format.name, format.render settings.layout.fill t)))) ∧
    (¬c.Possible → ¬c.Crashes → ∃! failure, c.FirstFailure failure) ∧
    (∀ failure, c.FirstFailure failure →
      result = ⟨1, "", failure.message ++ "\n"⟩) ∧
    (c.Crashes → result.status = 101 ∧ result.output = "" ∧
      ∃ entries, Settings.HasRiskyKey entries ∧
        (options.sources.localEntries files = .ok entries ∨
          options.sources.explicitEntries files = .ok entries)) ∧
    ∀ fill t name format reason,
      Format.renderNamed fill t name ≠ .error (.cannotRender format reason) := by
  intro c result
  have hfailed (failure : Failure) (h : c.FirstFailure failure) :
      result = ⟨1, "", failure.message ++ "\n"⟩ :=
    run_of_firstFailure (c := c) harguments h
  have hcrashed (h : c.Crashes) : result = Stop.crashed.result :=
    run_of_crashes (c := c) harguments h
  refine ⟨⟨?_, ?_⟩, ?_, ?_, hfailed, ?_, Format.renderNamed_ne_cannotRender⟩
  · rintro ⟨hstatus, -⟩
    obtain hpossible | hcrash | ⟨failure, h⟩ :=
      c.possible_or_crashes_or_exists_firstFailure
    · exact hpossible
    · rw [hcrashed hcrash] at hstatus
      cases hstatus
    · rw [hfailed failure h] at hstatus
      cases hstatus
  · rintro ⟨settings, text, t, hsettings, htext, htree, hnames⟩
    obtain ⟨selected, hselected⟩ := Format.exists_map_name hnames
    have hresult := run_of_stages (c := c) harguments hsettings htext htree hselected
    exact ⟨congrArg Result.status hresult, congrArg Result.errors hresult⟩
  · intro settings text t selected hsettings htext htree hselected
    exact congrArg Result.output
      (run_of_stages (c := c) harguments hsettings htext htree hselected)
  · intro himpossible hgoesOn
    obtain ⟨failure, h⟩ :=
      (c.possible_or_crashes_or_exists_firstFailure.resolve_left
        himpossible).resolve_left hgoesOn
    refine ⟨failure, h, ?_⟩
    intro other hother
    exact Stop.failed.inj (Except.error.inj
      ((Conversion.outcome_eq_error hother).symm.trans
        (Conversion.outcome_eq_error h)))
  · intro hcrash
    exact ⟨congrArg Result.status (hcrashed hcrash),
      congrArg Result.output (hcrashed hcrash),
      Settings.Sources.exists_hasRiskyKey_of_crash hcrash⟩

/-- A name that no format goes by stands between two that are good, and standard
input, which is not asked for, is not valid. -/
theorem run_convert_allOrNothing_unknownFormat :
    let arguments :=
      ["convert", "+--", "-f", "decimal", "-f", "nope", "-f", "prefix"]
    let c : Conversion :=
      ⟨⟨none, none⟩, some "+--", ["decimal", "nope", "prefix"], [], ⟨#[0xFF]⟩⟩
    Command.ofArguments arguments = .ok (.convert c.options c.input c.formats) ∧
    c.FirstFailure (.format (.unknownFormat "nope")) ∧ ¬c.Possible ∧
    run arguments c.files c.stdin
      = ⟨1, "", "Error: unknown format 'nope' (see treenum list-formats)\n"⟩ := by
  intro arguments c
  have harguments : Command.ofArguments arguments
      = .ok (.convert c.options c.input c.formats) := by rfl
  have hfirst : c.FirstFailure (.format (.unknownFormat "nope")) :=
    @Conversion.FirstFailure.format c _ _ _ ["decimal"] ["prefix"] "nope"
      (Settings.Sources.load_nil (some localFile)) (.input rfl)
      (Tree.node .empty .empty).parse?_prefixText rfl (by decide) (by decide)
  obtain ⟨hstatus, -, -, hfailed, -⟩ :=
    run_convert_allOrNothing harguments c.files c.stdin
  have hresult := hfailed _ hfirst
  refine ⟨harguments, hfirst, ?_, hresult⟩
  intro hpossible
  have hzero := (hstatus.mpr hpossible).1
  rw [hresult] at hzero
  cases hzero

/-- The built-in formats are three, so the local file counts back past the first
of them. The program crashes: it does not go on without the file, and neither
does it report an error. -/
theorem run_convert_pastFirst :
    let arguments := ["convert", "+--"]
    let localText := "'output.formats[-5]' = 'json'"
    let c : Conversion :=
      ⟨⟨none, none⟩, some "+--", [],
        [⟨["treenum.toml".toList], localText.toList⟩], .empty⟩
    Command.ofArguments arguments = .ok (.convert c.options c.input c.formats) ∧
    ¬c.Possible ∧ (¬∃ failure, c.FirstFailure failure) ∧
    (run arguments c.files c.stdin).status = 101 := by
  intro arguments localText c
  have harguments : Command.ofArguments arguments
      = .ok (.convert c.options c.input c.formats) := by rfl
  have hread : Toml.read? localText.toList
      = some [("output.formats[-5]".toList, .string "json".toList)] := by cbv
  have hmark : localText.toList.head? ≠ some '\ufeff' := by decide
  have hfile : Settings.findFile? c.files localFile
      = some ⟨["treenum.toml".toList], localText.toList⟩ := by rfl
  have hentries : c.options.sources.localEntries c.files
      = .ok [("output.formats[-5]".toList,
          .scalar (some "treenum.toml") (.text "json".toList))] := by
    rw [Settings.Sources.localEntries, Options.sources, Option.bind_some, hfile]
    simp only [Settings.File.entries, hmark, ↓reduceIte, hread]
    rfl
  have hcrash : c.Crashes :=
    Settings.Sources.crash_of_pastFirst (n := -5) hentries (by rfl) (by decide)
      (by decide)
  have hresult := run_of_crashes (c := c) harguments hcrash
  refine ⟨harguments, ?_, ?_, congrArg Result.status hresult⟩
  · rintro ⟨settings, -, -, hsettings, -⟩
    rw [Conversion.Loads, hcrash] at hsettings
    cases hsettings
  · rintro ⟨failure, hfirst⟩
    have hfailed := run_of_firstFailure (c := c) harguments hfirst
    rw [hresult] at hfailed
    cases hfailed

end CommandLine

end TreeCodec
