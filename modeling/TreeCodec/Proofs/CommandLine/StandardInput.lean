import TreeCodec.Proofs.CommandLine.Pipe
import TreeCodec.Proofs.Grammar.Spacing

/-!
A text is converted alike from the argument and from the standard input. All
line ends behind the standard input are taken off, those of the text itself
included. The grammar has read such line ends as blanks in front of an omitted
tree, and it reads the same tree where there are none.
-/

namespace TreeCodec

open Text

theorem isBlank_of_isLineEnd {c : Char} (h : CommandLine.isLineEnd c = true) :
    isBlank c = true := by
  simp only [CommandLine.isLineEnd, Bool.or_eq_true, decide_eq_true_eq] at h
  obtain rfl | rfl := h <;> decide

/-- A text that is parsed may lose the line ends behind it. -/
theorem Tree.parse?_trimEnd {text : List Char} {t : Tree}
    (h : Tree.parse? text = .ok t) :
    Tree.parse? (trimEnd CommandLine.isLineEnd text) = .ok t := by
  obtain ⟨ending, htext, hending⟩ := exists_trimEnd_append CommandLine.isLineEnd text
  have hblank : ∀ c ∈ ending, isBlank c = true :=
    fun c hc => isBlank_of_isLineEnd (hending c hc)
  rw [htext, ← List.append_nil (_ ++ ending)] at h
  have hparsed := Tree.parse?_without_blanks hblank (fun _ => rfl) h
  rwa [List.append_nil] at hparsed

namespace CommandLine

namespace Conversion

variable {c : Conversion} {s : String}

theorem reads_input (hinput : c.input = some s) {text : List Char}
    (h : c.Reads text) : text = s.toList := by
  cases h with
  | input hinput' =>
    rw [hinput] at hinput'
    cases hinput'
    rfl
  | stdin hnone =>
    rw [hinput] at hnone
    cases hnone

/-- Line ends that follow a text on the standard input do not matter. -/
theorem reads_stdin (hinput : c.input = none) {ending : List Char}
    (hending : ∀ d ∈ ending, d = '\n' ∨ d = '\r')
    (hstdin : c.stdin = (s ++ String.ofList ending).toUTF8) :
    c.Reads (trimEnd isLineEnd s.toList) := by
  have hall : ending.all isLineEnd = true :=
    List.all_eq_true.mpr fun d hd => by simpa [isLineEnd] using hending d hd
  have hreads := Reads.stdin hinput hstdin
  rwa [String.toList_append, String.toList_ofList, trimEnd_append _ _ hall] at hreads

end Conversion

/-- Where a conversion of a text that is given as the argument ends with status
0, the same conversion without the argument does so as well and writes the same,
if the text stands on the standard input, with any number of line ends behind
it. This holds of all arguments that ask for these conversions, and such
arguments there are. -/
theorem run_convert_stdin {direct : List String} {options : Options} {s : String}
    {names : List String}
    (hdirect : Command.ofArguments direct = .ok (.convert options (some s) names))
    {files : List Settings.File} {stdin : ByteArray}
    (hstatus : (run direct files stdin).status = 0) {ending : List Char}
    (hending : ∀ c ∈ ending, c = '\n' ∨ c = '\r') :
    (∀ piped : List String,
      Command.ofArguments piped = .ok (.convert options none names) →
      let result := run piped files (s ++ String.ofList ending).toUTF8
      result.status = 0 ∧ result.output = (run direct files stdin).output ∧
        result.errors = (run direct files stdin).errors) ∧
    Command.ofArguments (convertArguments options (some s) names)
      = .ok (.convert options (some s) names) ∧
    Command.ofArguments (convertArguments options none names)
      = .ok (.convert options none names) := by
  let c : Conversion := ⟨options, some s, names, files, stdin⟩
  obtain ⟨settings, text, t, hsettings, htext, htree, hnames⟩ : c.Possible := by
    obtain hpossible | hcrash | ⟨failure, h⟩ :=
      c.possible_or_crashes_or_exists_firstFailure
    · exact hpossible
    · rw [run_of_crashes (c := c) hdirect hcrash] at hstatus
      cases hstatus
    · rw [run_of_firstFailure (c := c) hdirect h] at hstatus
      cases hstatus
  obtain rfl := Conversion.reads_input rfl htext
  obtain ⟨formats, hformats⟩ := Format.exists_map_name hnames
  have hheads : ∀ name ∈ names, name.toList.head? ≠ some '-' := by
    intro name hname
    have hne : names ≠ [] := List.ne_nil_of_mem hname
    rw [Conversion.selected_of_ne_nil hne] at hnames
    exact Format.head?_ne_hyphen (hnames name hname)
  refine ⟨?_, ?_, ?_⟩
  · intro piped hpiped result
    let p : Conversion := ⟨options, none, names, files, (s ++ String.ofList ending).toUTF8⟩
    have hreads : p.Reads (trimEnd isLineEnd s.toList) :=
      Conversion.reads_stdin rfl hending rfl
    have hresult : result = _ := run_of_stages (c := p) hpiped hsettings hreads
      (Tree.parse?_trimEnd htree) hformats
    have hgiven := run_of_stages (c := c) hdirect hsettings htext htree hformats
    have hsame : result = run direct files stdin := hresult.trans hgiven.symm
    rw [hsame]
    exact ⟨hstatus, rfl, rfl⟩
  · refine ofArguments_convertArguments options ?_ hheads
    intro text htext
    cases htext
    exact Tree.eq_hyphen_of_parse? htree
  · exact ofArguments_convertArguments options (fun _ hnone => nomatch hnone) hheads

/-- The text itself ends with a line end, in front of the tree that it leaves
out; three more follow on the standard input. -/
theorem run_convert_stdin_omitted :
    let direct := ["convert", "+-\n", "-f", "bracket", "-f", "decimal"]
    let piped := ["convert", "-f", "bracket", "-f", "decimal"]
    let ending := ['\r', '\n', '\n']
    Command.ofArguments direct
      = .ok (.convert ⟨none, none⟩ (some "+-\n") ["bracket", "decimal"]) ∧
    (run direct [] .empty).status = 0 ∧ (∀ c ∈ ending, c = '\n' ∨ c = '\r') ∧
    (run piped [] ("+-\n" ++ String.ofList ending).toUTF8).status = 0 ∧
    (run piped [] ("+-\n" ++ String.ofList ending).toUTF8).output
      = (run direct [] .empty).output := by
  intro direct piped ending
  have hdirect : Command.ofArguments direct
      = .ok (.convert ⟨none, none⟩ (some "+-\n") ["bracket", "decimal"]) := by rfl
  have hpiped : Command.ofArguments piped
      = .ok (.convert ⟨none, none⟩ none ["bracket", "decimal"]) := by rfl
  have homitted : Predictive.Reads [] .empty [] := .omitted fun c hc => nomatch hc
  have hreads : Predictive.Reads ['+', '-', '\n'] (.node .empty .empty) [] :=
    .plus (.dash ['\n']) homitted
  let c : Conversion :=
    ⟨⟨none, none⟩, some "+-\n", ["bracket", "decimal"], [], .empty⟩
  have hselected : c.selected Settings.builtIn
      = [Format.bracket, Format.decimal].map Format.name := rfl
  have hresult := run_of_stages (c := c) hdirect
    (Settings.Sources.load_nil (some localFile)) (.input rfl)
    (Predictive.parse?_eq_ok_iff.mpr hreads) hselected
  have hstatus := congrArg Result.status hresult
  have hending : ∀ c ∈ ending, c = '\n' ∨ c = '\r' := by simp [ending]
  obtain ⟨hsame, -⟩ := run_convert_stdin hdirect hstatus hending
  obtain ⟨hstatus', houtput, -⟩ := hsame piped hpiped
  exact ⟨hdirect, hstatus, hending, hstatus', houtput⟩

end CommandLine

end TreeCodec
