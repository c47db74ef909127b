import TreeCodec.Proofs.CommandLine.Conversion
import TreeCodec.Proofs.CommandLine.Invocation
import TreeCodec.Proofs.Grammar.WrittenForm

/-!
Two conversions in a row. What a conversion to a notation writes is the text of
the tree and a line end. The next conversion takes the line end off again and
reads the same tree, so it makes the same of it as a conversion of the first
text would have made. The bracket text of the empty tree is no exception: it is
an empty line.
-/

namespace TreeCodec

open Text

/-- Of the texts that write a tree, only the hyphen alone begins with one. -/
theorem Tree.eq_hyphen_of_parse? {text : List Char} {t : Tree}
    (h : Tree.parse? text = .ok t) (hhyphen : text.head? = some '-') :
    text = ['-'] := by
  obtain ⟨rest, rfl⟩ := List.head?_eq_some_iff.mp hhyphen
  rw [Predictive.parse?_of_read_some (Predictive.read_dash rest)] at h
  by_cases hrest : rest = []
  · rw [hrest]
  · rw [if_neg hrest] at h
    cases h

theorem Format.head?_ne_hyphen {name : String} (h : Format.Registered name) :
    name.toList.head? ≠ some '-' := by
  obtain ⟨format, -, rfl⟩ := h
  cases format <;> decide

namespace CommandLine

section Line

variable {text : List Char} (hline : ∀ c ∈ text, c ≠ '\n' ∧ c ≠ '\r')
include hline

/-- A single text that is one line is written as it is. -/
theorem report_singleton (name : String) :
    report [(name, text)] = text ++ ['\n'] := by
  have htrim : trimEnd (fun c => c = '\n') text = text :=
    trimEnd_eq_self fun c hc => by
      simpa using (hline c (List.mem_of_getLast? hc)).1
  simp [report, htrim]

/-- A line that was written is read without its end. -/
theorem trimEnd_line : trimEnd isLineEnd (text ++ ['\n']) = text := by
  rw [trimEnd_append text ['\n'] (by decide)]
  refine trimEnd_eq_self fun c hc => ?_
  have hkept := hline c (List.mem_of_getLast? hc)
  simp [isLineEnd, hkept]

theorem Conversion.reads_line {c : Conversion} (hinput : c.input = none)
    (hstdin : c.stdin = (String.ofList (text ++ ['\n'])).toUTF8) :
    c.Reads text := by
  have hreads := Conversion.Reads.stdin hinput hstdin
  rwa [String.toList_ofList, trimEnd_line hline] at hreads

end Line

/-- Formats that are asked for take the place of those of the settings. -/
theorem Conversion.selected_of_ne_nil {c : Conversion} (h : c.formats ≠ [])
    (settings : Settings) : c.selected settings = c.formats :=
  if_neg (by simpa using h)

section Pipe

variable {options : Options} {files : List Settings.File} {settings : Settings}
  (hsettings : options.sources.load files = .ok settings)
  {s : String} {t : Tree} (hs : Tree.parse? s.toList = .ok t)
include hsettings hs

theorem run_convert_notation {format : Format} (hformat : format.readsBack = true)
    {arguments : List String}
    (harguments : Command.ofArguments arguments
      = .ok (.convert options (some s) [format.name]))
    (stdin : ByteArray) :
    run arguments files stdin
      = ⟨0, String.ofList (format.render settings.layout.fill t ++ ['\n']), ""⟩ := by
  let c : Conversion := ⟨options, some s, [format.name], files, stdin⟩
  have hselected : c.selected settings = [format].map Format.name :=
    Conversion.selected_of_ne_nil (List.cons_ne_nil _ _) settings
  have hrun := run_of_stages (c := c) harguments hsettings (.input rfl) hs hselected
  rw [List.map_singleton, report_singleton fun _ hc =>
    Format.ne_lineEnd_of_mem_render hformat _ t hc] at hrun
  exact hrun

/-- Under settings that can be loaded, for a text that writes a tree, a format
that reads back and formats that there are: the conversion of the text to the
one format, piped into a conversion to the others, ends well and gives the same
result as the conversion of the text to the others. This holds of all arguments
that ask for these conversions, and such arguments there are. -/
theorem run_convert_piped {format : Format} (hformat : format.readsBack = true)
    {names : List String} (hne : names ≠ [])
    (hnames : ∀ name ∈ names, Format.Registered name) :
    (∀ first second direct : List String,
      Command.ofArguments first = .ok (.convert options (some s) [format.name]) →
      Command.ofArguments second = .ok (.convert options none names) →
      Command.ofArguments direct = .ok (.convert options (some s) names) →
      ∀ stdin stdin' : ByteArray,
        let written := run first files stdin
        let piped := run second files written.output.toUTF8
        written.status = 0 ∧ written.errors = "" ∧
        piped.status = 0 ∧ piped.errors = "" ∧
        piped = run direct files stdin') ∧
    Command.ofArguments (convertArguments options (some s) [format.name])
      = .ok (.convert options (some s) [format.name]) ∧
    Command.ofArguments (convertArguments options none names)
      = .ok (.convert options none names) ∧
    Command.ofArguments (convertArguments options (some s) names)
      = .ok (.convert options (some s) names) := by
  have hhyphen : ∀ text ∈ some s, text.toList.head? = some '-' → text.toList = ['-'] := by
    intro text htext
    cases htext
    exact Tree.eq_hyphen_of_parse? hs
  have hregistered : Format.Registered format.name :=
    Format.registered_of_mem_map_name (List.mem_map_of_mem (List.mem_singleton_self format))
  have hheads : ∀ name ∈ names, name.toList.head? ≠ some '-' :=
    fun name hname => Format.head?_ne_hyphen (hnames name hname)
  refine ⟨?_, ?_, ?_, ?_⟩
  · intro first second direct hfirst hsecond hdirect stdin stdin' written piped
    obtain ⟨formats, hformats⟩ := Format.exists_map_name hnames
    have hwritten : written
        = ⟨0, String.ofList (format.render settings.layout.fill t ++ ['\n']), ""⟩ :=
      run_convert_notation hsettings hs hformat hfirst stdin
    let through : Conversion := ⟨options, none, names, files, written.output.toUTF8⟩
    have hreads : through.Reads (format.render settings.layout.fill t) := by
      refine Conversion.reads_line ?_ rfl (congrArg (fun r => r.output.toUTF8) hwritten)
      exact fun _ hc => Format.ne_lineEnd_of_mem_render hformat _ t hc
    have hpiped : piped = _ := run_of_stages (c := through) hsecond hsettings hreads
      (Format.parse?_render hformat _ t)
      ((Conversion.selected_of_ne_nil hne settings).trans hformats)
    let plain : Conversion := ⟨options, some s, names, files, stdin'⟩
    have hresult := run_of_stages (c := plain) hdirect hsettings (.input rfl) hs
      ((Conversion.selected_of_ne_nil hne settings).trans hformats)
    refine ⟨congrArg Result.status hwritten, congrArg Result.errors hwritten,
      congrArg Result.status hpiped, congrArg Result.errors hpiped, ?_⟩
    exact hpiped.trans hresult.symm
  · refine ofArguments_convertArguments options hhyphen ?_
    intro name hname
    cases List.mem_singleton.mp hname
    exact Format.head?_ne_hyphen hregistered
  · exact ofArguments_convertArguments options (fun _ hnone => nomatch hnone) hheads
  · exact ofArguments_convertArguments options hhyphen hheads

end Pipe

/-- The bracket text of the empty tree: what goes through the pipe is an empty
line. -/
theorem run_convert_piped_emptyLine :
    let options : Options := ⟨none, none⟩
    let names := ["decimal", "treeviz"]
    let written := run ["convert", "000", "--format", "bracket"] [] .empty
    options.sources.load [] = .ok Settings.builtIn ∧
    Tree.parse? "000".toList = .ok .empty ∧ Format.bracket.readsBack = true ∧
    names ≠ [] ∧ (∀ name ∈ names, Format.Registered name) ∧
    written.output = "\n" ∧
    run ["convert", "--format", "decimal", "--format", "treeviz"] []
        written.output.toUTF8
      = run ["convert", "000", "--format", "decimal", "--format", "treeviz"] []
          .empty := by
  intro options names written
  have hsettings : options.sources.load [] = .ok Settings.builtIn :=
    Settings.Sources.load_nil (some localFile)
  have hform : Tree.empty.WrittenAs ("000".toList) :=
    .number (by decide) (List.all_eq_true.mp rfl) (by decide)
  have hs : Tree.parse? "000".toList = .ok .empty :=
    Predictive.parse?_of_read_some (hform.read_append fun _ => rfl)
  have hnames : ∀ name ∈ names, Format.Registered name := by decide
  obtain ⟨hpiped, hfirst, hsecond, hdirect⟩ :=
    run_convert_piped hsettings hs (rfl : Format.bracket.readsBack = true)
      (List.cons_ne_nil _ _ : names ≠ []) hnames
  have hwritten := run_convert_notation hsettings hs
    (rfl : Format.bracket.readsBack = true) hfirst .empty
  obtain ⟨-, -, -, -, hsame⟩ := hpiped _ _ _ hfirst hsecond hdirect .empty .empty
  exact ⟨hsettings, hs, rfl, List.cons_ne_nil _ _, hnames,
    congrArg Result.output hwritten, hsame⟩

end CommandLine

end TreeCodec
