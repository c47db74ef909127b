import TreeCodec.CommandLine

/-!
Conversions written out as arguments. The options come first, each with its
value in the same argument, so that the value may begin with a hyphen. Behind
the command come the input, if there is one, and a pair of arguments for each
format. Such a list is scanned as the conversion that it was written for, if
no format begins with a hyphen, and no input unless it is the hyphen alone.
-/

namespace TreeCodec.CommandLine

def Options.arguments (options : Options) : List String :=
  options.config.toList.map ("--config=" ++ ·)
    ++ options.fill.toList.map ("--fill=" ++ ·)

def formatArguments (formats : List String) : List String :=
  formats.flatMap fun name => ["--format", name]

def convertArguments (options : Options) (input : Option String)
    (formats : List String) : List String :=
  options.arguments ++ "convert" :: (input.toList ++ formatArguments formats)

namespace Scan

/-- What does not look like an option is a value or the input. -/
theorem next_eq_place (scan : Scan) (level : Level) {argument : List Char}
    (h : argument.head? = some '-' → argument = ['-']) :
    scan.next level argument = scan.place level argument := by
  unfold next
  split
  · rfl
  · split
    · cases h rfl
    · cases h rfl
    · cases h rfl
    · rfl

/-- Nothing but an input and formats has been seen, and no value is awaited. -/
def collected (input : Option String) (formats : List String) : Scan :=
  { start with input := input, formats := formats }

theorem next_format (input : Option String) (seen : List String) :
    (collected input seen).next .convert "--format".toList
      = .ok { collected input seen with waiting := some .format } := rfl

theorem next_formatName (input : Option String) (seen : List String)
    {name : String} (hname : name.toList.head? ≠ some '-') :
    next { collected input seen with waiting := some .format } .convert name.toList
      = .ok (collected input (seen ++ [name])) := by
  rw [next_eq_place _ _ fun hhyphen => absurd hhyphen hname, place]
  simp only [give, String.ofList_toList]
  rfl

theorem next_input {text : String}
    (htext : text.toList.head? = some '-' → text.toList = ['-']) :
    start.next .convert text.toList = .ok (collected (some text) []) := by
  rw [next_eq_place _ _ htext, place]
  simp only [start, Option.isNone_none, decide_true, Bool.and_self, ↓reduceIte,
    String.ofList_toList]
  rfl

/-- Formats are collected in the order in which they are given. -/
theorem foldlM_formatArguments (input : Option String) (seen : List String)
    {formats : List String}
    (hformats : ∀ name ∈ formats, name.toList.head? ≠ some '-') :
    (formatArguments formats).foldlM
        (fun scan a => scan.next .convert a.toList) (collected input seen)
      = .ok (collected input (seen ++ formats)) := by
  induction formats generalizing seen with
  | nil =>
    rw [List.append_nil]
    rfl
  | cons name formats ih =>
    obtain ⟨hname, hothers⟩ := List.forall_mem_cons.mp hformats
    have hrest := ih (seen ++ [name]) hothers
    rw [List.append_assoc, List.singleton_append, formatArguments] at hrest
    rw [formatArguments, List.flatMap_cons, List.cons_append, List.cons_append,
      List.nil_append]
    simp only [List.foldlM_cons, next_format, next_formatName input seen hname,
      bind, Except.bind]
    exact hrest

end Scan

section Convert

variable {input : Option String} {formats : List String}
  (hinput : ∀ text ∈ input, text.toList.head? = some '-' → text.toList = ['-'])
  (hformats : ∀ name ∈ formats, name.toList.head? ≠ some '-')
include hinput hformats

theorem scanRest_convert :
    scanRest .convert (input.toList ++ formatArguments formats)
      = .ok (Scan.collected input formats) := by
  have hscan : (input.toList ++ formatArguments formats).foldlM
        (fun scan a => scan.next .convert a.toList) Scan.start
      = .ok (Scan.collected input formats) := by
    cases input with
    | none => exact Scan.foldlM_formatArguments none [] hformats
    | some text =>
      rw [Option.toList_some, List.singleton_append, List.foldlM_cons,
        Scan.next_input (hinput text rfl)]
      exact Scan.foldlM_formatArguments (some text) [] hformats
  rw [scanRest, hscan]
  rfl

theorem readCommand_convert (options : Options) :
    readCommand { Scan.start with config := options.config, fill := options.fill }
        "convert" (input.toList ++ formatArguments formats)
      = .ok (.convert options input formats) := by
  rw [readCommand, if_pos rfl, scanRest_convert hinput hformats]
  rfl

end Convert

theorem readArguments_command {top : Scan} (hwaiting : top.waiting = none)
    {name : String} (hname : name.toList.head? ≠ some '-') (rest : List String) :
    readArguments top (name :: rest) = readCommand top name rest := by
  rw [readArguments]
  simp [hname, hwaiting]

/-- An option whose value stands in the same argument. -/
theorem readArguments_attached {top : Scan} {flag value : String}
    (hflag : flag.toList.head? = some '-') (hlong : 1 < flag.toList.length)
    (scan : String → Scan)
    (hnext : top.next .top (flag.toList ++ value.toList)
      = .ok (scan (String.ofList value.toList)))
    (honly : (scan value).onlyValues = false) (rest : List String) :
    readArguments top ((flag ++ value) :: rest)
      = readArguments (scan value) rest := by
  have hhyphen : (flag.toList ++ value.toList).head? = some '-' := by
    rw [List.head?_append, hflag]
    rfl
  have hne : flag ++ value ≠ "-" := by
    intro hsame
    have hlength := congrArg (fun text : String => text.toList.length) hsame
    simp only [String.toList_append, List.length_append] at hlength
    have : "-".toList.length = 1 := rfl
    omega
  rw [String.ofList_toList] at hnext
  rw [readArguments]
  simp [String.toList_append, hhyphen, hne, hnext, honly, bind, Except.bind]

theorem readArguments_options (options : Options) (rest : List String) :
    readArguments Scan.start (options.arguments ++ rest)
      = readArguments
          { Scan.start with config := options.config, fill := options.fill }
          rest := by
  obtain ⟨config, fill⟩ := options
  have hfill (config : Option String) :
      readArguments { Scan.start with config := config }
          (fill.toList.map ("--fill=" ++ ·) ++ rest)
        = readArguments { Scan.start with config := config, fill := fill } rest := by
    cases fill with
    | none => rfl
    | some mode =>
      exact readArguments_attached rfl (by decide)
        (fun mode => { Scan.start with config := config, fill := some mode })
        rfl rfl rest
  cases config with
  | none => exact hfill none
  | some path =>
    refine Eq.trans ?_ (hfill (some path))
    exact readArguments_attached rfl (by decide)
      (fun path => { Scan.start with config := some path }) rfl rfl _

/-- A conversion written out as arguments is read as that conversion. -/
theorem ofArguments_convertArguments (options : Options) {input : Option String}
    {formats : List String}
    (hinput : ∀ text ∈ input, text.toList.head? = some '-' → text.toList = ['-'])
    (hformats : ∀ name ∈ formats, name.toList.head? ≠ some '-') :
    Command.ofArguments (convertArguments options input formats)
      = .ok (.convert options input formats) := by
  rw [Command.ofArguments, convertArguments, readArguments_options,
    readArguments_command rfl (by decide)]
  exact readCommand_convert hinput hformats options

end TreeCodec.CommandLine
