import Mathlib
import TreeCodec.Proofs.Settings.BuiltIn
import TreeCodec.Proofs.Settings.Merging

/-!
Settings in layers. What a file sets is a `Layer`: each of the six settings, or
nothing for a setting that the file leaves alone. The values that have been
laid over each other always hold settings that can be read, and a file that is
laid over them changes each setting by itself to what the file sets. So a
setting comes from the last of the sources that sets it, and what else the
files hold makes no difference.
-/

namespace TreeCodec.Settings

open Text

section Types

/-! Values of the right type, and what they stand for. A fill mode that is
written as a table is not among them: tables of two layers would be merged into
one with two keys. -/

def textOf? : Toml.Value → Option (List Char)
  | .string text => some text
  | .integer n => some ((if n < 0 then ['-'] else []) ++ numeral n.natAbs)
  | .float x => some (Decimal.text x)
  | .boolean b => some (if b then "true" else "false").toList
  | .moment m => some m.text
  | .array _ | .table _ => none

def textsOf? : Toml.Value → Option (List String)
  | .array values => values.mapM fun value => (textOf? value).map String.ofList
  | _ => none

def numberOf? : Toml.Value → Option Binary64
  | .float x => some x
  | .integer n => some (.ofInt n)
  | .boolean b => some (if b then .one else .zero)
  | .string text => numberOfText? text
  | _ => none

def fillNamed? (name : List Char) : Option Fill :=
  Fill.named? (String.ofList (lowerCase name))

def fillOf? : Toml.Value → Option Fill
  | .string name => fillNamed? name
  | _ => none

variable {β : Type}

/-- A value that stands for something is converted to it in every place, over
whatever was there before. -/
def Reads (convert : Place → Except Error β) (read? : Toml.Value → Option β) :
    Prop :=
  ∀ written x, read? written = some x → ∀ origin existing path,
    convert ⟨path, (Value.ofToml origin written).over existing⟩ = .ok x

theorem Place.text_ofToml {written : Toml.Value} {text : List Char}
    (h : textOf? written = some text) (origin : Option String)
    (path : List KeyPart) :
    Place.text ⟨path, .ofToml origin written⟩ = .ok text := by
  cases written with
  | string | integer | float | boolean | moment =>
    cases h
    rfl
  | array | table => cases h

theorem reads_texts : Reads Place.texts textsOf? := by
  intro written texts h origin existing path
  cases written with
  | string | integer | float | boolean | moment | table => cases h
  | array values =>
    rw [Value.ofToml, Value.over, Place.texts]
    -- The position in the array only matters to messages.
    suffices hfrom : ∀ first,
        ((ofTomlValues origin values).zipIdx first).mapM
          (fun element => do
            let text ← Place.text ⟨path ++ [KeyPart.index element.2], element.1⟩
            return String.ofList text)
        = (Except.ok texts : Except Error (List String)) from hfrom 0
    rw [textsOf?] at h
    induction values generalizing texts with
    | nil =>
      cases h
      exact fun _ => rfl
    | cons value values ih =>
      intro first
      rw [List.mapM_cons] at h
      obtain ⟨_, htext, others, hothers, hresult⟩ : ∃ text,
          (textOf? value).map String.ofList = some text ∧ ∃ others,
          values.mapM (fun value => (textOf? value).map String.ofList) = some others ∧
          text :: others = texts := by
        simpa [Option.bind_eq_some_iff] using h
      obtain ⟨text, hvalue, rfl⟩ := Option.map_eq_some_iff.mp htext
      cases hresult
      rw [ofTomlValues, List.zipIdx_cons, List.mapM_cons, ih others hothers,
        Place.text_ofToml hvalue]
      rfl

theorem reads_number : Reads Place.number numberOf? := by
  intro written x h origin existing path
  cases written with
  | integer | float | boolean =>
    cases h
    rfl
  | string text =>
    have htext : numberOfText? text = some x := h
    simp only [Value.ofToml, Value.over, Place.number, htext]
  | moment | array | table => cases h

theorem reads_fill : Reads Place.fill fillOf? := by
  intro written x h origin existing path
  cases written with
  | string name =>
    have hname : Fill.named? (String.ofList (lowerCase name)) = some x := h
    simp only [Value.ofToml, Value.over, Place.fill, fillNamed, hname]
  | integer | float | boolean | moment | array | table => cases h

end Types

section Documents

/-- The entries of a file. -/
abbrev Document := List (Toml.Key × Toml.Value)

/-- The entries of a table of the document; there are none without the table. -/
def Document.tableAt (doc : Document) (name : String) : Document :=
  match underKey? name.toList doc with
  | some (.table entries) => entries
  | _ => []

/-- The value of a key, if there is one and it has the right type. -/
def Document.read? {β : Type} (read? : Toml.Value → Option β) (name : String)
    (doc : Document) : Option β :=
  (underKey? name.toList doc).bind read?

/-- The value of a key has the right type if there is one. -/
def Document.HasType {β : Type} (read? : Toml.Value → Option β) (name : String)
    (doc : Document) : Prop :=
  ∀ value ∈ underKey? name.toList doc, (read? value).isSome

instance {β : Type} (read? : Toml.Value → Option β) (name : String) :
    DecidablePred (Document.HasType read? name) := fun doc =>
  inferInstanceAs (Decidable (∀ value ∈ underKey? name.toList doc, _))

def IsTable (value : Toml.Value) : Prop :=
  ∃ entries, value = .table entries

instance : DecidablePred IsTable
  | .table entries => isTrue ⟨entries, rfl⟩
  | .string _ | .integer _ | .float _ | .boolean _ | .moment _ | .array _ =>
    isFalse nofun

/-- What is asked of a file. Its keys are names that differ in lower case, also
within the two tables that settings are in, which must be tables; and the
values of settings have the right types. All other values may be anything. -/
@[mk_iff]
structure Document.WellFormed (doc : Document) : Prop where
  plain : ∀ entry ∈ doc, IsPlainKey entry.1
  distinct : DistinctKeys doc
  output : ∀ value ∈ underKey? "output".toList doc, IsTable value
  layout : ∀ value ∈ underKey? "layout".toList doc, IsTable value
  distinctOutput : DistinctKeys (doc.tableAt "output")
  distinctLayout : DistinctKeys (doc.tableAt "layout")
  formats : (doc.tableAt "output").HasType textsOf? "formats"
  strokeWidth : (doc.tableAt "layout").HasType numberOf? "stroke_width"
  marginWidth : (doc.tableAt "layout").HasType numberOf? "margin_width"
  cellSize : (doc.tableAt "layout").HasType numberOf? "cell_size"
  extraHeight : (doc.tableAt "layout").HasType numberOf? "extra_height"
  fill : (doc.tableAt "layout").HasType fillOf? "fill"

instance : DecidablePred Document.WellFormed := fun doc =>
  decidable_of_iff' _ doc.wellFormed_iff

/-- Some of the settings, each of them set or not. -/
structure Layer where
  formats : Option (List String)
  strokeWidth : Option Binary64
  marginWidth : Option Binary64
  cellSize : Option Binary64
  extraHeight : Option Binary64
  fill : Option Fill

/-- What a file sets. -/
def Document.layer (doc : Document) : Layer where
  formats := (doc.tableAt "output").read? textsOf? "formats"
  strokeWidth := (doc.tableAt "layout").read? numberOf? "stroke_width"
  marginWidth := (doc.tableAt "layout").read? numberOf? "margin_width"
  cellSize := (doc.tableAt "layout").read? numberOf? "cell_size"
  extraHeight := (doc.tableAt "layout").read? numberOf? "extra_height"
  fill := (doc.tableAt "layout").read? fillOf? "fill"

/-- The settings with those of a layer in their places. -/
def Layer.onto (layer : Layer) (settings : Settings) : Settings where
  formats := layer.formats.getD settings.formats
  layout :=
    { strokeWidth := layer.strokeWidth.getD settings.layout.strokeWidth
      marginWidth := layer.marginWidth.getD settings.layout.marginWidth
      cellSize := layer.cellSize.getD settings.layout.cellSize
      extraHeight := layer.extraHeight.getD settings.layout.extraHeight
      fill := layer.fill.getD settings.layout.fill }

end Documents

namespace Value

/-- The table has a value at the key, which is converted to `x` whatever path
leads to it. -/
def HasField {β : Type} (t : Value) (name : String)
    (convert : Place → Except Error β) (x : β) : Prop :=
  ∃ value, t.at? name.toList = some value ∧ ∀ path, convert ⟨path, value⟩ = .ok x

structure HoldsOutput (t : Value) (formats : List String) : Prop where
  isTable : t.isTable
  formats : t.HasField "formats" Place.texts formats

structure HoldsLayout (t : Value) (layout : LayoutSettings) : Prop where
  isTable : t.isTable
  strokeWidth : t.HasField "stroke_width" Place.number layout.strokeWidth
  marginWidth : t.HasField "margin_width" Place.number layout.marginWidth
  cellSize : t.HasField "cell_size" Place.number layout.cellSize
  extraHeight : t.HasField "extra_height" Place.number layout.extraHeight
  fill : t.HasField "fill" Place.fill layout.fill

/-- The value holds all settings, each where it is looked for. -/
structure Holds (value : Value) (settings : Settings) : Prop where
  isTable : value.isTable
  output : ∃ t, value.at? "output".toList = some t ∧ t.HoldsOutput settings.formats
  layout : ∃ t, value.at? "layout".toList = some t ∧ t.HoldsLayout settings.layout

end Value

theorem Place.field_of_at? {value t : Value} {name : String}
    (htable : value.isTable) (h : value.at? name.toList = some t)
    (path : List KeyPart) (shape : Shape) (index : Nat) :
    Place.field ⟨path, value⟩ shape index name
      = .ok ⟨path ++ [.name name], t⟩ := by
  cases value with
  | table origin entries =>
    have hentry : entries.lookup name.toList = some t := h
    simp only [Place.field, hentry]
  | scalar | array => cases htable

/-- Settings that a value holds are read from it. -/
theorem Value.Holds.ofValue {value : Value} {settings : Settings}
    (h : value.Holds settings) : Settings.ofValue value = .ok settings := by
  obtain ⟨output, houtput, hformats⟩ := h.output
  obtain ⟨layout, hlayout, hfields⟩ := h.layout
  obtain ⟨formats, hformatsAt, hformatsRead⟩ := hformats.formats
  obtain ⟨_, hstrokeAt, hstroke⟩ := hfields.strokeWidth
  obtain ⟨_, hmarginAt, hmargin⟩ := hfields.marginWidth
  obtain ⟨_, hcellAt, hcell⟩ := hfields.cellSize
  obtain ⟨_, hextraAt, hextra⟩ := hfields.extraHeight
  obtain ⟨_, hfillAt, hfill⟩ := hfields.fill
  simp only [Settings.ofValue, Place.output, Place.layout, bind, Except.bind,
    Place.field_of_at? h.isTable houtput, Place.field_of_at? h.isTable hlayout,
    Place.field_of_at? hformats.isTable hformatsAt, hformatsRead,
    Place.field_of_at? hfields.isTable hstrokeAt, hstroke,
    Place.field_of_at? hfields.isTable hmarginAt, hmargin,
    Place.field_of_at? hfields.isTable hcellAt, hcell,
    Place.field_of_at? hfields.isTable hextraAt, hextra,
    Place.field_of_at? hfields.isTable hfillAt, hfill]
  rfl

theorem holds_toValue (settings : Settings) : settings.toValue.Holds settings where
  isTable := rfl
  output :=
    ⟨_, rfl, rfl, _, rfl, fun path => Place.texts_map_text path none settings.formats⟩
  layout :=
    ⟨_, rfl, rfl, ⟨_, rfl, fun _ => rfl⟩, ⟨_, rfl, fun _ => rfl⟩,
      ⟨_, rfl, fun _ => rfl⟩, ⟨_, rfl, fun _ => rfl⟩,
      ⟨_, rfl, fun path => Place.fill_text_name path none settings.layout.fill⟩⟩

section Overlay

variable {doc : Document} (origin : Option String)

/-- A setting after a table of a file was laid over its table. -/
theorem Value.HasField.over {β : Type} {t : Value} {name : String}
    {convert : Place → Except Error β} {x : β} (h : t.HasField name convert x)
    {read? : Toml.Value → Option β} (hreads : Reads convert read?)
    (hdistinct : DistinctKeys doc) (htype : doc.HasType read? name) :
    (overEntries (ofTomlEntries origin doc) t).HasField name convert
      ((doc.read? read? name).getD x) := by
  obtain ⟨value, hat, hvalue⟩ := h
  rw [HasField, at?_overEntries (hdistinct.ofTomlEntries origin),
    underKey?_ofTomlEntries, Document.read?]
  cases hwritten : underKey? name.toList doc with
  | none => exact ⟨value, hat, hvalue⟩
  | some written =>
    obtain ⟨y, hy⟩ := Option.isSome_iff_exists.mp (htype written hwritten)
    refine ⟨_, rfl, ?_⟩
    intro path
    rw [hreads written y hy origin _ path, Option.bind_some, hy]
    rfl

/-- A table of the settings after a file was laid over them: the table of the
file was laid over it. -/
theorem Value.at?_over_table {value t : Value} {name : String}
    (h : value.at? name.toList = some t) (hdistinct : DistinctKeys doc)
    (htable : ∀ written ∈ underKey? name.toList doc, IsTable written) :
    (overEntries (ofTomlEntries origin doc) value).at? name.toList
      = some (overEntries (ofTomlEntries origin (doc.tableAt name)) t) := by
  rw [at?_overEntries (hdistinct.ofTomlEntries origin), underKey?_ofTomlEntries, h,
    Document.tableAt]
  cases hwritten : underKey? name.toList doc with
  | none => rfl
  | some written =>
    obtain ⟨entries, rfl⟩ := htable written hwritten
    rfl

/-- A file that is laid over settings changes them to what it sets. -/
theorem Value.Holds.layered {value : Value} {settings : Settings}
    (h : value.Holds settings) (hformed : doc.WellFormed) :
    ∃ value', Value.layered (ofTomlEntries origin doc) value = some value' ∧
      value'.Holds (doc.layer.onto settings) := by
  have hplain : ∀ entry ∈ ofTomlEntries origin doc, IsPlainKey entry.1 := by
    intro entry hentry
    have hkey : entry.1 ∈ doc.map Prod.fst := by
      rw [← map_fst_ofTomlEntries origin doc]
      exact List.mem_map_of_mem hentry
    obtain ⟨written, hwritten, hsame⟩ := List.mem_map.mp hkey
    rw [← hsame]
    exact hformed.plain written hwritten
  refine ⟨_, Value.layered_eq_overEntries hplain value, ?_⟩
  obtain ⟨output, houtput, hformats⟩ := h.output
  obtain ⟨layout, hlayout, hfields⟩ := h.layout
  have hdistinct := hformed.distinctLayout
  exact
    { isTable := isTable_overEntries h.isTable
      output := ⟨_, at?_over_table origin houtput hformed.distinct hformed.output,
        { isTable := isTable_overEntries hformats.isTable
          formats := hformats.formats.over origin reads_texts hformed.distinctOutput
            hformed.formats }⟩
      layout := ⟨_, at?_over_table origin hlayout hformed.distinct hformed.layout,
        { isTable := isTable_overEntries hfields.isTable
          strokeWidth :=
            hfields.strokeWidth.over origin reads_number hdistinct hformed.strokeWidth
          marginWidth :=
            hfields.marginWidth.over origin reads_number hdistinct hformed.marginWidth
          cellSize :=
            hfields.cellSize.over origin reads_number hdistinct hformed.cellSize
          extraHeight :=
            hfields.extraHeight.over origin reads_number hdistinct hformed.extraHeight
          fill := hfields.fill.over origin reads_fill hdistinct hformed.fill }⟩ }

end Overlay

theorem lowerCase_layout : lowerCase "layout".toList = "layout".toList := by decide

theorem lowerCase_fill : lowerCase "fill".toList = "fill".toList := by decide

section Putting

variable {β : Type} {t : Value} {name : String} {key : Key}
  {convert : Place → Except Error β} {x : β}

theorem Value.HasField.putting (h : t.HasField name convert x)
    (hname : name.toList ≠ lowerCase key) (change : Option Value → Value) :
    (t.putting key change).HasField name convert x := by
  rwa [HasField, at?_putting, if_neg hname]

theorem Value.HoldsLayout.puttingFill {layout : LayoutSettings}
    (h : t.HoldsLayout layout) {name : List Char} {fill : Fill}
    (hfill : fillNamed? name = some fill) :
    (t.putting "fill".toList (Value.scalar none (.text name)).over).HoldsLayout
      { layout with fill } where
  isTable := rfl
  strokeWidth := h.strokeWidth.putting (by decide) _
  marginWidth := h.marginWidth.putting (by decide) _
  cellSize := h.cellSize.putting (by decide) _
  extraHeight := h.extraHeight.putting (by decide) _
  fill := by
    rw [HasField, at?_putting, if_pos lowerCase_fill.symm]
    exact ⟨_, rfl, fun path => reads_fill (.string name) fill hfill none _ path⟩

end Putting

section Sources

/-- The fill mode that takes the place of those of all files. -/
def Sources.override? (sources : Sources) : Option Fill :=
  sources.fill.bind fun name => fillNamed? name.toList

/-- A fill mode of its own changes that setting alone. -/
theorem Value.Holds.withFill {value : Value} {settings : Settings}
    (h : value.Holds settings) (sources : Sources)
    (hfill : ∀ name ∈ sources.fill, (fillNamed? name.toList).isSome) :
    ∃ value', sources.withFill value = some value' ∧ value'.Holds
      (Layer.onto ⟨none, none, none, none, none, sources.override?⟩ settings) := by
  rw [Sources.withFill, Sources.override?]
  cases hname : sources.fill with
  | none => exact ⟨value, rfl, h⟩
  | some name =>
    obtain ⟨fill, hread⟩ := Option.isSome_iff_exists.mp (hfill name hname)
    obtain ⟨output, houtput, hformats⟩ := h.output
    obtain ⟨layout, hlayout, hfields⟩ := h.layout
    have hset : Value.setAt (.scalar none (.text name.toList))
          [.key "layout".toList, .key "fill".toList] value
        = some (value.putting "layout".toList fun _ =>
            ((value.at? (lowerCase "layout".toList)).getD .nothing).putting
              "fill".toList (Value.scalar none (.text name.toList)).over) := rfl
    rw [lowerCase_layout, hlayout, Option.getD_some] at hset
    simp only [Option.bind_some, hread]
    refine ⟨_, hset, rfl, ⟨output, ?_, hformats⟩, ⟨_, ?_, hfields.puttingFill hread⟩⟩
    · rw [Value.at?_putting, if_neg (by decide)]
      exact houtput
    · rw [Value.at?_putting, if_pos lowerCase_layout.symm]

/-- The document that a file writes. A byte order mark in front of it does not
count. -/
def File.document? (file : File) : Option Document :=
  Toml.read?
    (if file.text.head? = some '\ufeff' then file.text.tail else file.text)

/-- The document of the local file; without a file it is empty. -/
def Sources.localDocument? (sources : Sources) (files : List File) :
    Option Document :=
  match sources.localFile.bind (findFile? files) with
  | some file => file.document?
  | none => some []

/-- The document of the file that is asked for; if none is, it is empty. -/
def Sources.explicitDocument? (sources : Sources) (files : List File) :
    Option Document :=
  match sources.explicitFile with
  | none => some []
  | some name => (findFile? files name).bind File.document?

theorem File.entries_of_document? {file : File} {doc : Document}
    (h : file.document? = some doc) :
    ∃ origin, file.entries = .ok (ofTomlEntries origin doc) := by
  rw [File.document?] at h
  simp only [File.entries, h]
  exact ⟨_, rfl⟩

variable {sources : Sources} {files : List File} {lower upper : Document}

theorem Sources.localEntries_of_document?
    (h : sources.localDocument? files = some lower) :
    ∃ origin, sources.localEntries files = .ok (ofTomlEntries origin lower) := by
  rw [Sources.localDocument?] at h
  rw [Sources.localEntries]
  cases hfile : sources.localFile.bind (findFile? files) with
  | none =>
    rw [hfile] at h
    cases h
    exact ⟨none, rfl⟩
  | some file =>
    rw [hfile] at h
    exact File.entries_of_document? h

theorem Sources.explicitEntries_of_document?
    (h : sources.explicitDocument? files = some upper) :
    ∃ origin, sources.explicitEntries files = .ok (ofTomlEntries origin upper) := by
  rw [Sources.explicitDocument?] at h
  rw [Sources.explicitEntries]
  cases hname : sources.explicitFile with
  | none =>
    rw [hname] at h
    cases h
    exact ⟨none, rfl⟩
  | some name =>
    rw [hname] at h
    obtain ⟨file, hfile, hdocument⟩ := Option.bind_eq_some_iff.mp h
    simp only [hfile]
    exact File.entries_of_document? hdocument

/-- Each source is laid over those before it. -/
theorem Sources.load_eq_onto (hlower : sources.localDocument? files = some lower)
    (hupper : sources.explicitDocument? files = some upper)
    (hlowerFormed : lower.WellFormed) (hupperFormed : upper.WellFormed)
    (hfill : ∀ name ∈ sources.fill, (fillNamed? name.toList).isSome) :
    sources.load files
      = .ok (Layer.onto ⟨none, none, none, none, none, sources.override?⟩
          (upper.layer.onto (lower.layer.onto builtIn))) := by
  obtain ⟨first, hlocal⟩ := localEntries_of_document? hlower
  obtain ⟨second, hexplicit⟩ := explicitEntries_of_document? hupper
  obtain ⟨value, hvalue, hholds⟩ := (holds_toValue builtIn).layered first hlowerFormed
  obtain ⟨value', hvalue', hholds'⟩ := hholds.layered second hupperFormed
  obtain ⟨value'', hvalue'', hholds''⟩ := hholds'.withFill sources hfill
  simp only [Sources.load, hlocal, hexplicit, Except.mapError, bind, Except.bind,
    hvalue, hvalue', hvalue'', laid, hholds''.ofValue]

end Sources

/-- The keys of settings, each behind the table that it is in. -/
def knownKeys : List (String × String) :=
  [("output", "formats"), ("layout", "stroke_width"), ("layout", "margin_width"),
    ("layout", "cell_size"), ("layout", "extra_height"), ("layout", "fill")]

/-- Two documents have the same values at the keys of settings. -/
def Document.AgreesWith (doc other : Document) : Prop :=
  ∀ known ∈ knownKeys,
    underKey? known.2.toList (doc.tableAt known.1)
      = underKey? known.2.toList (other.tableAt known.1)

theorem Document.AgreesWith.layer {doc other : Document}
    (h : doc.AgreesWith other) : doc.layer = other.layer := by
  simp only [AgreesWith, knownKeys, List.forall_mem_cons, List.not_mem_nil,
    false_implies, implies_true, and_true] at h
  obtain ⟨hformats, hstroke, hmargin, hcell, hextra, hfill⟩ := h
  simp only [Document.layer, Document.read?, hformats, hstroke, hmargin, hcell,
    hextra, hfill]

theorem findFile?_eq_none {files : List File} {name : String}
    (h : ∀ file ∈ files, file.path ∉ candidates name) :
    findFile? files name = none := by
  rw [findFile?, List.findSome?_eq_none_iff]
  intro path hpath
  rw [List.find?_eq_none]
  intro file hfile hsame
  exact h file hfile (beq_iff_eq.mp hsame ▸ hpath)

/-- The layers of settings. With files that are well-formed and a fill mode that
there is, if any are given, settings are loaded, and each of them is taken from
the last source that sets it: the fill mode of its own, the file that is asked
for, the local file, the built-in settings. Nothing else in the files makes a
difference, and a local file that does not exist is as good as none. -/
theorem Sources.load_layered {sources : Sources} {files : List File}
    {lower upper : Document}
    (hlower : sources.localDocument? files = some lower)
    (hupper : sources.explicitDocument? files = some upper)
    (hlowerFormed : lower.WellFormed) (hupperFormed : upper.WellFormed)
    (hfill : ∀ name ∈ sources.fill, (fillNamed? name.toList).isSome) :
    (∃ settings, sources.load files = .ok settings ∧
      settings.formats
        = (upper.layer.formats.or lower.layer.formats).getD builtIn.formats ∧
      settings.layout.strokeWidth
        = (upper.layer.strokeWidth.or lower.layer.strokeWidth).getD
            builtIn.layout.strokeWidth ∧
      settings.layout.marginWidth
        = (upper.layer.marginWidth.or lower.layer.marginWidth).getD
            builtIn.layout.marginWidth ∧
      settings.layout.cellSize
        = (upper.layer.cellSize.or lower.layer.cellSize).getD
            builtIn.layout.cellSize ∧
      settings.layout.extraHeight
        = (upper.layer.extraHeight.or lower.layer.extraHeight).getD
            builtIn.layout.extraHeight ∧
      settings.layout.fill
        = (sources.override?.or (upper.layer.fill.or lower.layer.fill)).getD
            builtIn.layout.fill) ∧
    (∀ (sources' : Sources) (files' : List File) (lower' upper' : Document),
      sources'.localDocument? files' = some lower' →
      sources'.explicitDocument? files' = some upper' →
      lower'.WellFormed → upper'.WellFormed → sources'.fill = sources.fill →
      lower'.AgreesWith lower → upper'.AgreesWith upper →
      sources'.load files' = sources.load files) ∧
    ∀ name, (∀ file ∈ files, file.path ∉ candidates name) →
      Sources.load { sources with localFile := some name } files
        = Sources.load { sources with localFile := none } files := by
  have hload := load_eq_onto hlower hupper hlowerFormed hupperFormed hfill
  refine ⟨⟨_, hload, ?_⟩, ?_, ?_⟩
  · simp only [Layer.onto, Option.getD_none, Option.getD_or, and_self]
  · intro sources' files' lower' upper' hlower' hupper' hlowerFormed' hupperFormed'
      hsame hlowerAgrees hupperAgrees
    rw [load_eq_onto hlower' hupper' hlowerFormed' hupperFormed' (hsame ▸ hfill),
      hload, override?, override?, hsame, hlowerAgrees.layer, hupperAgrees.layer]
  · intro name hnone
    have hmissing : findFile? files name = none := findFile?_eq_none hnone
    simp only [Sources.load, localEntries, Option.bind_some, Option.bind_none,
      hmissing]
    rfl

/-- The formats come from one file, and the fill mode from neither. -/
theorem Sources.load_layered_threeSources :
    ∃ settings,
      Sources.load ⟨some "a", some "b", some "NONE"⟩
          [⟨["a.toml".toList], "[OUTPUT]\nFormats=['json']".toList⟩,
            ⟨["b.toml".toList], "x='y'\n[Layout]\nfill='Frontier'".toList⟩]
        = .ok settings ∧
      settings.formats = ["json"] ∧
      settings.layout.cellSize = builtIn.layout.cellSize ∧
      settings.layout.fill = .off := by
  have hlower : Sources.localDocument? ⟨some "a", some "b", some "NONE"⟩
      [⟨["a.toml".toList], "[OUTPUT]\nFormats=['json']".toList⟩,
        ⟨["b.toml".toList], "x='y'\n[Layout]\nfill='Frontier'".toList⟩]
      = some [("OUTPUT".toList,
        .table [("Formats".toList, .array [.string "json".toList])])] := by
    cbv
  have hupper : Sources.explicitDocument? ⟨some "a", some "b", some "NONE"⟩
      [⟨["a.toml".toList], "[OUTPUT]\nFormats=['json']".toList⟩,
        ⟨["b.toml".toList], "x='y'\n[Layout]\nfill='Frontier'".toList⟩]
      = some [("x".toList, .string "y".toList),
        ("Layout".toList, .table [("fill".toList, .string "Frontier".toList)])] := by
    cbv
  obtain ⟨⟨settings, hload, hformats, -, -, hcell, -, hfill⟩, -, -⟩ :=
    load_layered hlower hupper (by decide) (by decide) (by decide)
  exact ⟨settings, hload, hformats, hcell, hfill⟩

end TreeCodec.Settings
