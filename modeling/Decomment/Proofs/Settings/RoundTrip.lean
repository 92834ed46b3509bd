import Decomment.Proofs.Toml.Codec
import Decomment.Settings.Text

/-!
# Settings are read as they were saved

`ofText_of_toText`: the text that settings are saved as holds these settings, every field and every
list in its order. Of the format no more is used than that what is written comes back
(`Toml.Codec.RoundTrips`).

Writing and reading do not mirror each other. A list of characters and a list of languages are left
out when they are empty, an escape character when there is none, and a language stands on one level
with its rules; and the fields of every table may come back in another order. What makes up for this
is that fields are found by their keys (`Toml.ComesBack.lookup`) and that what is left out has the
value that stands in for it. `Stored` says of a record that its table can be stored and is read back,
and is shown level by level.
-/

namespace Decomment

open Toml

section
variable {α : Type} {fields backs : Fields} {levels depth : Nat} {read : Value → Option α}
  {toValue : α → Value} {key : String}

/-! ## Fields that are read back -/

/-- A table comes back as a table with each field under its key, and no others. -/
theorem Toml.ComesBack.lookup (h : ComesBack (.table fields) (.table backs)) (key : String) :
    Option.Rel ComesBack ((fields.lookup key).bind present?) (backs.lookup key) := by
  cases h with
  | table h => exact h key

/-- A record is written as a table that can be stored, and is read from that table when it comes back.
-/
def Stored (levels : Nat) (toValue : α → Value) (read : Value → Option α) (record : α) : Prop :=
  ∃ fields, toValue record = .table fields ∧ Storable levels fields ∧
    ∀ backs, ComesBack (.table fields) (.table backs) → read (.table backs) = some record

/-- A value can be stored as a field, and what comes back from it is read as it should be. -/
structure FieldStored (levels : Nat) (read : Value → Option α) (value : Value) (content : α) :
    Prop where
  storable : StorableField (Storable levels) value
  present : present? value = some value
  reads : ∀ back, ComesBack value back → read back = some content

section
variable {value : Value} {content : α}

/-- A field is read back under its key. -/
theorem FieldStored.read? (h : FieldStored levels read value content)
    (hbacks : ComesBack (.table fields) (.table backs)) (hkey : fields.lookup key = some value) :
    Fields.read? backs key read = some content := by
  have hfield := hbacks.lookup key
  rw [hkey, Option.bind_some, h.present] at hfield
  cases hlookup : backs.lookup key with
  | none => rw [hlookup] at hfield; cases hfield
  | some back =>
    rw [hlookup] at hfield
    cases hfield with
    | some hback => rw [Fields.read?, hlookup, Option.bind_some, h.reads back hback]

theorem FieldStored.readD (h : FieldStored levels read value content)
    (hbacks : ComesBack (.table fields) (.table backs)) (hkey : fields.lookup key = some value)
    (default : α) : Fields.readD backs key read default = some content := by
  have hread := h.read? hbacks hkey
  rw [Fields.read?] at hread
  obtain ⟨back, hlookup, hback⟩ := Option.bind_eq_some_iff.1 hread
  rw [Fields.readD, hlookup]
  exact hback

/-- A field that was left out, or is nothing, has the value that stands in for it. -/
theorem readD_leftOut (hbacks : ComesBack (.table fields) (.table backs))
    (hkey : (fields.lookup key).bind present? = none) (default : α) :
    Fields.readD backs key read default = some default := by
  have hfield := hbacks.lookup key
  rw [hkey] at hfield
  cases hlookup : backs.lookup key with
  | none => rw [Fields.readD, hlookup]
  | some back => rw [hlookup] at hfield; cases hfield

theorem fieldStored_plain (hplain : PlainValue (nestingLimit - 1) value)
    (hread : ∀ back, ComesBack value back → read back = some content) :
    FieldStored levels read value content :=
  ⟨.plain hplain, present?_of_plain hplain, hread⟩

end

theorem fieldStored_string (levels : Nat) (text : String) :
    FieldStored levels Value.string? (.string text) text :=
  fieldStored_plain trivial fun _ hback => by cases hback; rfl

theorem fieldStored_bool (levels : Nat) (b : Bool) : FieldStored levels Value.bool? (.bool b) b :=
  fieldStored_plain trivial fun _ hback => by cases hback; rfl

/-- A list that comes back item by item is read item by item. -/
theorem list?_of_forall₂ {contents : List α} {write : α → Value}
    (h : ∀ content ∈ contents, ∀ back, ComesBack (write content) back → read back = some content)
    (back : Value) (hback : ComesBack (.array (contents.map write)) back) :
    Value.list? read back = some contents := by
  cases hback with
  | @array _ backs hbacks =>
    rw [Value.list?]
    induction contents generalizing backs with
    | nil => cases hbacks; rfl
    | cons content contents ih =>
      rw [List.map_cons] at hbacks
      cases hbacks with
      | cons hfirst hothers =>
        rw [List.mapM_cons, h content (List.mem_cons_self ..) _ hfirst,
          ih (fun c hc => h c (List.mem_cons_of_mem _ hc)) hothers]
        rfl

theorem fieldStored_list {write : α → Value} (contents : List α)
    (hplain : ∀ content, PlainValue (nestingLimit - 2) (write content))
    (hread : ∀ content back, ComesBack (write content) back → read back = some content) :
    FieldStored levels (Value.list? read) (.array (contents.map write)) contents := by
  refine fieldStored_plain ?_ (list?_of_forall₂ fun content _ => hread content)
  intro item hitem
  obtain ⟨content, -, rfl⟩ := List.mem_map.1 hitem
  exact hplain content

theorem fieldStored_strings (levels : Nat) (texts : List String) :
    FieldStored levels (Value.list? Value.string?) (Value.ofStrings texts) texts :=
  fieldStored_list texts (fun _ => trivial) fun _ _ hback => by cases hback; rfl

theorem char?_of_comesBack {c : Char} {back : Value} (h : ComesBack (Value.ofChar c) back) :
    back.char? = some c := by
  rw [Value.ofChar] at h
  cases h
  simp [Value.char?]

theorem fieldStored_chars (levels : Nat) (chars : List Char) :
    FieldStored levels (Value.list? Value.char?) (.array (chars.map Value.ofChar)) chars :=
  fieldStored_list chars (fun _ => trivial) fun _ _ => char?_of_comesBack

theorem storableField_optionalChar (escape : Option Char) :
    StorableField (Storable levels) ((escape.map Value.ofChar).getD .null) := by
  cases escape with
  | none => exact .null
  | some c => exact .plain trivial

/-- A character that may be missing is read back, and left out if it is missing. -/
theorem readD_optionalChar {escape : Option Char}
    (hbacks : ComesBack (.table fields) (.table backs))
    (hkey : fields.lookup key = some ((escape.map Value.ofChar).getD .null)) :
    Fields.readD backs key Value.optionalChar? none = some escape := by
  cases escape with
  | none => exact readD_leftOut hbacks (by rw [hkey]; rfl) none
  | some c =>
    have hplain : PlainValue (nestingLimit - 1) (Value.ofChar c) := trivial
    have hstored : FieldStored 0 Value.optionalChar? (Value.ofChar c) (some c) := by
      refine fieldStored_plain hplain fun back hback => ?_
      have hread := char?_of_comesBack hback
      rw [Value.ofChar] at hback
      cases hback
      exact congrArg (Option.map some) hread
    exact hstored.readD hbacks hkey none

theorem fieldStored_record {record : α} (h : Stored levels toValue read record) :
    FieldStored levels read (toValue record) record := by
  obtain ⟨fields, hvalue, hstorable, hread⟩ := h
  rw [hvalue]
  refine ⟨.table hstorable, rfl, fun back hback => ?_⟩
  have htable := hback
  cases hback with
  | table _ => exact hread _ htable

/-- A list of records is a list of tables. -/
theorem exists_tables (records : List α) (h : ∀ record ∈ records, Stored levels toValue read record) :
    ∃ tables : List Fields, records.map toValue = tables.map .table ∧
      ∀ fields ∈ tables, Storable levels fields := by
  induction records with
  | nil => exact ⟨[], rfl, by simp⟩
  | cons record records ih =>
    obtain ⟨fields, hvalue, hstorable, -⟩ := h record (List.mem_cons_self ..)
    obtain ⟨tables, hvalues, hstorables⟩ := ih fun r hr => h r (List.mem_cons_of_mem _ hr)
    exact ⟨fields :: tables, by rw [List.map_cons, List.map_cons, hvalue, hvalues],
      by simpa using ⟨hstorable, hstorables⟩⟩

/-- A list of records is read back in its order. -/
theorem fieldStored_records (records : List α)
    (h : ∀ record ∈ records, Stored levels toValue read record) :
    FieldStored levels (Value.list? read) (.array (records.map toValue)) records := by
  have hreads := list?_of_forall₂ fun record hrecord => (fieldStored_record (h record hrecord)).reads
  refine ⟨?_, rfl, hreads⟩
  obtain ⟨tables, hvalues, hstorables⟩ := exists_tables records h
  rw [hvalues]
  by_cases hnil : tables = []
  · subst hnil
    exact .plain fun item hitem => nomatch hitem
  · exact .tables hnil hstorables

end

/-! ## The records of settings -/

instance (key : String) : Decidable (BareKey key) :=
  decidable_of_iff (key.toList ≠ [] ∧ key.toList.all isBareChar = true)
    (and_congr_right' List.all_eq_true)

/-- A table with distinct plain keys can be stored if its fields can. -/
theorem storable_of_keys {levels : Nat} {fields : Fields} (keys : List String)
    (hkeys : fields.map Prod.fst = keys) (hfit : keys.Nodup ∧ ∀ key ∈ keys, BareKey key)
    (hfields : ∀ field ∈ fields, StorableField (Storable levels) field.2) :
    Storable (levels + 1) fields := by
  subst hkeys
  exact ⟨hfit.1, fun _ hfield => ⟨hfit.2 _ (List.mem_map_of_mem hfield), hfields _ hfield⟩⟩

theorem LineMarker.stored (levels : Nat) (marker : LineMarker) :
    Stored (levels + 1) toValue ofValue? marker := by
  have hmarker := fieldStored_string levels marker.marker
  have hnotAfter := fieldStored_chars levels marker.notAfter
  have hstandalone := fieldStored_bool levels marker.standalone
  by_cases hempty : marker.notAfter = []
  · have hstorable : Storable (levels + 1)
        [("marker", .string marker.marker), ("standalone", .bool marker.standalone)] :=
      storable_of_keys ["marker", "standalone"] rfl (by decide)
        (by simpa using ⟨hmarker.storable, hstandalone.storable⟩)
    refine ⟨_, by simp [toValue, hempty], hstorable, fun backs hbacks => ?_⟩
    rw [ofValue?, hmarker.read? hbacks rfl, readD_leftOut hbacks rfl,
      hstandalone.readD hbacks rfl, ← hempty]
    rfl
  · have hstorable : Storable (levels + 1)
        [("marker", .string marker.marker),
          ("not_after", .array (marker.notAfter.map Value.ofChar)),
          ("standalone", .bool marker.standalone)] :=
      storable_of_keys ["marker", "not_after", "standalone"] rfl (by decide)
        (by simpa using ⟨hmarker.storable, hnotAfter.storable, hstandalone.storable⟩)
    refine ⟨_, by simp [toValue, hempty], hstorable, fun backs hbacks => ?_⟩
    rw [ofValue?, hmarker.read? hbacks rfl, hnotAfter.readD hbacks rfl,
      hstandalone.readD hbacks rfl]
    rfl

theorem BlockPair.stored (levels : Nat) (pair : BlockPair) :
    Stored (levels + 1) toValue ofValue? pair := by
  have hstart := fieldStored_string levels pair.start
  have hstop := fieldStored_string levels pair.stop
  have hnestable := fieldStored_bool levels pair.nestable
  have hlineStart := fieldStored_bool levels pair.lineStart
  have hstorable : Storable (levels + 1)
      [("start", .string pair.start), ("end", .string pair.stop),
        ("nestable", .bool pair.nestable), ("line_start", .bool pair.lineStart)] :=
    storable_of_keys ["start", "end", "nestable", "line_start"] rfl (by decide)
      (by simpa using
        ⟨hstart.storable, hstop.storable, hnestable.storable, hlineStart.storable⟩)
  refine ⟨_, rfl, hstorable, fun backs hbacks => ?_⟩
  rw [ofValue?, hstart.read? hbacks rfl, hstop.read? hbacks rfl,
    hnestable.readD hbacks rfl, hlineStart.readD hbacks rfl]
  rfl

theorem Quote.stored (levels : Nat) (quote : Quote) :
    Stored (levels + 1) toValue ofValue? quote := by
  have hdelimiter := fieldStored_string levels quote.delimiter
  have hmultiline := fieldStored_bool levels quote.multiline
  have hstorable : Storable (levels + 1)
      [("delimiter", .string quote.delimiter), ("multiline", .bool quote.multiline)] :=
    storable_of_keys ["delimiter", "multiline"] rfl (by decide)
      (by simpa using ⟨hdelimiter.storable, hmultiline.storable⟩)
  refine ⟨_, rfl, hstorable, fun backs hbacks => ?_⟩
  rw [ofValue?, hdelimiter.read? hbacks rfl, hmultiline.readD hbacks rfl]
  rfl

theorem Tidy.stored (levels : Nat) (options : Tidy) :
    Stored (levels + 1) toValue ofValue? options := by
  have hsqueeze := fieldStored_bool levels options.squeezeBlankLines
  have htrim := fieldStored_bool levels options.trimTrailing
  have hfinal := fieldStored_bool levels options.finalNewline
  have hstorable : Storable (levels + 1)
      [("squeeze_blank_lines", .bool options.squeezeBlankLines),
        ("trim_trailing_whitespace", .bool options.trimTrailing),
        ("final_newline", .bool options.finalNewline)] :=
    storable_of_keys ["squeeze_blank_lines", "trim_trailing_whitespace", "final_newline"] rfl
      (by decide) (by simpa using ⟨hsqueeze.storable, htrim.storable, hfinal.storable⟩)
  refine ⟨_, rfl, hstorable, fun backs hbacks => ?_⟩
  rw [ofValue?, ofFields?, hsqueeze.readD hbacks rfl, htrim.readD hbacks rfl,
    hfinal.readD hbacks rfl]
  rfl

theorem Language.stored (levels : Nat) (language : Language) :
    Stored (levels + 2) toValue ofValue? language := by
  have hid := fieldStored_string (levels + 1) language.id
  have hextensions := fieldStored_strings (levels + 1) language.extensions
  have hinterpreters := fieldStored_strings (levels + 1) language.interpreters
  have hmarkers := fieldStored_records language.lexis.lineMarkers
    fun marker _ => LineMarker.stored levels marker
  have hblocks := fieldStored_records language.lexis.blocks
    fun pair _ => BlockPair.stored levels pair
  have hquotes := fieldStored_records language.lexis.quotes
    fun quote _ => Quote.stored levels quote
  have hrawQuotes := fieldStored_records language.lexis.rawQuotes
    fun quote _ => Quote.stored levels quote
  have hstorable : Storable (levels + 2)
      [("id", .string language.id), ("extensions", Value.ofStrings language.extensions),
        ("interpreters", Value.ofStrings language.interpreters),
        ("single_line_markers", .array (language.lexis.lineMarkers.map LineMarker.toValue)),
        ("block_delimiters", .array (language.lexis.blocks.map BlockPair.toValue)),
        ("string_delimiters", .array (language.lexis.quotes.map Quote.toValue)),
        ("escape_char", (language.lexis.escape.map Value.ofChar).getD .null),
        ("raw_string_markers", .array (language.lexis.rawQuotes.map Quote.toValue))] :=
    storable_of_keys ["id", "extensions", "interpreters", "single_line_markers",
      "block_delimiters", "string_delimiters", "escape_char", "raw_string_markers"] rfl (by decide)
      (by simpa using ⟨hid.storable, hextensions.storable, hinterpreters.storable,
        hmarkers.storable, hblocks.storable, hquotes.storable,
        storableField_optionalChar language.lexis.escape, hrawQuotes.storable⟩)
  refine ⟨_, ?_, hstorable, fun backs hbacks => ?_⟩
  · rfl
  rw [ofValue?, hid.read? hbacks rfl, hextensions.readD hbacks rfl,
    hinterpreters.readD hbacks rfl, Lexis.ofFields?, hmarkers.readD hbacks rfl,
    hblocks.readD hbacks rfl, hquotes.readD hbacks rfl, readD_optionalChar hbacks rfl,
    hrawQuotes.readD hbacks rfl]
  rfl

namespace Settings

/-- The table of settings can be stored, and is read back. -/
theorem stored (settings : Settings) :
    Storable 3 settings.toFields ∧ ∀ backs,
      ComesBack (.table settings.toFields) (.table backs) → ofFields? backs = some settings := by
  have hfallback := fieldStored_string 2 settings.fallbackLanguage
  have hbackup := fieldStored_bool 2 settings.backup
  have htidy : FieldStored 2 tidyOfValue? settings.tidy.toValue settings.tidy :=
    fieldStored_record (Tidy.stored 1 settings.tidy)
  have hlanguages := fieldStored_records settings.languages
    fun language _ => Language.stored 0 language
  by_cases hempty : settings.languages = []
  · have hfields : settings.toFields = [("fallback_language", .string settings.fallbackLanguage),
        ("backup", .bool settings.backup), ("tidy", settings.tidy.toValue)] := by
      simp [toFields, hempty]
    have hstorable : Storable 3 settings.toFields :=
      storable_of_keys ["fallback_language", "backup", "tidy"] (by rw [hfields]; rfl) (by decide)
        (by simpa [hfields] using ⟨hfallback.storable, hbackup.storable, htidy.storable⟩)
    refine ⟨hstorable, fun backs hbacks => ?_⟩
    rw [hfields] at hbacks
    rw [ofFields?, hfallback.readD hbacks rfl, hbackup.readD hbacks rfl,
      htidy.readD hbacks rfl, readD_leftOut hbacks rfl, ← hempty]
    rfl
  · have hfields : settings.toFields = [("fallback_language", .string settings.fallbackLanguage),
        ("backup", .bool settings.backup), ("tidy", settings.tidy.toValue),
        ("languages", .array (settings.languages.map Language.toValue))] := by
      simp [toFields, hempty]
    have hstorable : Storable 3 settings.toFields :=
      storable_of_keys ["fallback_language", "backup", "tidy", "languages"]
        (by rw [hfields]; rfl) (by decide)
        (by simpa [hfields] using
          ⟨hfallback.storable, hbackup.storable, htidy.storable, hlanguages.storable⟩)
    refine ⟨hstorable, fun backs hbacks => ?_⟩
    rw [hfields] at hbacks
    rw [ofFields?, hfallback.readD hbacks rfl, hbackup.readD hbacks rfl,
      htidy.readD hbacks rfl, hlanguages.readD hbacks rfl]
    rfl

/-- **Settings are read as they were saved.** -/
theorem ofText_of_toText {toml : Codec} (htoml : toml.RoundTrips) (settings : Settings) :
    ∃ text, settings.toText toml = .ok text ∧ ofText toml text = .ok settings := by
  obtain ⟨hstorable, hread⟩ := settings.stored
  obtain ⟨text, backs, hprint, hparse, hbacks⟩ := htoml 3 _ (by decide) hstorable
  refine ⟨text, by rw [toText, hprint], ?_⟩
  rw [ofText, hparse, Option.bind_some, hread backs hbacks]

end Settings

end Decomment
