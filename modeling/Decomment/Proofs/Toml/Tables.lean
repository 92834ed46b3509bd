import Decomment.Proofs.Toml.Statements
import Mathlib.Data.List.Nodup

/-!
# Tables are read as they were written

A table is written as statements: its pairs first, and then its inner tables, each with a header.
What is read back is the table in this order and without the fields that are nothing (`settled`).
`parse?_print` says so for all tables that the writer can write (`Storable`): those with distinct
keys that need no quotes, and with plain values, tables and lists of tables as fields.

While a table is being read, what the statements have made so far is a table in a table in a table:
the table that the next statement adds to stands last in the one around it. `plug` puts such tables
(`Frame`) around each other, and `update_plug` says that a path leads through them to the innermost.
-/

namespace Decomment.Toml

/-! ## What becomes of a table -/

/-- Whether a field is written as a table or as a list of tables. -/
def isInner : Value → Bool
  | .table _ => true
  | value => isTableList value

namespace Draft

/-- The entries that the pairs of a table make. -/
def leaves (fields : Fields) : Entries :=
  (fields.filter (isPlain ·.2)).map fun (key, value) => (key, leaf value)

mutual

/-- What the statements of a field that is a table or a list of tables make. -/
def ofValue : Value → Draft
  | .table fields => .table .explicit (leaves fields ++ ofInner fields)
  | .array items => .tables (ofElements items)
  | value => .leaf value

/-- The entries that the statements of the inner tables of a table make. -/
def ofInner : Fields → Entries
  | [] => []
  | (key, value) :: fields =>
    if isInner value then (key, ofValue value) :: ofInner fields else ofInner fields

/-- What the statements of a list of tables make. -/
def ofElements : List Value → List Entries
  | [] => []
  | item :: items => ofElement item :: ofElements items

/-- The entries that the statements of one table of a list of tables make. -/
def ofElement : Value → Entries
  | .table fields => leaves fields ++ ofInner fields
  | _ => []

end

/-- The entries that the statements of a table make. -/
def ofFields (fields : Fields) : Entries :=
  leaves fields ++ ofInner fields

@[simp] theorem ofValue_table (fields : Fields) :
    ofValue (.table fields) = .table .explicit (ofFields fields) := by
  rw [ofValue, ofFields]

@[simp] theorem ofValue_tables (tables : List Fields) :
    ofValue (.array (tables.map .table)) = .tables (tables.map ofFields) := by
  have helements : ofElements (tables.map .table) = tables.map ofFields := by
    induction tables with
    | nil => rfl
    | cons table tables ih =>
      rw [List.map_cons, List.map_cons, ofElements, ofElement, ih]
      rfl
  rw [ofValue, helements]

/-- The entry that the statements of a field make, if there are any. -/
def ofField (key : String) (value : Value) : Entries :=
  if isInner value then [(key, ofValue value)] else []

theorem ofInner_cons (key : String) (value : Value) (fields : Fields) :
    ofInner ((key, value) :: fields) = ofField key value ++ ofInner fields := by
  rw [ofInner, ofField]
  split <;> rfl

theorem ofInner_eq_map (fields : Fields) :
    ofInner fields = (fields.filter (isInner ·.2)).map fun field => (field.1, ofValue field.2) := by
  induction fields with
  | nil => rfl
  | cons field fields ih =>
    obtain ⟨key, value⟩ := field
    rw [ofInner, ih]
    by_cases h : isInner value = true <;> simp [h]

end Draft

/-- A table as it is read back: its pairs, then its inner tables, and nothing for a field that is
nothing. -/
def settled (fields : Fields) : Fields :=
  Draft.toFields (Draft.ofFields fields)

/-! ## Tables that can be written -/

/-- A field whose inner tables are as `inner` says. -/
inductive StorableField (inner : Fields → Prop) : Value → Prop
  | null : StorableField inner .null
  | plain {value : Value} : PlainValue (nestingLimit - 1) value → StorableField inner value
  | table {fields : Fields} : inner fields → StorableField inner (.table fields)
  | tables {tables : List Fields} : tables ≠ [] → (∀ fields ∈ tables, inner fields) →
      StorableField inner (.array (tables.map .table))

/-- A table that can be written, with inner tables down to a level. -/
def Storable : (levels : Nat) → Fields → Prop
  | 0, _ => False
  | levels + 1, fields => (fields.map Prod.fst).Nodup ∧
      ∀ field ∈ fields, BareKey field.1 ∧ StorableField (Storable levels) field.2

theorem isTableList_of_plain {depth : Nat} {value : Value} (h : PlainValue depth value) :
    isTableList value = false := by
  cases value with
  | array items =>
    match depth, items, h with
    | _, [], _ => rfl
    | depth + 1, item :: items, h =>
      have hitem : PlainValue depth item := h item (List.mem_cons_self ..)
      cases item with
      | table fields => simp [PlainValue] at hitem
      | null | bool _ | number _ | moment _ | string _ | array _ => rfl
  | null | bool _ | number _ | moment _ | string _ | table _ => rfl

theorem isInner_of_plain {depth : Nat} {value : Value} (h : PlainValue depth value) :
    isInner value = false := by
  cases value with
  | table fields => simp [PlainValue] at h
  | null | bool _ | number _ | moment _ | string _ | array _ => exact isTableList_of_plain h

theorem isPlain_of_isInner {value : Value} (h : isInner value = true) : isPlain value = false := by
  cases value with
  | array items =>
    have hlist : isTableList (.array items) = true := h
    simp [isPlain, hlist]
  | null | table _ => rfl
  | bool _ | number _ | moment _ | string _ => cases h

theorem isTableList_tables {tables : List Fields} (h : tables ≠ []) :
    isTableList (.array (tables.map .table)) = true := by
  obtain ⟨first, others, rfl⟩ := List.exists_cons_of_ne_nil h
  simp [isTableList]

theorem isInner_tables {tables : List Fields} (h : tables ≠ []) :
    isInner (.array (tables.map .table)) = true :=
  isTableList_tables h

/-! ## The table that a path leads to -/

namespace Draft

/-- A table with another one in its last place. -/
inductive Frame
  /-- In which the last entry is a table. -/
  | table (before : Entries) (key : String)
  /-- In which the last entry is a list of tables, after some of these. -/
  | element (before : Entries) (key : String) (elements : List Entries)

namespace Frame

def key : Frame → String
  | table _ key => key
  | element _ key _ => key

/-- The entries before the last one. -/
def before : Frame → Entries
  | table before _ => before
  | element before _ _ => before

/-- Puts a table in the last place. -/
def fill : Frame → Entries → Entries
  | table before key, inner => before ++ [(key, .table .explicit inner)]
  | element before key elements, inner => before ++ [(key, .tables (elements ++ [inner]))]

/-- The last entry has a key of its own. -/
def Fresh (frame : Frame) : Prop :=
  frame.before.lookup frame.key = none

end Frame

/-- Puts a table into the innermost of tables around each other, the outermost first. -/
def plug (frames : List Frame) (inner : Entries) : Entries :=
  frames.foldr Frame.fill inner

variable {before inner : Entries} {draft : Draft} {change : Origin → Entries → Option Entries}
  {frames : List Frame} {key : String} {value : Value}

theorem plug_concat (frames : List Frame) (frame : Frame) (inner : Entries) :
    plug (frames ++ [frame]) inner = plug frames (frame.fill inner) := by
  simp [plug]

theorem lookup_last (h : before.lookup key = none) :
    (before ++ [(key, draft)]).lookup key = some draft := by
  rw [List.lookup_append, h]
  simp

theorem replace_last (h : before.lookup key = none) (other : Draft) :
    replace (before ++ [(key, draft)]) key other = before ++ [(key, other)] := by
  have hsame : ∀ entry ∈ before, (if entry.1 = key then (key, other) else entry) = entry := by
    intro entry hentry
    have hne := List.lookup_eq_none_iff.1 h entry hentry
    exact if_neg fun heq => by simp [heq] at hne
  rw [replace, List.map_append, List.map_congr_left hsame]
  simp

theorem update_through_table {entries : Entries} {origin : Origin} (path : List String)
    (outer : Origin) (h : entries.lookup key = some (table origin inner)) :
    update false change (key :: path) outer entries =
      (update false change path origin inner).map fun inner =>
        replace entries key (table origin inner) := by
  rw [update, h]
  simp only [Bool.false_and, Bool.false_eq_true, ↓reduceIte]
  cases update false change path origin inner <;> rfl

theorem update_through_tables {entries last : Entries} {elements : List Entries}
    (path : List String) (outer : Origin)
    (h : entries.lookup key = some (tables (elements ++ [last]))) :
    update false change (key :: path) outer entries =
      (update false change path .explicit last).map fun last =>
        replace entries key (tables (elements ++ [last])) := by
  rw [update, h]
  simp only [List.getLast?_append, List.getLast?_singleton, Option.some_or,
    List.dropLast_concat]
  cases update false change path .explicit last <;> rfl

/-- **A path leads through the tables around a table to this table**, and a change of it leaves
those around it as they are. -/
theorem update_plug (hfresh : ∀ frame ∈ frames, frame.Fresh) :
    update false change (frames.map Frame.key) .explicit (plug frames inner) =
      (change .explicit inner).map (plug frames) := by
  induction frames with
  | nil =>
    show change .explicit inner = _
    cases change .explicit inner <;> rfl
  | cons frame frames ih =>
    have hframe := hfresh frame (List.mem_cons_self ..)
    have ih := ih fun f hf => hfresh f (List.mem_cons_of_mem _ hf)
    show update false change (frame.key :: frames.map Frame.key) .explicit
      (frame.fill (plug frames inner)) = _
    cases frame with
    | table before key =>
      have hframe : before.lookup key = none := hframe
      rw [Frame.key, Frame.fill, update_through_table _ _ (lookup_last hframe), ih, Option.map_map]
      congr 1
      funext inner
      exact replace_last hframe _
    | element before key elements =>
      have hframe : before.lookup key = none := hframe
      rw [Frame.key, Frame.fill, update_through_tables _ _ (lookup_last hframe), ih, Option.map_map]
      congr 1
      funext inner
      exact replace_last hframe _

end Draft

/-! ## What one statement does -/

namespace Document

open Draft

variable {frames : List Frame} {inner : Entries} {elements : List Entries} {key : String}
  {value : Value} {current : List String}

/-- The document in which the statements have made a table inside some others, and pairs go to the
innermost. -/
def inside (frames : List Frame) (inner : Entries) : Document :=
  ⟨plug frames inner, frames.map Frame.key⟩

theorem add_pair (hfresh : ∀ frame ∈ frames, frame.Fresh) (hkey : inner.lookup key = none) :
    add (inside frames inner) (.pair [key] value) =
      some (inside frames (inner ++ [(key, .leaf value)])) := by
  have hpair : addPair [key] value .explicit inner = some (inner ++ [(key, .leaf value)]) := by
    simp [addPair, update, hkey]
  rw [inside, add, update_plug hfresh, hpair]
  rfl

theorem add_header (hfresh : ∀ frame ∈ frames, frame.Fresh) (hkey : inner.lookup key = none) :
    add ⟨plug frames inner, current⟩ (.header (frames.map Frame.key ++ [key])) =
      some (inside (frames ++ [.table inner key]) []) := by
  rw [add, openTable, List.getLast?_concat, List.dropLast_concat]
  simp only [update_plug hfresh, hkey, Option.map_some, inside, plug_concat, List.map_append]
  rfl

theorem add_firstHeader (hfresh : ∀ frame ∈ frames, frame.Fresh) (hkey : inner.lookup key = none) :
    add ⟨plug frames inner, current⟩ (.arrayHeader (frames.map Frame.key ++ [key])) =
      some (inside (frames ++ [.element inner key []]) []) := by
  rw [add, openElement, List.getLast?_concat, List.dropLast_concat]
  simp only [update_plug hfresh, hkey, Option.map_some, inside, plug_concat, List.map_append]
  rfl

theorem add_nextHeader (hfresh : ∀ frame ∈ frames, frame.Fresh) (hkey : inner.lookup key = none) :
    add ⟨plug frames (inner ++ [(key, .tables elements)]), current⟩
        (.arrayHeader (frames.map Frame.key ++ [key])) =
      some (inside (frames ++ [.element inner key elements]) []) := by
  rw [add, openElement, List.getLast?_concat, List.dropLast_concat]
  simp only [update_plug hfresh, lookup_last hkey, replace_last hkey, Option.map_some, inside,
    plug_concat, List.map_append]
  rfl

/-! ## What the statements of a table do -/

theorem forall_concat_fresh {frame : Frame} (hfresh : ∀ f ∈ frames, f.Fresh) (h : frame.Fresh) :
    ∀ f ∈ frames ++ [frame], f.Fresh := by
  intro f hf
  rcases List.mem_append.1 hf with hf | hf
  · exact hfresh f hf
  · exact List.mem_singleton.1 hf ▸ h

theorem lookup_concat {other : String} (hkey : inner.lookup key = none) (hne : key ≠ other)
    (draft : Draft) : (inner ++ [(other, draft)]).lookup key = none := by
  rw [List.lookup_append, hkey]
  simp [hne]

/-- The keys of fields are not among those of a table. -/
def NewKeys (fields : Fields) (inner : Entries) : Prop :=
  ∀ field ∈ fields, inner.lookup field.1 = none

/-- The pairs of a table are added to the innermost table. -/
theorem run_pairs (hfresh : ∀ frame ∈ frames, frame.Fresh) {fields : Fields}
    (hnodup : (fields.map Prod.fst).Nodup) (hnew : NewKeys fields inner) :
    (pairs fields).foldlM add (inside frames inner) =
      some (inside frames (inner ++ leaves fields)) := by
  induction fields generalizing inner with
  | nil => simp [pairs, leaves]
  | cons field fields ih =>
    obtain ⟨key, value⟩ := field
    obtain ⟨hkey, hnodup⟩ := List.nodup_cons.1 hnodup
    have hhere := hnew (key, value) (List.mem_cons_self ..)
    have hnew : NewKeys fields inner := fun f hf => hnew f (List.mem_cons_of_mem _ hf)
    by_cases hplain : isPlain value = true
    · have hothers : NewKeys fields (inner ++ [(key, .leaf value)]) := fun f hf =>
        lookup_concat (hnew f hf) (fun heq => hkey (List.mem_map.2 ⟨f, hf, heq⟩)) _
      have hpairs : pairs ((key, value) :: fields) = .pair [key] value :: pairs fields := by
        simp [pairs, hplain]
      rw [hpairs, List.foldlM_cons, add_pair hfresh hhere]
      show List.foldlM add _ _ = _
      rw [ih hnodup hothers]
      simp [leaves, hplain]
    · have hpairs : pairs ((key, value) :: fields) = pairs fields := by
        simp [pairs, hplain]
      rw [hpairs, ih hnodup hnew]
      simp [leaves, hplain]

theorem fieldStatements_tables (path : List String) {tables : List Fields} (h : tables ≠ []) :
    fieldStatements path (.array (tables.map .table)) =
      tables.flatMap fun fields =>
        .arrayHeader path :: (pairs fields ++ innerStatements path fields) := by
  rw [fieldStatements, if_pos (isTableList_tables h)]
  clear h
  induction tables with
  | nil => rfl
  | cons fields tables ih =>
    rw [List.map_cons, elementStatements, elementStatement, ih, List.flatMap_cons]

theorem fieldStatements_of_plain {depth : Nat} (path : List String) (h : PlainValue depth value) :
    fieldStatements path value = [] := by
  cases value with
  | array items => rw [fieldStatements, isTableList_of_plain h, if_neg Bool.false_ne_true]
  | table fields => simp [PlainValue] at h
  | null | bool _ | number _ | moment _ | string _ => rfl

/-- The statements of a table add it to the innermost table. -/
def Adds (fields : Fields) : Prop :=
  ∀ (frames : List Frame) (inner : Entries), (∀ frame ∈ frames, frame.Fresh) →
    NewKeys fields inner → ∃ current,
      (pairs fields ++ innerStatements (frames.map Frame.key) fields).foldlM add
          (inside frames inner) =
        some ⟨plug frames (inner ++ ofFields fields), current⟩

theorem Adds.within {fields : Fields} (frame : Frame) (h : Adds fields)
    (hfresh : ∀ frame ∈ frames, frame.Fresh) (hframe : frame.Fresh) :
    ∃ after,
      (pairs fields ++ innerStatements (frames.map Frame.key ++ [frame.key]) fields).foldlM add
          (inside (frames ++ [frame]) []) =
        some ⟨plug frames (frame.fill (ofFields fields)), after⟩ := by
  obtain ⟨after, hrun⟩ := h _ [] (forall_concat_fresh hfresh hframe) fun _ _ => rfl
  rw [List.map_append, plug_concat] at hrun
  exact ⟨after, hrun⟩

/-- The statements of an inner table, with its header. -/
theorem run_table {fields : Fields} (h : Adds fields) (hfresh : ∀ frame ∈ frames, frame.Fresh)
    (hkey : inner.lookup key = none) (current : List String) :
    ∃ after, (fieldStatements (frames.map Frame.key ++ [key]) (.table fields)).foldlM add
        ⟨plug frames inner, current⟩ =
      some ⟨plug frames (inner ++ [(key, ofValue (.table fields))]), after⟩ := by
  obtain ⟨after, hrun⟩ := h.within (.table inner key) hfresh hkey
  refine ⟨after, ?_⟩
  rw [fieldStatements, List.foldlM_cons, add_header hfresh hkey, ofValue_table]
  exact hrun

/-- The statements of a list of tables, after some of its elements. -/
theorem run_elements {tables : List Fields} (h : ∀ fields ∈ tables, Adds fields)
    (hfresh : ∀ frame ∈ frames, frame.Fresh) (hkey : inner.lookup key = none)
    (elements : List Entries) (current : List String) :
    ∃ after, (tables.flatMap fun fields => .arrayHeader (frames.map Frame.key ++ [key]) ::
        (pairs fields ++ innerStatements (frames.map Frame.key ++ [key]) fields)).foldlM add
        ⟨plug frames (inner ++ [(key, .tables elements)]), current⟩ =
      some ⟨plug frames (inner ++ [(key, .tables (elements ++ tables.map ofFields))]), after⟩ := by
  induction tables generalizing elements current with
  | nil => exact ⟨current, by simp⟩
  | cons fields tables ih =>
    obtain ⟨between, hrun⟩ : ∃ between,
        (pairs fields ++ innerStatements (frames.map Frame.key ++ [key]) fields).foldlM add
            (inside (frames ++ [.element inner key elements]) []) =
          some ⟨plug frames (inner ++ [(key, .tables (elements ++ [ofFields fields]))]), between⟩ :=
      Adds.within (.element inner key elements) (h fields (List.mem_cons_self ..)) hfresh hkey
    obtain ⟨after, hothers⟩ := ih (fun f hf => h f (List.mem_cons_of_mem _ hf))
      (elements ++ [ofFields fields]) between
    refine ⟨after, ?_⟩
    rw [List.flatMap_cons, List.cons_append, List.foldlM_cons, add_nextHeader hfresh hkey]
    show List.foldlM add _ _ = _
    rw [List.foldlM_append, hrun]
    show List.foldlM add _ _ = _
    rw [hothers, List.append_assoc]
    rfl

theorem run_tables {tables : List Fields} (h : ∀ fields ∈ tables, Adds fields) (hne : tables ≠ [])
    (hfresh : ∀ frame ∈ frames, frame.Fresh) (hkey : inner.lookup key = none)
    (current : List String) :
    ∃ after,
      (fieldStatements (frames.map Frame.key ++ [key]) (.array (tables.map .table))).foldlM add
          ⟨plug frames inner, current⟩ =
        some ⟨plug frames (inner ++ [(key, ofValue (.array (tables.map .table)))]), after⟩ := by
  obtain ⟨after, hrun⟩ := run_elements h hfresh hkey [] current
  refine ⟨after, ?_⟩
  rw [fieldStatements_tables _ hne, ofValue_tables, ← List.nil_append (List.map ofFields _), ← hrun]
  -- the first header does the same whether the list is there and empty or not there yet
  obtain ⟨fields, tables, rfl⟩ := List.exists_cons_of_ne_nil hne
  rw [List.flatMap_cons, List.cons_append, List.foldlM_cons, List.foldlM_cons,
    add_firstHeader hfresh hkey, add_nextHeader hfresh hkey]

/-- The statements of one field add what they should if those of its inner tables do. -/
theorem run_field {levels : Nat} (h : ∀ fields, Storable levels fields → Adds fields)
    (hvalue : StorableField (Storable levels) value) (hfresh : ∀ frame ∈ frames, frame.Fresh)
    (hkey : isInner value = true → inner.lookup key = none) (current : List String) :
    ∃ after, (fieldStatements (frames.map Frame.key ++ [key]) value).foldlM add
        ⟨plug frames inner, current⟩ =
      some ⟨plug frames (inner ++ ofField key value), after⟩ := by
  cases hvalue with
  | null => exact ⟨current, by simp [fieldStatements, ofField, isInner, isTableList]⟩
  | plain hplain =>
    refine ⟨current, ?_⟩
    rw [fieldStatements_of_plain _ hplain, ofField, isInner_of_plain hplain]
    simp
  | table htable =>
    obtain ⟨after, hrun⟩ := run_table (h _ htable) hfresh (hkey rfl) current
    exact ⟨after, hrun⟩
  | tables hne htables =>
    have hinner := isInner_tables hne
    obtain ⟨after, hrun⟩ :=
      run_tables (fun t ht => h t (htables t ht)) hne hfresh (hkey hinner) current
    refine ⟨after, ?_⟩
    rw [hrun, ofField, hinner]
    rfl

/-- The statements of the inner tables of a table add what they should if those of each do. -/
theorem run_inner {levels : Nat} (h : ∀ fields, Storable levels fields → Adds fields)
    {fields : Fields} (hfields : ∀ field ∈ fields, StorableField (Storable levels) field.2)
    (hnodup : (fields.map Prod.fst).Nodup) (hfresh : ∀ frame ∈ frames, frame.Fresh)
    (hnew : ∀ field ∈ fields, isInner field.2 = true → inner.lookup field.1 = none)
    (current : List String) :
    ∃ after, (innerStatements (frames.map Frame.key) fields).foldlM add
        ⟨plug frames inner, current⟩ =
      some ⟨plug frames (inner ++ ofInner fields), after⟩ := by
  induction fields generalizing inner current with
  | nil => exact ⟨current, by simp [innerStatements, ofInner]⟩
  | cons field fields ih =>
    obtain ⟨key, value⟩ := field
    obtain ⟨hkey, hnodup⟩ := List.nodup_cons.1 hnodup
    have hothers : ∀ field ∈ fields, isInner field.2 = true →
        (inner ++ ofField key value).lookup field.1 = none := by
      intro f hf hinner
      have hf' := hnew f (List.mem_cons_of_mem _ hf) hinner
      rw [ofField]
      split
      · exact lookup_concat hf' (fun heq => hkey (List.mem_map.2 ⟨f, hf, heq⟩)) _
      · rwa [List.append_nil]
    obtain ⟨between, hrun⟩ := run_field h (hfields (key, value) (List.mem_cons_self ..)) hfresh
      (hnew (key, value) (List.mem_cons_self ..)) current
    obtain ⟨after, hrest⟩ := ih (fun f hf => hfields f (List.mem_cons_of_mem _ hf)) hnodup hothers
      between
    refine ⟨after, ?_⟩
    rw [innerStatements, List.foldlM_append, hrun, ofInner_cons, ← List.append_assoc]
    exact hrest

/-- The key of an inner table is not that of a pair. -/
theorem lookup_leaves {fields : Fields} (hnodup : (fields.map Prod.fst).Nodup)
    {field : String × Value} (hfield : field ∈ fields) (hinner : isInner field.2 = true) :
    (leaves fields).lookup field.1 = none := by
  rw [List.lookup_eq_none_iff]
  rintro entry hentry
  obtain ⟨plain, hplain, rfl⟩ := List.mem_map.1 hentry
  obtain ⟨hmem, hplain⟩ := List.mem_filter.1 hplain
  rw [bne_iff_ne]
  intro heq
  have := List.inj_on_of_nodup_map hnodup hfield hmem heq
  rw [← this, isPlain_of_isInner hinner] at hplain
  cases hplain

/-- **The statements of a table add this table**, down to any level. -/
theorem adds_of_storable {levels : Nat} {fields : Fields} (h : Storable levels fields) :
    Adds fields := by
  induction levels generalizing fields with
  | zero => cases h
  | succ levels ih =>
    obtain ⟨hnodup, hfields⟩ := h
    intro frames inner hfresh hnew
    -- a field is written either as a pair or as an inner table, so the keys do not meet
    have hinner : ∀ field ∈ fields, isInner field.2 = true →
        (inner ++ leaves fields).lookup field.1 = none := by
      intro field hfield hinner
      rw [List.lookup_append, hnew field hfield, lookup_leaves hnodup hfield hinner]
      rfl
    obtain ⟨after, hrun⟩ := run_inner (fun _ => ih) (fun f hf => (hfields f hf).2) hnodup hfresh
      hinner (frames.map Frame.key)
    refine ⟨after, ?_⟩
    rw [List.foldlM_append, run_pairs hfresh hnodup hnew, ofFields, ← List.append_assoc]
    exact hrun

theorem ofStatements?_statements {levels : Nat} {fields : Fields} (h : Storable levels fields) :
    ofStatements? (statements fields) = some (settled fields) := by
  obtain ⟨after, hrun⟩ := adds_of_storable h [] [] (by simp) fun _ _ => rfl
  have hrun : (statements fields).foldlM add {} = some ⟨ofFields fields, after⟩ := hrun
  rw [ofStatements?, hrun]
  rfl

end Document

/-! ## The statements of a table are plain -/

theorem mem_innerStatements {path : List String} {fields : Fields} {statement : Statement}
    (h : statement ∈ innerStatements path fields) :
    ∃ field ∈ fields, statement ∈ fieldStatements (path ++ [field.1]) field.2 := by
  induction fields with
  | nil => cases h
  | cons field fields ih =>
    rw [innerStatements] at h
    rcases List.mem_append.1 h with h | h
    · exact ⟨field, List.mem_cons_self .., h⟩
    · obtain ⟨other, hother, h⟩ := ih h
      exact ⟨other, List.mem_cons_of_mem _ hother, h⟩

theorem plain_pairs {inner : Fields → Prop} {fields : Fields}
    (h : ∀ field ∈ fields, BareKey field.1 ∧ StorableField inner field.2) :
    ∀ statement ∈ pairs fields, statement.Plain := by
  intro statement hstatement
  obtain ⟨field, hfield, rfl⟩ := List.mem_map.1 hstatement
  obtain ⟨hmem, hplain⟩ := List.mem_filter.1 hfield
  obtain ⟨hkey, hvalue⟩ := h field hmem
  refine ⟨⟨by simp, by simpa using hkey, by simp [nestingLimit]⟩, ?_⟩
  obtain ⟨key, value⟩ := field
  cases hvalue with
  | null => cases hplain
  | plain hvalue => exact hvalue
  | table _ => cases hplain
  | tables hne _ =>
    rw [isPlain_of_isInner (isInner_tables hne)] at hplain
    cases hplain

theorem plain_statements {levels : Nat} {path : List String} {fields : Fields}
    (h : Storable levels fields) (hpath : ∀ key ∈ path, BareKey key)
    (hlength : path.length + levels ≤ nestingLimit) :
    ∀ statement ∈ pairs fields ++ innerStatements path fields, statement.Plain := by
  induction levels generalizing path fields with
  | zero => cases h
  | succ levels ih =>
    obtain ⟨-, hfields⟩ := h
    intro statement hstatement
    rcases List.mem_append.1 hstatement with hpair | hstatement
    · exact plain_pairs hfields statement hpair
    obtain ⟨⟨key, value⟩, hfield, hstatement⟩ := mem_innerStatements hstatement
    obtain ⟨hkey, hvalue⟩ := hfields _ hfield
    have hbare : ∀ k ∈ path ++ [key], BareKey k := by
      intro k hk
      rcases List.mem_append.1 hk with hk | hk
      · exact hpath k hk
      · exact List.mem_singleton.1 hk ▸ hkey
    have hlonger : (path ++ [key]).length + levels ≤ nestingLimit := by
      rw [List.length_append, List.length_singleton]
      omega
    have hheader {inner : Fields} (hinner : Storable levels inner) : PlainPath (path ++ [key]) := by
      refine ⟨by simp, hbare, ?_⟩
      cases levels with
      | zero => cases hinner
      | succ levels => omega
    cases hvalue with
    | null => cases hstatement
    | plain hplain =>
      rw [Document.fieldStatements_of_plain _ hplain] at hstatement
      cases hstatement
    | table hinner =>
      rw [fieldStatements] at hstatement
      rcases List.mem_cons.1 hstatement with rfl | hstatement
      · exact hheader hinner
      · exact ih hinner hbare hlonger statement hstatement
    | tables hne htables =>
      rw [Document.fieldStatements_tables _ hne] at hstatement
      obtain ⟨inner, hinner, hstatement⟩ := List.mem_flatMap.1 hstatement
      rcases List.mem_cons.1 hstatement with rfl | hstatement
      · exact hheader (htables inner hinner)
      · exact ih (htables inner hinner) hbare hlonger statement hstatement

/-- **A table is read as it was written**, up to the order of its fields. -/
theorem parse?_print {levels : Nat} {fields : Fields} (h : Storable levels fields)
    (hlevels : levels ≤ nestingLimit) : parse? (print fields) = some (settled fields) := by
  have hplain : ∀ statement ∈ statements fields, statement.Plain :=
    plain_statements h (by simp) (by simpa using hlevels)
  rw [print, parse?_write hplain, Document.ofStatements?_statements h]

/-! ## Fields by their keys -/

/-- A field as it is read back, if it is. -/
def settledValue? (value : Value) : Option Value :=
  if isPlain value then some value
  else if isInner value then some (Draft.ofValue value).toValue
  else none

theorem Draft.toElements_eq_map (elements : List Draft.Entries) :
    toElements elements = elements.map fun entries => .table (toFields entries) := by
  induction elements with
  | nil => rfl
  | cons entries elements ih => rw [toElements, ih, List.map_cons]

theorem Draft.toFields_eq_map (entries : Draft.Entries) :
    toFields entries = entries.map fun entry => (entry.1, toValue entry.2) := by
  induction entries with
  | nil => rfl
  | cons entry entries ih => rw [toFields, ih, List.map_cons]

theorem settled_eq (fields : Fields) :
    settled fields = fields.filter (isPlain ·.2) ++
      (fields.filter (isInner ·.2)).map fun field =>
        (field.1, (Draft.ofValue field.2).toValue) := by
  rw [settled, Draft.toFields_eq_map, Draft.ofFields, Draft.leaves, Draft.ofInner_eq_map,
    List.map_append, List.map_map, List.map_map]
  congr 1
  exact List.map_id _

/-- **Each field is read back under its key**, and no others. -/
theorem lookup_settled {fields : Fields} (hnodup : (fields.map Prod.fst).Nodup) (key : String) :
    (settled fields).lookup key = (fields.lookup key).bind settledValue? := by
  rw [settled_eq]
  induction fields with
  | nil => rfl
  | cons field fields ih =>
    obtain ⟨name, value⟩ := field
    obtain ⟨hname, hnodup⟩ := List.nodup_cons.1 hnodup
    have ih := ih hnodup
    rw [List.lookup_append] at ih ⊢
    by_cases hkey : key = name
    · subst hkey
      have hnone : fields.lookup key = none := by
        rw [List.lookup_eq_none_iff]
        intro field hfield
        rw [bne_iff_ne]
        exact fun heq => hname (List.mem_map.2 ⟨field, hfield, heq.symm⟩)
      rw [hnone, Option.bind_none, Option.or_eq_none_iff] at ih
      by_cases hplain : isPlain value = true
      · simp [hplain, settledValue?]
      · by_cases hinner : isInner value = true <;> simp [hplain, hinner, settledValue?, ih]
    · have hskip : (key == name) = false := by simpa using hkey
      by_cases hplain : isPlain value = true <;> by_cases hinner : isInner value = true <;>
        simp [List.lookup_cons, hskip, hplain, hinner, ih]

theorem settledValue?_plain {depth : Nat} {value : Value} (h : PlainValue depth value) :
    settledValue? value = some value := by
  have hlist := isTableList_of_plain h
  have hplain : isPlain value = true := by
    cases value with
    | null | table _ => simp [PlainValue] at h
    | bool _ | number _ | moment _ | string _ => rfl
    | array items => simp [isPlain, hlist]
  rw [settledValue?, if_pos hplain]

@[simp] theorem settledValue?_table (fields : Fields) :
    settledValue? (.table fields) = some (.table (settled fields)) := by
  simp [settledValue?, isPlain, isInner, Draft.toValue, settled]

@[simp] theorem settledValue?_tables (tables : List Fields) :
    settledValue? (.array (tables.map .table)) =
      some (.array (tables.map fun fields => .table (settled fields))) := by
  by_cases h : tables = []
  · subst h
    rfl
  · have hinner := isInner_tables h
    rw [settledValue?, isPlain_of_isInner hinner, hinner, Draft.ofValue_tables, Draft.toValue,
      Draft.toElements_eq_map, List.map_map]
    rfl

end Decomment.Toml
