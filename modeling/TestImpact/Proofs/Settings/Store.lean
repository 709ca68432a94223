import TestImpact.Proofs.FileTree
import TestImpact.Proofs.Toml.Ordered
import TestImpact.Proofs.Toml.Written
import TestImpact.Settings.Store

/-
  What a save leaves in the file.

  A document that was saved is loaded from its file again, provided that it is
  read back from its own text (`loadDocument_store`). Setting fields of a
  section changes these fields of this section and nothing else
  (`setIn_spec`).
-/

namespace TestImpact.Settings

open Toml (Table Value)

variable {t : FileTree} {file : Path} {document : Table} {notes more : List Note}

/-- The document is read back from its text, up to the order of fields. -/
def ReadsBack (document : Table) : Prop :=
  ∀ text, Toml.writeDocument document = .ok text → ∃ back,
    Toml.readDocument text.toList = .ok back ∧
      (Value.table back).ordered = (Value.table document).ordered

theorem content_store (h : (store t file document notes).2 = .ok (true, more)) :
    ∃ text, Toml.writeDocument document = .ok text ∧
      (store t file document notes).1.locate file = some (t.place file) ∧
      (store t file document notes).1.content? (t.place file) = some (Text.encode text) := by
  unfold store at h ⊢
  rcases hway : t.makeWay (t.start file) file.names.dropLast with ⟨t', isOpen⟩
  simp only [hway] at h ⊢
  by_cases hfree : isOpen = true ∧ t'.isDirectory (t.place file) = false
  · obtain ⟨rfl, hplace⟩ := hfree
    simp only [hplace, Bool.not_true, Bool.or_self, Bool.false_eq_true, if_false] at h ⊢
    cases htext : Toml.writeDocument document with
    | error fault => simp [htext] at h
    | ok text =>
      exact ⟨text, rfl, FileTree.locate_put hway hplace, FileTree.content?_put t' _ _⟩
  · have hblocked : (!isOpen || t'.isDirectory (t.place file)) = true := by
      cases isOpen <;> simp_all
    simp [hblocked] at h

theorem loadDocument_store (h : (store t file document notes).2 = .ok (true, more))
    (hback : ReadsBack document) :
    ∃ back, loadDocument (store t file document notes).1 file = .ok (back, []) ∧
      (Value.table back).ordered = (Value.table document).ordered := by
  obtain ⟨text, htext, hlocate, hcontent⟩ := content_store h
  obtain ⟨back, hread, hsame⟩ := hback text htext
  refine ⟨back, ?_, hsame⟩
  have hends : Text.unifyLineEnds text.toList = text.toList :=
    Text.unifyLineEnds_eq (Toml.noReturn_writeDocument htext)
  simp only [loadDocument, hlocate, hcontent, Text.decode_encode, hends, hread]

theorem change_spec {f : Table → Except SettingsFault Table}
    (h : (change t file f).2 = .ok (true, notes)) :
    ∃ document changed more, loadDocument t file = .ok (document, more) ∧ f document = .ok changed ∧
      change t file f = store t file changed more := by
  unfold change at h ⊢
  cases hload : loadDocument t file with
  | error fault => simp [hload] at h
  | ok loaded =>
    obtain ⟨document, more⟩ := loaded
    simp only [hload] at h ⊢
    cases hchanged : f document with
    | error fault => simp [hchanged] at h
    | ok changed => exact ⟨document, changed, more, rfl, hchanged, rfl⟩

/-! Settings of a table -/

theorem texts_fst (t : Table) (name : String) (default : List String) :
    (SelectionSettings.texts t name default).1
      = ((t.get? name).bind SelectionSettings.textsOf?).getD default := by
  unfold SelectionSettings.texts
  cases t.get? name with
  | none => rfl
  | some v =>
    rw [Option.bind_some]
    cases htexts : SelectionSettings.textsOf? v <;> simp [htexts]

theorem selection_ofTable (t : Table) :
    (SelectionSettings.ofTable t).1 =
      ⟨((t.get? "extensions").bind SelectionSettings.textsOf?).getD
        SelectionSettings.standard.extensions,
      ((t.get? "test_prefixes").bind SelectionSettings.textsOf?).getD Naming.standard.prefixes,
      ((t.get? "test_suffixes").bind SelectionSettings.textsOf?).getD
        Naming.standard.suffixes⟩ := by
  simp only [← texts_fst]
  rfl

theorem analysis_ofTable (t : Table) :
    (AnalysisSettings.ofTable t).1 =
      ⟨((t.get? "backend").bind AnalysisSettings.backendOf?).getD AnalysisSettings.standard.backend,
      ((t.get? "git_base").bind AnalysisSettings.baseOf?).getD AnalysisSettings.standard.base⟩ := by
  unfold AnalysisSettings.ofTable
  cases t.get? "backend" with
  | none => rfl
  | some v =>
    rw [Option.bind_some]
    cases hbackend : AnalysisSettings.backendOf? v <;> simp [hbackend]

/-- The table of a section, as it is looked up in the file. -/
def loadTable (t : FileTree) (file : Path) (name : String) :
    Except SettingsFault (Table × List Note) := do
  let (document, notes) ← loadDocument t file
  return (← tableOf document name, notes)

theorem loadTable_of_loadDocument (h : loadDocument t file = .ok (document, notes))
    (name : String) :
    loadTable t file name = (tableOf document name).map fun table => (table, notes) := by
  rw [loadTable, h]
  cases htable : tableOf document name <;> simp [bind, Except.bind, htable] <;> rfl

theorem loadSelection_eq (t : FileTree) (file : Path) :
    loadSelection t file = (loadTable t file "selection").map fun (table, notes) =>
      ((SelectionSettings.ofTable table).1, notes ++ (SelectionSettings.ofTable table).2) := by
  unfold loadSelection loadTable SelectionSettings.ofDocument
  cases loadDocument t file with
  | error fault => rfl
  | ok loaded =>
    cases htable : tableOf loaded.1 "selection" <;> simp [bind, Except.bind, htable] <;> rfl

theorem loadAnalysis_eq (t : FileTree) (file : Path) :
    loadAnalysis t file = (loadTable t file "analysis").map fun (table, notes) =>
      ((AnalysisSettings.ofTable table).1, notes ++ (AnalysisSettings.ofTable table).2) := by
  unfold loadAnalysis loadTable AnalysisSettings.ofDocument
  cases loadDocument t file with
  | error fault => rfl
  | ok loaded =>
    cases htable : tableOf loaded.1 "analysis" <;> simp [bind, Except.bind, htable] <;> rfl

theorem loadSelection_of_tableOf {table : Table}
    (hload : loadDocument t file = .ok (document, notes))
    (htable : tableOf document "selection" = .ok table) :
    loadSelection t file = .ok ((SelectionSettings.ofTable table).1,
      notes ++ (SelectionSettings.ofTable table).2) := by
  rw [loadSelection_eq, loadTable_of_loadDocument hload, htable]
  rfl

theorem loadAnalysis_of_tableOf {table : Table}
    (hload : loadDocument t file = .ok (document, notes))
    (htable : tableOf document "analysis" = .ok table) :
    loadAnalysis t file = .ok ((AnalysisSettings.ofTable table).1,
      notes ++ (AnalysisSettings.ofTable table).2) := by
  rw [loadAnalysis_eq, loadTable_of_loadDocument hload, htable]
  rfl

/-! Sections -/

/-- The value of a key of a section; a section that is no table has none. -/
def valueAt (document : Table) (name key : String) : Option Value :=
  (Value.table document).at? [.field name, .field key]

theorem valueAt_eq (document : Table) (name key : String) :
    valueAt document name key = (document.get? name).bind (·.step? (.field key)) := by
  simp [valueAt, Value.at?, Value.step?]

theorem tableOf_eq_ok {name : String} {table : Table} :
    tableOf document name = .ok table ↔
      (document.get? name).getD (.table []) = .table table := by
  unfold tableOf
  cases document.get? name with
  | none => simp
  | some v => cases v <;> simp

theorem valueAt_of_tableOf {name : String} {table : Table}
    (h : tableOf document name = .ok table) (key : String) :
    valueAt document name key = table.get? key := by
  rw [tableOf_eq_ok] at h
  rw [valueAt_eq]
  cases hget : document.get? name with
  | none =>
    rw [hget] at h
    obtain rfl := Value.table.inj h
    rfl
  | some v =>
    rw [hget] at h
    obtain rfl : v = .table table := h
    rfl

theorem get?_foldl_set {fields : Table} (hnames : (fields.map (·.1)).Nodup) (t : Table)
    (key : String) :
    Table.get? (fields.foldl (fun t (name, v) => Table.set t name v) t) key
      = (Table.get? fields key).or (Table.get? t key) := by
  induction fields generalizing t with
  | nil => rfl
  | cons field fields ih =>
    obtain ⟨name, v⟩ := field
    obtain ⟨hfresh, hnames⟩ := List.nodup_cons.mp hnames
    rw [List.foldl_cons, ih hnames, Table.get?_set, Table.get?_cons]
    by_cases hname : name = key
    · subst hname
      have hnone : Table.get? fields name = none := by
        unfold Table.get?
        rw [Option.map_eq_none_iff, List.find?_eq_none]
        intro field hfield
        have hmem : field.1 ∈ fields.map (·.1) := List.mem_map_of_mem hfield
        simpa using fun heq : field.1 = name => hfresh (heq ▸ hmem)
      simp [hnone]
    · simp [hname]

theorem tableOf_eq_of_get? {final : Table} {name : String}
    (h : final.get? name = document.get? name) : tableOf final name = tableOf document name := by
  rw [tableOf, tableOf, h]

theorem valueAt_eq_of_get? {final : Table} {name : String}
    (h : final.get? name = document.get? name) (key : String) :
    valueAt final name key = valueAt document name key := by
  rw [valueAt_eq, valueAt_eq, h]

/-- Setting fields of a section changes these fields of this section and nothing else. -/
theorem setIn_spec {name : String} {fields table : Table} (hnames : (fields.map (·.1)).Nodup)
    (htable : tableOf document name = .ok table) :
    ∃ changed, setIn name fields document = .ok changed ∧
      (∃ table', tableOf changed name = .ok table') ∧
      (∀ other, name ≠ other → changed.get? other = document.get? other) ∧
      ∀ key, valueAt changed name key = (Table.get? fields key).or (valueAt document name key) := by
  have hset : setIn name fields document = .ok (Table.set document name
      (.table (fields.foldl (fun t (name, v) => Table.set t name v) table))) := by
    rw [setIn, tableOf_eq_ok.mp htable]
    rfl
  have hget := Table.get?_set document name
      (.table (fields.foldl (fun t (name, v) => Table.set t name v) table))
  refine ⟨_, hset, ⟨_, by rw [tableOf, hget, if_pos rfl]⟩, fun other hother => ?_, fun key => ?_⟩
  · rw [hget, if_neg hother]
  · rw [valueAt_of_tableOf htable, ← get?_foldl_set hnames, valueAt_eq, hget, if_pos rfl]
    rfl

/-! The order of fields -/

theorem step?_ordered (v : Value) (key : String) :
    v.ordered.step? (.field key) = (v.step? (.field key)).map Value.ordered := by
  cases v with
  | table t => exact Table.get?_orderedFields t key
  | _ => rfl

section Ordered

variable {final : Table} {name : String}
  (h : (final.get? name).map Value.ordered = (document.get? name).map Value.ordered)
include h

theorem valueAt_ordered (key : String) :
    (valueAt final name key).map Value.ordered = (valueAt document name key).map Value.ordered := by
  have hmap : ∀ d : Table, (valueAt d name key).map Value.ordered
      = ((d.get? name).map Value.ordered).bind (·.step? (.field key)) := by
    intro d
    rw [valueAt_eq]
    cases d.get? name with
    | none => rfl
    | some v => exact (step?_ordered v key).symm
  rw [hmap, hmap, h]

theorem exists_tableOf {table : Table} (htable : tableOf document name = .ok table) :
    ∃ table', tableOf final name = .ok table' := by
  have htable := tableOf_eq_ok.mp htable
  unfold tableOf
  cases hfinal : final.get? name with
  | none => exact ⟨_, rfl⟩
  | some v =>
    rw [hfinal, Option.map_some] at h
    obtain ⟨w, hw, hordered⟩ := Option.map_eq_some_iff.mp h.symm
    obtain rfl : w = .table table := by simpa [hw] using htable
    cases v with
    | table t => exact ⟨t, rfl⟩
    | _ => simp [Value.ordered] at hordered

end Ordered

end TestImpact.Settings
