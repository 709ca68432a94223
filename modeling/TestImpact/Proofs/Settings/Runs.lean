import TestImpact.Proofs.Settings.Store

/-
  Saves in any order.

  A run is a sequence of saves that all succeed. One save changes the keys that
  it gives, of its own section, and a clearing empties both sections
  (`Save.edit_spec`); every other section stays. So after a run each key has the
  value that the last save since the last clearing gave it, and else the one
  from the start, if nothing was cleared (`Run.follows`). Settings are loaded
  accordingly (`settings_of_run`).
-/

namespace TestImpact.Settings

open Toml (Table Value)

/-- A save with its arguments. -/
inductive Save where
  | selection (extensions prefixes suffixes : Option (List String))
  | analysis (backend : Option Backend) (base : Option String)
  | clear
  deriving DecidableEq

def sections : List String := ["selection", "analysis"]

namespace Save

def run (t : FileTree) (file : Path) : Save → Saved
  | selection extensions prefixes suffixes => saveSelection t file extensions prefixes suffixes
  | analysis backend base => saveAnalysis t file (backend.map Backend.name) base
  | clear => Settings.clear t file

/-- The fields that a save sets in a section. -/
def fields (name : String) : Save → Table
  | selection extensions prefixes suffixes =>
    if name = "selection" then
      listField "extensions" extensions ++ listField "test_prefixes" prefixes
        ++ listField "test_suffixes" suffixes
    else []
  | analysis backend base =>
    if name = "analysis" then
      textField "backend" (backend.map Backend.name) ++ textField "git_base" base
    else []
  | clear => []

/-- What a save makes of the document in the file. -/
def edit (document : Table) (save : Save) : Except SettingsFault Table :=
  match save with
  | selection .. => setIn "selection" (save.fields "selection") document
  | analysis .. => setIn "analysis" (save.fields "analysis") document
  | clear => .ok ((document.erase "selection").erase "analysis")

def document (t : FileTree) (file : Path) (save : Save) : Except SettingsFault Table := do
  let (loaded, _) ← loadDocument t file
  save.edit loaded

/-! What a save gives -/

def extensions? : Save → Option (List String)
  | selection extensions _ _ => extensions
  | _ => none

def prefixes? : Save → Option (List String)
  | selection _ prefixes _ => prefixes
  | _ => none

def suffixes? : Save → Option (List String)
  | selection _ _ suffixes => suffixes
  | _ => none

def backend? : Save → Option Backend
  | analysis backend _ => backend
  | _ => none

def base? : Save → Option String
  | analysis _ base => base
  | _ => none

end Save

/-- What was given last since the last clearing; if nothing was, and nothing was cleared, what was
there at first. -/
def lastSet {α : Type} (given : Save → Option α) (saves : List Save) (first : Option α) :
    Option α :=
  ((saves.reverse.takeWhile (· ≠ .clear)).findSome? given).or
    (if .clear ∈ saves then none else first)

/-- A run from `t`: each save succeeds. The documents are those that were written. -/
inductive Run (file : Path) (t : FileTree) : List Save → List Table → FileTree → Prop
  | start : Run file t [] [] t
  | save {saves : List Save} {documents : List Table} {t' : FileTree} {save : Save}
      {document : Table} {notes : List Note} (before : Run file t saves documents t')
      (written : save.document t' file = .ok document)
      (done : (save.run t' file).2 = .ok (true, notes)) :
      Run file t (saves ++ [save]) (documents ++ [document]) (save.run t' file).1

/-! What was set last -/

section LastSet

variable {α β : Type} {given : Save → Option α} {saves : List Save} {first : Option α}

theorem lastSet_clear : lastSet given (saves ++ [.clear]) first = none := by
  simp [lastSet]

theorem lastSet_save {save : Save} (h : save ≠ .clear) :
    lastSet given (saves ++ [save]) first = (given save).or (lastSet given saves first) := by
  simp only [lastSet, List.reverse_append, List.reverse_singleton, List.singleton_append,
    List.mem_append, List.mem_singleton, h.symm, or_false]
  rw [List.takeWhile_cons_of_pos (by simpa using h), List.findSome?_cons]
  cases given save <;> rfl

theorem lastSet_bind {wrap : β → α} {read : α → Option β} {given : Save → Option β}
    (hread : ∀ x, read (wrap x) = some x) :
    (lastSet (fun save => (given save).map wrap) saves first).bind read
      = lastSet given saves (first.bind read) := by
  have hfound : ∀ others : List Save, others.findSome? (fun save => (given save).map wrap)
      = (others.findSome? given).map wrap := by
    intro others
    induction others with
    | nil => rfl
    | cons save others ih =>
      rw [List.findSome?_cons, List.findSome?_cons, ih]
      cases given save <;> rfl
  unfold lastSet
  rw [hfound]
  cases (saves.reverse.takeWhile (· ≠ .clear)).findSome? given with
  | some x => exact hread x
  | none => split_ifs <;> rfl

end LastSet

/-! One save -/

section Step

variable {t : FileTree} {file : Path} {save : Save} {document changed : Table}

theorem Save.run_eq (save : Save) : save.run t file = change t file save.edit := by
  cases save with
  | selection extensions prefixes suffixes => rfl
  | analysis backend base =>
    cases backend with
    | none => rfl
    | some backend => cases backend <;> rfl
  | clear => rfl

theorem nodup_listFields (extensions prefixes suffixes : Option (List String)) :
    ((listField "extensions" extensions ++ listField "test_prefixes" prefixes
      ++ listField "test_suffixes" suffixes).map (·.1)).Nodup := by
  cases extensions <;> cases prefixes <;> cases suffixes <;> simp [listField]

theorem nodup_textFields (backend base : Option String) :
    ((textField "backend" backend ++ textField "git_base" base).map (·.1)).Nodup := by
  cases backend <;> cases base <;> simp [textField]

/-- Both sections hold settings, if they are there. -/
def HasSettings (document : Table) : Prop :=
  ∀ name ∈ sections, ∃ table, tableOf document name = .ok table

theorem setIn_sections {own : String} {fields : Table} (hown : own ∈ sections)
    (hnames : (fields.map (·.1)).Nodup) (htables : HasSettings document)
    (h : setIn own fields document = .ok changed) :
    HasSettings changed ∧
    (∀ name, own ≠ name → changed.get? name = document.get? name) ∧
    ∀ name key, valueAt changed name key =
      (Table.get? (if name = own then fields else []) key).or (valueAt document name key) := by
  obtain ⟨table, htable⟩ := htables own hown
  obtain ⟨changed', hset, hchanged, hothers, hkeys⟩ := setIn_spec hnames htable
  obtain rfl := Except.ok.inj (hset.symm.trans h)
  refine ⟨fun name hname => ?_, hothers, fun name key => ?_⟩
  · by_cases heq : own = name
    · exact heq ▸ hchanged
    · rw [tableOf_eq_of_get? (hothers name heq)]
      exact htables name hname
  · by_cases heq : name = own
    · rw [heq, if_pos rfl, hkeys]
    · rw [if_neg heq, valueAt_eq_of_get? (hothers name (Ne.symm heq))]
      rfl

/-- What a save changes of a document: the keys that it gives, or all of both sections. -/
theorem Save.edit_spec (htables : HasSettings document) (h : save.edit document = .ok changed) :
    HasSettings changed ∧
    (∀ name ∉ sections, changed.get? name = document.get? name) ∧
    ∀ name ∈ sections, ∀ key, valueAt changed name key =
      if save = .clear then none
      else (Table.get? (save.fields name) key).or (valueAt document name key) := by
  have hapart : ∀ own ∈ sections, ∀ name ∉ sections, own ≠ name := fun own hown name hname heq =>
    hname (heq ▸ hown)
  cases save with
  | selection extensions prefixes suffixes =>
    have hown : "selection" ∈ sections := by decide
    obtain ⟨hchanged, hothers, hkeys⟩ :=
      setIn_sections hown (nodup_listFields extensions prefixes suffixes) htables h
    exact ⟨hchanged, fun name hname => hothers name (hapart _ hown name hname),
      fun name _ key => hkeys name key⟩
  | analysis backend base =>
    have hown : "analysis" ∈ sections := by decide
    obtain ⟨hchanged, hothers, hkeys⟩ :=
      setIn_sections hown (nodup_textFields (backend.map Backend.name) base) htables h
    exact ⟨hchanged, fun name hname => hothers name (hapart _ hown name hname),
      fun name _ key => hkeys name key⟩
  | clear =>
    obtain rfl := Except.ok.inj h
    have hget : ∀ name, Table.get? ((document.erase "selection").erase "analysis") name
        = if name ∈ sections then none else document.get? name := by
      intro name
      rw [Table.get?_erase, Table.get?_erase]
      simp only [sections, List.mem_cons, List.not_mem_nil, or_false]
      grind
    refine ⟨fun name hname => ⟨[], ?_⟩, fun name hname => ?_, fun name hname key => ?_⟩
    · rw [tableOf, hget, if_pos hname]
    · rw [hget, if_neg hname]
    · rw [valueAt_eq, hget, if_pos hname]
      rfl

end Step

/-! Runs -/

section Runs

variable {t t' : FileTree} {file : Path} {start final changed : Table} {notes : List Note}
  {saves : List Save} {documents : List Table}

/-- What is known of the document in the file after saves. -/
structure Follows (start final : Table) (saves : List Save) : Prop where
  tables : HasSettings final
  others : ∀ name ∉ sections,
    (final.get? name).map Value.ordered = (start.get? name).map Value.ordered
  keys : ∀ name ∈ sections, ∀ key, (valueAt final name key).map Value.ordered =
    lastSet (fun save => Table.get? (save.fields name) key) saves
      ((valueAt start name key).map Value.ordered)

theorem Follows.refl (h : HasSettings start) : Follows start start [] where
  tables := h
  others _ _ := rfl
  keys _ _ _ := by simp [lastSet]

theorem orderedItems_texts (ts : List String) :
    Toml.orderedItems (ts.map .text) = ts.map .text := by
  induction ts with
  | nil => rfl
  | cons s ts ih => rw [List.map_cons, Toml.orderedItems, ih, Value.ordered] <;> simp

theorem Save.ordered_of_mem_fields {save : Save} {name : String} {field : String × Value}
    (h : field ∈ save.fields name) : field.2.ordered = field.2 := by
  have hlist : ∀ {key : String} {texts : Option (List String)}, field ∈ listField key texts →
      field.2.ordered = field.2 := by
    intro key texts hmem
    cases texts with
    | none => cases hmem
    | some ts =>
      rw [List.mem_singleton.mp hmem]
      simp only [Value.ordered, orderedItems_texts]
  have htext : ∀ {key : String} {text : Option String}, field ∈ textField key text →
      field.2.ordered = field.2 := by
    intro key text hmem
    cases text with
    | none => cases hmem
    | some s =>
      rw [List.mem_singleton.mp hmem]
      rfl
  unfold Save.fields at h
  split at h
  · split_ifs at h
    · simp only [List.mem_append] at h
      exact h.elim (fun h => h.elim hlist hlist) hlist
    · cases h
  · split_ifs at h
    · exact (List.mem_append.mp h).elim htext htext
    · cases h
  · cases h

theorem Save.fields_ordered (save : Save) (name key : String) :
    (Table.get? (save.fields name) key).map Value.ordered = Table.get? (save.fields name) key := by
  cases hget : Table.get? (save.fields name) key with
  | none => rfl
  | some v =>
    obtain ⟨field, hfield, rfl⟩ := Option.map_eq_some_iff.mp hget
    exact congrArg some (ordered_of_mem_fields (List.mem_of_find?_eq_some hfield))

theorem Follows.step {document : Table} {save : Save} (h : Follows start final saves)
    (hedit : save.edit final = .ok changed)
    (hsame : (Value.table document).ordered = (Value.table changed).ordered) :
    Follows start document (saves ++ [save]) := by
  obtain ⟨htables, hothers, hkeys⟩ := save.edit_spec h.tables hedit
  have hget := Toml.ordered_table_iff.mp hsame
  refine ⟨fun name hname => ?_, fun name hname => ?_, fun name hname key => ?_⟩
  · obtain ⟨table, htable⟩ := htables name hname
    exact exists_tableOf (hget name) htable
  · rw [hget, hothers name hname, h.others name hname]
  · -- A clearing leaves nothing of what was set before, and any other save comes before it.
    rw [valueAt_ordered (hget name), hkeys name hname]
    by_cases hclear : save = .clear
    · rw [if_pos hclear, hclear, lastSet_clear]
      rfl
    · rw [if_neg hclear, lastSet_save hclear, ← h.keys name hname, Option.map_or,
        save.fields_ordered]

theorem Follows.save {document : Table} {save : Save} {more : List Note}
    (h : Follows start final saves) (hload : loadDocument t' file = .ok (final, notes))
    (hwritten : save.document t' file = .ok document)
    (hdone : (save.run t' file).2 = .ok (true, more)) (hback : ReadsBack document) :
    ∃ next, loadDocument (save.run t' file).1 file = .ok (next, []) ∧
      Follows start next (saves ++ [save]) := by
  rw [Save.run_eq] at hdone ⊢
  obtain ⟨loaded, changed, loadNotes, hloaded, hedit, hstore⟩ := change_spec hdone
  obtain ⟨rfl, rfl⟩ := Prod.mk.inj (Except.ok.inj (hload.symm.trans hloaded))
  -- The document is made of what was loaded, and that is what the run has left in the file.
  obtain rfl : changed = document := by
    rw [Save.document, hload] at hwritten
    exact Except.ok.inj (hedit.symm.trans hwritten)
  rw [hstore] at hdone ⊢
  obtain ⟨next, hnext, hsame⟩ := loadDocument_store hdone hback
  exact ⟨next, hnext, h.step hedit hsame⟩

theorem Run.follows (hload : loadDocument t file = .ok (start, notes)) (htables : HasSettings start)
    (hrun : Run file t saves documents t') (hback : ∀ document ∈ documents, ReadsBack document) :
    ∃ final more, loadDocument t' file = .ok (final, more) ∧ Follows start final saves := by
  induction hrun with
  | start => exact ⟨start, notes, hload, Follows.refl htables⟩
  | save before written done ih =>
    obtain ⟨final, more, hfinal, hfollows⟩ := ih fun document hdocument =>
      hback document (List.mem_append_left _ hdocument)
    obtain ⟨next, hnext, hstep⟩ := hfollows.save hfinal written done
      (hback _ (List.mem_append_right _ (List.mem_singleton_self _)))
    exact ⟨next, [], hnext, hstep⟩

/-! Settings -/

/-- Reading what a key holds is reading what was set last, if reading does not depend on the order
of fields and gives back what saves put there. -/
theorem Follows.read {β : Type} {read : Value → Option β} {wrap : β → Value}
    {given : Save → Option β} {name key : String} (h : Follows start final saves)
    (hname : name ∈ sections) (hordered : ∀ v, read v.ordered = read v)
    (hread : ∀ x, read (wrap x) = some x)
    (hgiven : ∀ save, Table.get? (save.fields name) key = (given save).map wrap) :
    (valueAt final name key).bind read
      = lastSet given saves ((valueAt start name key).bind read) := by
  have hbind : ∀ v : Option Value, v.bind read = (v.map Value.ordered).bind read := by
    intro v
    cases v with
    | none => rfl
    | some v => exact (hordered v).symm
  rw [hbind, h.keys name hname, funext hgiven, lastSet_bind hread, ← hbind]

theorem textOf?_ordered (v : Value) :
    SelectionSettings.textOf? v.ordered = SelectionSettings.textOf? v := by
  cases v <;> rfl

theorem textOf?_text (s : String) : SelectionSettings.textOf? (.text s) = some s := rfl

theorem textsOf?_ordered (v : Value) :
    SelectionSettings.textsOf? v.ordered = SelectionSettings.textsOf? v := by
  cases v with
  | array items =>
    simp only [Value.ordered, SelectionSettings.textsOf?]
    induction items with
    | nil => rfl
    | cons v vs ih => rw [Toml.orderedItems, List.mapM_cons, List.mapM_cons, textOf?_ordered, ih]
  | _ => rfl

theorem textsOf?_texts (ts : List String) :
    SelectionSettings.textsOf? (.array (ts.map .text)) = some ts := by
  rw [SelectionSettings.textsOf?]
  induction ts with
  | nil => rfl
  | cons s ts ih =>
    rw [List.map_cons, List.mapM_cons, ih]
    rfl

theorem backendOf?_ordered (v : Value) :
    AnalysisSettings.backendOf? v.ordered = AnalysisSettings.backendOf? v := by
  cases v <;> rfl

theorem backendOf?_name (b : Backend) : AnalysisSettings.backendOf? (.text b.name) = some b := by
  cases b <;> rfl

theorem baseOf?_eq (v : Value) :
    AnalysisSettings.baseOf? v = (SelectionSettings.textOf? v).filter (!·.isEmpty) := by
  cases v with
  | text s =>
    rw [AnalysisSettings.baseOf?, SelectionSettings.textOf?, Option.filter_some]
    cases s.isEmpty <;> rfl
  | _ => rfl

/-- The selection settings after saves: of each list the one that was set last, or that at the
start if it was valid and nothing was cleared, or the standard one. -/
def selectionAfter (first : Table) (saves : List Save) : SelectionSettings where
  extensions := (lastSet Save.extensions? saves
    ((first.get? "extensions").bind SelectionSettings.textsOf?)).getD
      SelectionSettings.standard.extensions
  naming :=
    ⟨(lastSet Save.prefixes? saves
      ((first.get? "test_prefixes").bind SelectionSettings.textsOf?)).getD Naming.standard.prefixes,
    (lastSet Save.suffixes? saves
      ((first.get? "test_suffixes").bind SelectionSettings.textsOf?)).getD Naming.standard.suffixes⟩

/-- The analysis settings after saves, likewise. The empty revision stands for the standard one. -/
def analysisAfter (first : Table) (saves : List Save) : AnalysisSettings where
  backend := (lastSet Save.backend? saves
    ((first.get? "backend").bind AnalysisSettings.backendOf?)).getD
      AnalysisSettings.standard.backend
  base := ((lastSet Save.base? saves
    ((first.get? "git_base").bind SelectionSettings.textOf?)).filter (!·.isEmpty)).getD
      AnalysisSettings.standard.base

theorem get?_append (t u : Table) (key : String) :
    Table.get? (t ++ u) key = (Table.get? t key).or (Table.get? u key) := by
  induction t with
  | nil => rfl
  | cons field t ih =>
    rw [List.cons_append, Table.get?_cons, Table.get?_cons, ih]
    split_ifs <;> rfl

theorem get?_listField (name key : String) (texts : Option (List String)) :
    Table.get? (listField name texts) key
      = if name = key then texts.map fun ts => .array (ts.map .text) else none := by
  cases texts with
  | none => simp [listField, Table.get?_nil]
  | some ts => simp [listField, Table.get?_cons, Table.get?_nil]

theorem get?_textField (name key : String) (text : Option String) :
    Table.get? (textField name text) key = if name = key then text.map .text else none := by
  cases text with
  | none => simp [textField, Table.get?_nil]
  | some s => simp [textField, Table.get?_cons, Table.get?_nil]

theorem Follows.selection {first table : Table} (h : Follows start final saves)
    (hfirst : tableOf start "selection" = .ok first)
    (htable : tableOf final "selection" = .ok table) :
    (SelectionSettings.ofTable table).1 = selectionAfter first saves := by
  have hname : "selection" ∈ sections := by decide
  have hread : ∀ (key : String) (given : Save → Option (List String)),
      (∀ save, Table.get? (Save.fields "selection" save) key
        = (given save).map fun ts => .array (ts.map .text)) →
      (table.get? key).bind SelectionSettings.textsOf?
        = lastSet given saves ((first.get? key).bind SelectionSettings.textsOf?) := by
    intro key given hgiven
    rw [← valueAt_of_tableOf htable, ← valueAt_of_tableOf hfirst]
    exact h.read hname textsOf?_ordered textsOf?_texts hgiven
  have hextensions := hread "extensions" Save.extensions? fun save => by
    cases save <;> simp [Save.fields, Save.extensions?, get?_append, get?_listField, Table.get?_nil]
  have hprefixes := hread "test_prefixes" Save.prefixes? fun save => by
    cases save <;> simp [Save.fields, Save.prefixes?, get?_append, get?_listField, Table.get?_nil]
  have hsuffixes := hread "test_suffixes" Save.suffixes? fun save => by
    cases save <;> simp [Save.fields, Save.suffixes?, get?_append, get?_listField, Table.get?_nil]
  rw [selection_ofTable, hextensions, hprefixes, hsuffixes]
  rfl

theorem Follows.analysis {first table : Table} (h : Follows start final saves)
    (hfirst : tableOf start "analysis" = .ok first)
    (htable : tableOf final "analysis" = .ok table) :
    (AnalysisSettings.ofTable table).1 = analysisAfter first saves := by
  have hname : "analysis" ∈ sections := by decide
  have hbackend : (table.get? "backend").bind AnalysisSettings.backendOf?
      = lastSet Save.backend? saves ((first.get? "backend").bind AnalysisSettings.backendOf?) := by
    rw [← valueAt_of_tableOf htable, ← valueAt_of_tableOf hfirst]
    refine h.read hname backendOf?_ordered backendOf?_name fun save => ?_
    cases save <;>
      simp [Save.fields, Save.backend?, get?_append, get?_textField, Table.get?_nil,
        Function.comp_def]
  have hbase : (table.get? "git_base").bind SelectionSettings.textOf?
      = lastSet Save.base? saves ((first.get? "git_base").bind SelectionSettings.textOf?) := by
    rw [← valueAt_of_tableOf htable, ← valueAt_of_tableOf hfirst]
    -- The empty revision counts as set; it is left out when the settings are made.
    refine h.read hname textOf?_ordered textOf?_text fun save => ?_
    cases save <;> simp [Save.fields, Save.base?, get?_append, get?_textField, Table.get?_nil]
  have hfilter : (table.get? "git_base").bind AnalysisSettings.baseOf?
      = ((table.get? "git_base").bind SelectionSettings.textOf?).filter (!·.isEmpty) := by
    cases table.get? "git_base" with
    | none => rfl
    | some v => exact baseOf?_eq v
  rw [analysis_ofTable, hbackend, hfilter, hbase]
  rfl

/-- After any run of saves every other section of the file is as it was at the start, each key of
the two sections holds what was set last, and the settings that are loaded are those that were set
last since the last clearing, or those of the start, or the standard ones. -/
theorem settings_of_run {selection analysis : Table}
    (hload : loadDocument t file = .ok (start, notes))
    (hselection : tableOf start "selection" = .ok selection)
    (hanalysis : tableOf start "analysis" = .ok analysis)
    (hrun : Run file t saves documents t') (hback : ∀ document ∈ documents, ReadsBack document) :
    ∃ final finalNotes selectionNotes analysisNotes,
      loadDocument t' file = .ok (final, finalNotes) ∧
      (∀ name, name ≠ "selection" → name ≠ "analysis" →
        (final.get? name).map Value.ordered = (start.get? name).map Value.ordered) ∧
      (∀ name ∈ sections, ∀ key, (valueAt final name key).map Value.ordered =
        lastSet (fun save => Table.get? (save.fields name) key) saves
          ((valueAt start name key).map Value.ordered)) ∧
      loadSelection t' file = .ok (selectionAfter selection saves, selectionNotes) ∧
      loadAnalysis t' file = .ok (analysisAfter analysis saves, analysisNotes) := by
  have htables : HasSettings start := by
    intro name hname
    rcases List.mem_pair.mp hname with rfl | rfl
    · exact ⟨selection, hselection⟩
    · exact ⟨analysis, hanalysis⟩
  obtain ⟨final, finalNotes, hfinal, h⟩ := hrun.follows hload htables hback
  obtain ⟨selectionTable, hselectionTable⟩ := h.tables "selection" (by decide)
  obtain ⟨analysisTable, hanalysisTable⟩ := h.tables "analysis" (by decide)
  have hloadSelection := loadSelection_of_tableOf hfinal hselectionTable
  rw [h.selection hselection hselectionTable] at hloadSelection
  have hloadAnalysis := loadAnalysis_of_tableOf hfinal hanalysisTable
  rw [h.analysis hanalysis hanalysisTable] at hloadAnalysis
  refine ⟨final, finalNotes, _, _, hfinal, fun name hsel hana => ?_, h.keys, hloadSelection,
    hloadAnalysis⟩
  exact h.others name fun hmem => (List.mem_pair.mp hmem).elim hsel hana

end Runs

theorem readsBack_of_text {document : Table} (text : String)
    (hwrite : Toml.writeDocument document = .ok text)
    (hread : Toml.readDocument text.toList = .ok document) : ReadsBack document := by
  intro written hwritten
  obtain rfl := Except.ok.inj (hwrite.symm.trans hwritten)
  exact ⟨document, hread, rfl⟩

/-- A list is set and cleared, and then a reader and the empty revision are set: the list has its
standard value again, so has the revision, and the other section stays. -/
theorem settings_of_run_cleared :
    let file : Path := ⟨"", ["home", "config.toml"]⟩
    let t : FileTree := ⟨["work"], [(["work", "home", "config.toml"],
      .file (Text.encode "[custom]\nkey = 1\n"))]⟩
    let saves : List Save :=
      [.selection (some [".pyx"]) none none, .clear, .analysis (some .treeSitter) (some "")]
    ∃ documents t' final finalNotes selectionNotes analysisNotes, Run file t saves documents t' ∧
      loadDocument t' file = .ok (final, finalNotes) ∧
      (final.get? "custom").map Value.ordered = some (.table [("key", .int 1)]) ∧
      loadSelection t' file = .ok (SelectionSettings.standard, selectionNotes) ∧
      loadAnalysis t' file = .ok (⟨.treeSitter, "HEAD"⟩, analysisNotes) := by
  intro file t saves
  let custom : String × Value := ("custom", .table [("key", .int 1)])
  let listed : Table := [custom, ("selection", .table [("extensions", .array [.text ".pyx"])])]
  let chosen : Table :=
    [custom, ("analysis", .table [("backend", .text "tree-sitter"), ("git_base", .text "")])]
  let list : Save := .selection (some [".pyx"]) none none
  let choose : Save := .analysis (some .treeSitter) (some "")
  let t₁ := (list.run t file).1
  let t₂ := (Save.clear.run t₁ file).1
  have hlist : (list.run t file).2 = .ok (true, []) := by decide +kernel
  have hclear : (Save.clear.run t₁ file).2 = .ok (true, []) := by decide +kernel
  have hchoose : (choose.run t₂ file).2 = .ok (true, []) := by decide +kernel
  have hrun : Run file t saves [listed, [custom], chosen] (choose.run t₂ file).1 :=
    .save (.save (.save .start (by decide +kernel) hlist) (by decide +kernel) hclear)
      (by decide +kernel) hchoose
  have hback : ∀ document ∈ [listed, [custom], chosen], ReadsBack document := by
    simp only [List.forall_mem_cons]
    refine ⟨?_, ?_, ?_, by simp⟩
    · exact readsBack_of_text
        "[custom]\nkey = 1\n\n[selection]\nextensions = [ \".pyx\",]\n"
        (by decide +kernel) (by decide +kernel)
    · exact readsBack_of_text "[custom]\nkey = 1\n" (by decide +kernel) (by decide +kernel)
    · exact readsBack_of_text
        "[custom]\nkey = 1\n\n[analysis]\nbackend = \"tree-sitter\"\ngit_base = \"\"\n"
        (by decide +kernel) (by decide +kernel)
  have hload : loadDocument t file = .ok ([custom], []) := by decide +kernel
  obtain ⟨final, finalNotes, selectionNotes, analysisNotes, hfinal, hothers, -, hselection,
    hanalysis⟩ := settings_of_run hload rfl rfl hrun hback
  refine ⟨_, _, final, finalNotes, selectionNotes, analysisNotes, hrun, hfinal, ?_, hselection,
    hanalysis⟩
  rw [hothers "custom" (by decide) (by decide)]
  rfl

end TestImpact.Settings
