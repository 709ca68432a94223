import TestImpact.Proofs.Settings.Store

/-
  Settings of files that hold anything.

  Whatever the file of the settings holds, they are either taken from a table
  or not loaded at all. They are taken from a table if there is no file, if its
  text is malformed, or if the section is a table or missing (`TakenFrom`); then
  every valid value of the table counts, and the standard one stands for any
  other. They are not loaded if the bytes are no text, if the text has a fault
  other than being malformed, or if the section is no table (`Stops`). One of
  the two is always the case (`settings_of_content`).
-/

namespace TestImpact.Settings

open Toml (Table Value)

/-- The table that the settings of a section are taken from. -/
inductive TakenFrom (content : Option (List UInt8)) (name : String) : Table → Prop
  | absent (h : content = none) : TakenFrom content name []
  | malformed {bytes : List UInt8} {text : List Char} (h : content = some bytes)
      (decoded : Text.decode bytes = .ok text)
      (fault : Toml.readDocument (Text.unifyLineEnds text) = .error .malformed) :
      TakenFrom content name []
  | ofDocument {bytes : List UInt8} {text : List Char} {document table : Table}
      (h : content = some bytes) (decoded : Text.decode bytes = .ok text)
      (read : Toml.readDocument (Text.unifyLineEnds text) = .ok document)
      (found : tableOf document name = .ok table) : TakenFrom content name table

/-- Why the settings of a section are not loaded. -/
inductive Stops (content : Option (List UInt8)) (name : String) : SettingsFault → Prop
  | undecodable {bytes : List UInt8} {fault : Text.DecodeError} (h : content = some bytes)
      (decoded : Text.decode bytes = .error fault) : Stops content name (.undecodable fault)
  | unreadable {bytes : List UInt8} {text : List Char} {fault : Toml.Fault}
      (h : content = some bytes) (decoded : Text.decode bytes = .ok text)
      (read : Toml.readDocument (Text.unifyLineEnds text) = .error fault)
      (other : fault ≠ .malformed) : Stops content name (.unreadable fault)
  | notATable {bytes : List UInt8} {text : List Char} {document : Table} {v : Value}
      (h : content = some bytes) (decoded : Text.decode bytes = .ok text)
      (read : Toml.readDocument (Text.unifyLineEnds text) = .ok document)
      (found : document.get? name = some v) (other : ∀ t, v ≠ .table t) :
      Stops content name (.notATable v.kind)

theorem tableOf_cases (document : Table) (name : String) :
    (∃ table, tableOf document name = .ok table) ∨
      ∃ v, document.get? name = some v ∧ ∀ t, v ≠ .table t := by
  unfold tableOf
  cases document.get? name with
  | none => exact .inl ⟨[], rfl⟩
  | some v =>
    cases v with
    | table t => exact .inl ⟨t, rfl⟩
    | _ => exact .inr ⟨_, rfl, nofun⟩

theorem takenFrom_or_stops (content : Option (List UInt8)) (name : String) :
    (∃ table, TakenFrom content name table) ∨ ∃ fault, Stops content name fault := by
  cases hcontent : content with
  | none => exact .inl ⟨[], .absent rfl⟩
  | some bytes =>
    cases hdecoded : Text.decode bytes with
    | error fault => exact .inr ⟨_, .undecodable rfl hdecoded⟩
    | ok text =>
      cases hread : Toml.readDocument (Text.unifyLineEnds text) with
      | error fault =>
        by_cases hfault : fault = .malformed
        · exact .inl ⟨[], .malformed rfl hdecoded (hfault ▸ hread)⟩
        · exact .inr ⟨_, .unreadable rfl hdecoded hread hfault⟩
      | ok document =>
        rcases tableOf_cases document name with ⟨table, htable⟩ | ⟨v, hv, hother⟩
        · exact .inl ⟨table, .ofDocument rfl hdecoded hread htable⟩
        · exact .inr ⟨_, .notATable rfl hdecoded hread hv hother⟩

section Load

variable {t : FileTree} {file : Path} {name : String} {bytes : List UInt8} {text : List Char}
  {table : Table} {fault : SettingsFault}

def contentOf (t : FileTree) (file : Path) : Option (List UInt8) :=
  (t.locate file).bind t.content?

theorem TakenFrom.loadTable (h : TakenFrom (contentOf t file) name table) :
    ∃ notes, loadTable t file name = .ok (table, notes) := by
  obtain ⟨document, notes, hload, htable⟩ : ∃ document notes,
      loadDocument t file = .ok (document, notes) ∧ tableOf document name = .ok table := by
    cases h with
    | absent h =>
      cases hplace : t.locate file with
      | none => exact ⟨[], [], by simp only [loadDocument, hplace], rfl⟩
      | some place =>
        rw [contentOf, hplace, Option.bind_some] at h
        exact ⟨[], if t.isDirectory place then [.unreadableSettings] else [],
          by simp only [loadDocument, hplace, h], rfl⟩
    | malformed h decoded fault =>
      obtain ⟨place, hplace, hcontent⟩ := Option.bind_eq_some_iff.mp h
      exact ⟨[], [.unreadableSettings],
        by simp only [loadDocument, hplace, hcontent, decoded, fault], rfl⟩
    | ofDocument h decoded read found =>
      obtain ⟨place, hplace, hcontent⟩ := Option.bind_eq_some_iff.mp h
      exact ⟨_, [], by simp only [loadDocument, hplace, hcontent, decoded, read], found⟩
  refine ⟨notes, ?_⟩
  rw [loadTable_of_loadDocument hload, htable]
  rfl

theorem Stops.loadTable (h : Stops (contentOf t file) name fault) :
    loadTable t file name = .error fault := by
  cases h with
  | undecodable h decoded =>
    obtain ⟨place, hplace, hcontent⟩ := Option.bind_eq_some_iff.mp h
    simp only [Settings.loadTable, loadDocument, hplace, hcontent, decoded]
    rfl
  | @unreadable _ _ fault h decoded read other =>
    obtain ⟨place, hplace, hcontent⟩ := Option.bind_eq_some_iff.mp h
    simp only [Settings.loadTable, loadDocument, hplace, hcontent, decoded, read]
    cases fault with
    | malformed => exact absurd rfl other
    | _ => rfl
  | @notATable _ _ document v h decoded read found other =>
    obtain ⟨place, hplace, hcontent⟩ := Option.bind_eq_some_iff.mp h
    have hload : loadDocument t file = .ok (document, []) := by
      simp only [loadDocument, hplace, hcontent, decoded, read]
    rw [loadTable_of_loadDocument hload, tableOf, found]
    cases v with
    | table t => exact absurd rfl (other t)
    | _ => rfl

/-! Settings -/

/-- Settings that are made of the table of a section are loaded if and only if there is a table
that they are taken from. -/
theorem loaded_iff {α : Type} {loaded : Except SettingsFault (α × List Note)} (made : Table → α)
    (remarks : Table → List Note)
    (hloaded : loaded = (Settings.loadTable t file name).map fun (table, notes) =>
      (made table, notes ++ remarks table)) :
    (∀ settings, (∃ notes, loaded = .ok (settings, notes)) ↔
      ∃ table, TakenFrom (contentOf t file) name table ∧ settings = made table) ∧
    ∀ fault, loaded = .error fault ↔ Stops (contentOf t file) name fault := by
  have hof : ∀ {table}, TakenFrom (contentOf t file) name table →
      ∃ notes, loaded = .ok (made table, notes) := by
    intro table htaken
    obtain ⟨notes, htable⟩ := htaken.loadTable
    exact ⟨_, by rw [hloaded, htable]; rfl⟩
  have hstop : ∀ {fault}, Stops (contentOf t file) name fault → loaded = .error fault := by
    intro fault hstops
    rw [hloaded, hstops.loadTable]
    rfl
  -- One of the two is always the case, so what came out tells which one it was.
  refine ⟨fun settings => ⟨fun hgiven => ?_, ?_⟩, fun fault => ⟨fun hgiven => ?_, hstop⟩⟩
  · obtain ⟨notes, hnotes⟩ := hgiven
    rcases takenFrom_or_stops (contentOf t file) name with ⟨table, htaken⟩ | ⟨fault, hstops⟩
    · obtain ⟨notes', hmade⟩ := hof htaken
      exact ⟨table, htaken, (Prod.mk.inj (Except.ok.inj (hnotes.symm.trans hmade))).1⟩
    · cases hnotes.symm.trans (hstop hstops)
  · rintro ⟨table, htaken, rfl⟩
    exact hof htaken
  · rcases takenFrom_or_stops (contentOf t file) name with ⟨table, htaken⟩ | ⟨other, hstops⟩
    · obtain ⟨notes, hmade⟩ := hof htaken
      cases hgiven.symm.trans hmade
    · exact Except.error.inj (hgiven.symm.trans (hstop hstops)) ▸ hstops

theorem mem_all (b : Backend) : b ∈ Backend.all := by
  cases b <;> decide

theorem base_ne_empty (table : Table) : (AnalysisSettings.ofTable table).1.base ≠ "" := by
  rw [analysis_ofTable]
  cases hbase : (table.get? "git_base").bind AnalysisSettings.baseOf? with
  | none => exact (by decide : AnalysisSettings.standard.base ≠ "")
  | some s =>
    obtain ⟨v, -, hv⟩ := Option.bind_eq_some_iff.mp hbase
    cases v with
    | text s' =>
      rw [AnalysisSettings.baseOf?] at hv
      split_ifs at hv with hempty
      obtain rfl := Option.some.inj hv
      simpa using hempty
    | _ => cases hv

/-- What the settings of a file are, whatever it holds. They are loaded unless something stops
this; then each valid value of the table counts, and else the standard one. -/
theorem settings_of_content (t : FileTree) (file : Path) :
    let content := contentOf t file
    (∀ settings, (∃ notes, loadSelection t file = .ok (settings, notes)) ↔
      ∃ table, TakenFrom content "selection" table ∧ settings =
        ⟨((table.get? "extensions").bind SelectionSettings.textsOf?).getD [".py"],
          ((table.get? "test_prefixes").bind SelectionSettings.textsOf?).getD
            Naming.standard.prefixes,
          ((table.get? "test_suffixes").bind SelectionSettings.textsOf?).getD
            Naming.standard.suffixes⟩) ∧
    (∀ fault, loadSelection t file = .error fault ↔ Stops content "selection" fault) ∧
    (∀ settings, (∃ notes, loadAnalysis t file = .ok (settings, notes)) ↔
      ∃ table, TakenFrom content "analysis" table ∧ settings =
        ⟨((table.get? "backend").bind AnalysisSettings.backendOf?).getD .ast,
          ((table.get? "git_base").bind AnalysisSettings.baseOf?).getD "HEAD"⟩) ∧
    (∀ fault, loadAnalysis t file = .error fault ↔ Stops content "analysis" fault) ∧
    ∀ settings notes, loadAnalysis t file = .ok (settings, notes) →
      settings.backend ∈ Backend.all ∧ settings.base ≠ "" := by
  intro content
  obtain ⟨hselection, hselectionStops⟩ := loaded_iff (fun table =>
    (SelectionSettings.ofTable table).1) (fun table => (SelectionSettings.ofTable table).2)
    (loadSelection_eq t file)
  obtain ⟨hanalysis, hanalysisStops⟩ := loaded_iff (fun table =>
    (AnalysisSettings.ofTable table).1) (fun table => (AnalysisSettings.ofTable table).2)
    (loadAnalysis_eq t file)
  simp only [selection_ofTable] at hselection
  refine ⟨hselection, hselectionStops, ?_, hanalysisStops, fun settings notes hload => ?_⟩
  · simp only [analysis_ofTable] at hanalysis
    exact hanalysis
  · obtain ⟨table, -, rfl⟩ := (hanalysis settings).mp ⟨notes, hload⟩
    exact ⟨mem_all _, base_ne_empty table⟩

/-- A valid list counts beside an invalid one. -/
example :
    loadSelection ⟨["work"], [(["work", "home", "config.toml"], .file (Text.encode
        "[selection]\nextensions = [\".pyx\"]\ntest_prefixes = 3\n"))]⟩
      ⟨"", ["home", "config.toml"]⟩
      = .ok (⟨[".pyx"], Naming.standard⟩, [.invalidSelection "test_prefixes"]) := by
  decide +kernel

/-- A byte that begins no character stops the loading of both settings. -/
theorem undecodable_stops :
    let t : FileTree := ⟨["work"], [(["work", "home", "config.toml"], .file [0xff])]⟩
    let file : Path := ⟨"", ["home", "config.toml"]⟩
    loadSelection t file = .error (.undecodable ⟨.invalidStart, 0, 1, 0xff⟩) ∧
      loadAnalysis t file = .error (.undecodable ⟨.invalidStart, 0, 1, 0xff⟩) := by
  intro t file
  exact ⟨by decide +kernel, by decide +kernel⟩

end Load

end TestImpact.Settings
