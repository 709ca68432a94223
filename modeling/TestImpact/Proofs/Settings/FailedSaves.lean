import TestImpact.Proofs.Settings.Store

/-
  Saves that fail.

  A save checks its arguments, loads the document and changes it before
  anything is written, so whatever goes wrong up to then leaves all files as
  they are (`Request.run_eq`). Then it makes the directories, opens the file,
  which empties it, and only then puts the document into words. A file that
  cannot be opened stays as it was, but a document that has no text leaves an
  empty file (`store_cases`).

  So a failed save changes no other file, and it loses what was in the file of
  the settings exactly if the file could be opened and the changed document has
  no text (`failed_save_keeps_files`). `save_empties_file` shows that this
  happens.
-/

namespace TestImpact.Settings

open Toml (Table Value)

/-- A save that is asked for, with its arguments as they are given. -/
inductive Request where
  | selection (extensions prefixes suffixes : Option (List String))
  | analysis (backend base : Option String)
  | clear

namespace Request

def run (t : FileTree) (file : Path) : Request → Saved
  | selection extensions prefixes suffixes => saveSelection t file extensions prefixes suffixes
  | analysis backend base => saveAnalysis t file backend base
  | clear => Settings.clear t file

/-- The name of a reader that is not known, if one is given. -/
def unknownBackend? : Request → Option String
  | analysis backend _ => backend.filter fun name => (Backend.ofName? name).isNone
  | _ => none

/-- What a request makes of the document in the file. -/
def edit (document : Table) : Request → Except SettingsFault Table
  | selection extensions prefixes suffixes =>
    setIn "selection" (listField "extensions" extensions ++ listField "test_prefixes" prefixes
      ++ listField "test_suffixes" suffixes) document
  | analysis backend base =>
    setIn "analysis" (textField "backend" backend ++ textField "git_base" base) document
  | clear => .ok ((document.erase "selection").erase "analysis")

/-- The document that a request is to write, and the notes of loading. -/
def prepare (t : FileTree) (file : Path) (request : Request) :
    Except SettingsFault (Table × List Note) :=
  match request.unknownBackend? with
  | some name => .error (.unknownBackend name)
  | none => do
    let (document, notes) ← loadDocument t file
    return (← request.edit document, notes)

variable {t : FileTree} {file : Path} {request : Request}

theorem run_of_known (h : request.unknownBackend? = none) :
    request.run t file = change t file fun document => request.edit document := by
  cases request with
  | selection extensions prefixes suffixes => rfl
  | analysis backend base =>
    have hbackend : (backend.filter fun name => (Backend.ofName? name).isNone) = none := h
    rw [run, saveAnalysis, hbackend]
    rfl
  | clear => rfl

theorem run_of_unknown {name : String} (h : request.unknownBackend? = some name) :
    request.run t file = (t, .error (.unknownBackend name)) := by
  cases request with
  | selection extensions prefixes suffixes => cases h
  | analysis backend base =>
    have hbackend : (backend.filter fun name => (Backend.ofName? name).isNone) = some name := h
    rw [run, saveAnalysis, hbackend]
  | clear => cases h

/-- What fails before there is a document to write leaves everything as it is. -/
theorem run_eq (t : FileTree) (file : Path) (request : Request) :
    request.run t file = match request.prepare t file with
      | .error fault => (t, .error fault)
      | .ok (document, notes) => store t file document notes := by
  unfold prepare
  cases hbackend : request.unknownBackend? with
  | some name => exact run_of_unknown hbackend
  | none =>
    rw [run_of_known hbackend, change]
    cases loadDocument t file with
    | error fault => rfl
    | ok loaded =>
      simp only [bind, Except.bind]
      cases request.edit loaded.1 <;> rfl

theorem loadDocument_ne_unwritable (t : FileTree) (file : Path) (fault : Toml.WriteFault) :
    loadDocument t file ≠ .error (.unwritable fault) := by
  unfold loadDocument
  repeat' split
  all_goals simp

theorem edit_ne_unwritable (document : Table) (request : Request) (fault : Toml.WriteFault) :
    request.edit document ≠ .error (.unwritable fault) := by
  have hset : ∀ name fields, setIn name fields document ≠ .error (.unwritable fault) := by
    intro name fields
    unfold setIn setFields
    split
    all_goals simp [Except.map]
  cases request with
  | selection extensions prefixes suffixes => exact hset _ _
  | analysis backend base => exact hset _ _
  | clear => simp [edit]

/-- Only the last step, putting a document into words, fails for the lack of a text. -/
theorem prepare_ne_unwritable (t : FileTree) (file : Path) (request : Request)
    (fault : Toml.WriteFault) : request.prepare t file ≠ .error (.unwritable fault) := by
  unfold prepare
  cases request.unknownBackend? with
  | some name => simp
  | none =>
    have hload := loadDocument_ne_unwritable t file fault
    cases hloaded : loadDocument t file with
    | error other => simpa [bind, Except.bind, hloaded] using hload
    | ok loaded =>
      have hedit := edit_ne_unwritable loaded.1 request fault
      cases hchanged : request.edit loaded.1 with
      | error other => simpa [bind, Except.bind, hchanged] using hedit
      | ok changed => simp [bind, Except.bind, hchanged, pure, Except.pure]

end Request

/-! ## Storing -/

/-- The file can be opened for writing, once the directories on the way to it are made. -/
def Opens (t : FileTree) (file : Path) : Prop :=
  (t.makeWay (t.start file) file.names.dropLast).2 = true ∧
    (t.makeWay (t.start file) file.names.dropLast).1.isDirectory (t.place file) = false

/-- The same content is in both at all places but one. -/
def SameElsewhere (place : List String) (t t' : FileTree) : Prop :=
  ∀ other, other ≠ place → t'.content? other = t.content? other

/-- A document is stored, or the file cannot be opened and stays as it is, or it is opened and left
empty because the document has no text. -/
theorem store_cases (t : FileTree) (file : Path) (document : Table) (notes : List Note) :
    SameElsewhere (t.place file) t (store t file document notes).1 ∧
    ((∃ more, (store t file document notes).2 = .ok (true, more)) ∨
    (¬Opens t file ∧ (∃ more, (store t file document notes).2 = .ok (false, more)) ∧
      (store t file document notes).1.content? (t.place file) = t.content? (t.place file)) ∨
    ∃ fault, Opens t file ∧ Toml.writeDocument document = .error fault ∧
      (store t file document notes).2 = .error (.unwritable fault) ∧
      (store t file document notes).1.content? (t.place file) = some []) := by
  have hway := t.content?_makeWay (t.start file) file.names.dropLast
  unfold store Opens
  rcases hmade : t.makeWay (t.start file) file.names.dropLast with ⟨t', isOpen⟩
  simp only [hmade] at hway ⊢
  have hput : ∀ content, SameElsewhere (t.place file) t
      (t'.put (t.place file) (.file content)) := by
    intro content other hother
    rw [FileTree.content?_put_of_ne hother.symm, hway]
  by_cases hopens : isOpen = true ∧ t'.isDirectory (t.place file) = false
  · obtain ⟨rfl, hplace⟩ := hopens
    simp only [hplace, Bool.not_true, Bool.or_self, Bool.false_eq_true, if_false]
    cases htext : Toml.writeDocument document with
    | ok text => exact ⟨hput _, .inl ⟨notes, rfl⟩⟩
    | error fault =>
      exact ⟨hput _, .inr (.inr ⟨fault, ⟨trivial, trivial⟩, rfl, rfl,
        FileTree.content?_put t' _ _⟩)⟩
  · have hclosed : (!isOpen || t'.isDirectory (t.place file)) = true := by
      cases isOpen <;> simp_all
    simp only [hclosed, if_true]
    exact ⟨fun other _ => hway other, .inr (.inl ⟨hopens, ⟨_, rfl⟩, hway _⟩)⟩

/-- **What a failed save loses.** A save that does not succeed changes no file but that of the
settings. What this one held, whatever it was, is kept, or there is still no file, unless the
document to be written has no text: then the file is empty. It comes to that exactly if the file can
be opened and a document without a text was made for it. -/
theorem failed_save_keeps_files (t : FileTree) (file : Path) (request : Request)
    (hfailed : ∀ notes, (request.run t file).2 ≠ .ok (true, notes)) :
    SameElsewhere (t.place file) t (request.run t file).1 ∧
    ((¬∃ fault, (request.run t file).2 = .error (.unwritable fault)) ∧
        (request.run t file).1.content? (t.place file) = t.content? (t.place file) ∨
      (∃ fault, (request.run t file).2 = .error (.unwritable fault)) ∧
        (request.run t file).1.content? (t.place file) = some []) ∧
    ∀ fault, (request.run t file).2 = .error (.unwritable fault) ↔
      Opens t file ∧ ∃ document notes, request.prepare t file = .ok (document, notes) ∧
        Toml.writeDocument document = .error fault := by
  rw [Request.run_eq] at hfailed ⊢
  cases hprepared : request.prepare t file with
  | error fault =>
    have hnever : ∀ other, fault ≠ .unwritable other := fun other heq =>
      request.prepare_ne_unwritable t file other (heq ▸ hprepared)
    refine ⟨fun other _ => rfl, .inl ⟨?_, rfl⟩, fun other => ?_⟩
    · simp [hnever]
    · simp [hnever]
  | ok prepared =>
    obtain ⟨document, notes⟩ := prepared
    rw [hprepared] at hfailed
    obtain ⟨helsewhere, ⟨more, hstored⟩ | ⟨hclosed, ⟨more, hresult⟩, hkept⟩ |
      ⟨fault, hopens, htext, hresult, hempty⟩⟩ := store_cases t file document notes
    · exact absurd hstored (hfailed more)
    · -- The file could not be opened.
      refine ⟨helsewhere, .inl ⟨?_, hkept⟩, fun fault => ?_⟩
      · simp [hresult]
      · simp [hresult, hclosed]
    · -- The document has no text.
      refine ⟨helsewhere, .inr ⟨⟨fault, hresult⟩, hempty⟩, fun other => ?_⟩
      simp only [hresult, hopens, true_and]
      simp [htext]

/-- A section that is a number takes up no field, and the file stays as it is. -/
theorem failed_save_of_number :
    let file : Path := ⟨"", ["home", "config.toml"]⟩
    let content := Text.encode "analysis = 1\n[custom]\nkey = 1\n"
    let t : FileTree := ⟨["work"], [(["work", "home", "config.toml"], .file content)]⟩
    let request : Request := .analysis none (some "main")
    (∀ notes, (request.run t file).2 ≠ .ok (true, notes)) ∧
      (request.run t file).2 = .error (.fixedValue "int") ∧
      (request.run t file).1.content? ["work", "home", "config.toml"] = some content := by
  intro file content t request
  have hresult : (request.run t file).2 = .error (.fixedValue "int") := by decide +kernel
  have hfailed : ∀ notes, (request.run t file).2 ≠ .ok (true, notes) := by simp [hresult]
  obtain ⟨-, ⟨-, hkept⟩ | ⟨⟨fault, hfault⟩, -⟩, -⟩ := failed_save_keeps_files t file request hfailed
  · exact ⟨hfailed, hresult, hkept.trans (by decide +kernel)⟩
  · simp [hresult] at hfault

/-- A revision that begins with a control character has no text. Saving it fails, and the file,
which held a section of its own, is empty afterwards. -/
theorem save_empties_file :
    let file : Path := ⟨"", ["home", "config.toml"]⟩
    let place := ["work", "home", "config.toml"]
    let content := Text.encode "[custom]\nkeep = \"me\"\n"
    let t : FileTree := ⟨["work"], [(place, .file content)]⟩
    let saved := saveAnalysis t file none (some "\x01x")
    saved.2 = .error (.unwritable .leadingControl) ∧ content ≠ [] ∧
      t.content? place = some content ∧ saved.1.content? place = some [] := by
  intro file place content t saved
  exact ⟨by decide +kernel, by decide +kernel, by decide +kernel, by decide +kernel⟩

end TestImpact.Settings
