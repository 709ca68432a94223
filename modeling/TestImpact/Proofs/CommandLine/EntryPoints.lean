import TestImpact.CommandLine.Run
import TestImpact.Proofs.Diff.Joined
import TestImpact.Proofs.FileTree
import TestImpact.Proofs.Project

/-
  The entry points agree.

  A selection can be asked for with an index at hand, with a project that is
  read for it, or by a command that prints or writes what comes of it. Each has
  ends of its own: no diff text, no source roots, a blank diff. None of these
  ends changes an answer, because a blank diff has no files (`read_of_blank`)
  and a project without roots has no functions (`functions_of_no_roots`).

  What is printed is the listing of the answer without the escape sequences in
  it. Names have such sequences only if the names of files do; then the names
  that are printed are others than those that are found or written to a file.
-/

namespace TestImpact

/-! ## Texts as they are printed -/

theorem Display.withoutSequences_of_notMem {cs : List Char} (h : '\x1b' ∉ cs) :
    withoutSequences 0 cs = cs := by
  induction cs with
  | nil => rfl
  | cons c rest ih =>
    obtain ⟨hc, hrest⟩ : '\x1b' ≠ c ∧ '\x1b' ∉ rest := by simpa using h
    have hescape : (c == '\x1b') = false := by simpa using Ne.symm hc
    rw [withoutSequences, hescape, ih hrest]
    rfl

theorem Display.plain_of_notMem {s : String} (h : '\x1b' ∉ s.toList) : plain s = s := by
  rw [plain, withoutSequences_of_notMem h, String.ofList_toList]

theorem plain_listing {ids : List String} (h : ∀ id ∈ ids, '\x1b' ∉ id.toList) :
    Display.plain (listing ids) = listing ids := by
  refine Display.plain_of_notMem fun hgiven => ?_
  rcases Text.mem_toList_joined hgiven with hsep | ⟨id, hid, hc⟩
  · simp at hsep
  · exact h id (Text.mem_ascending.mp hid) hc

/-! ## Blank diffs -/

theorem Text.isBlank_of_trim {cs : List Char} (h : trim cs = []) {c : Char} (hc : c ∈ cs) :
    isBlank c = true := by
  rw [trim, trimRight, List.reverse_eq_nil_iff, List.dropWhile_eq_nil_iff] at h
  rw [← List.takeWhile_append_dropWhile (p := isBlank) (l := cs), List.mem_append] at hc
  rcases hc with hfront | hback
  · exact List.mem_takeWhile_imp hfront
  · exact h c (List.mem_reverse.mpr hback)

theorem Diff.read_of_blank {text : String} (h : Text.trim text.toList = []) :
    Diff.read text = .ok ([], []) := by
  have hcontent : ∀ line ∈ Text.lines text.toList, Line.read line = .content := by
    intro line hline
    refine read_eq_content (fun hgiven => ?_) (fun hgiven => ?_)
    · obtain ⟨rest, rfl⟩ := hgiven
      have hmark := Text.isBlank_of_trim h (c := '@') (Text.mem_of_mem_lines hline (by simp))
      exact absurd hmark (by decide)
    · obtain ⟨rest, rfl⟩ := hgiven
      have hmark := Text.isBlank_of_trim h (c := 'd') (Text.mem_of_mem_lines hline (by simp))
      exact absurd hmark (by decide)
  rw [Diff.read, Reading.run_content hcontent]
  rfl

/-! ## Projects without roots -/

theorem Project.functions_of_no_roots {spec : ProjectSpec} {t : FileTree} {p : Project}
    {notes : List Note} (h : Project.read spec t = .ok (p, notes)) (hroots : spec.roots = []) :
    p.functions = [] := by
  obtain ⟨o, fileNotes, hfiles, rfl, -⟩ := exists_outline h
  have hnone : sourceFiles t spec.roots = [] := by rw [hroots]; rfl
  rw [hnone] at hfiles
  obtain ⟨rfl, -⟩ : Source.Outline.empty = o ∧ _ := by simpa [ProjectSpec.readFiles] using hfiles
  rfl

/-! ## The answers of the library -/

namespace Index

variable {i : Index} {t : FileTree} {text : String}

theorem changedBy_of_select {c : Criteria} {k : Index} {found : Selection} {notes : List Note}
    (h : i.select t c text = .ok (k, found, notes)) :
    (i.changedBy t c.extensions text).map (·.2.1) = .ok found.changed := by
  unfold select at h
  cases hchanged : i.changedBy t c.extensions text with
  | error fault => simp [hchanged] at h
  | ok result =>
    obtain ⟨j, changed, changeNotes⟩ := result
    rw [hchanged] at h
    dsimp only at h
    split at h
    · rename_i hempty
      obtain ⟨-, rfl, -⟩ : j = k ∧ (⟨[], []⟩ : Selection) = found ∧ _ := by simpa using h
      exact congrArg Except.ok (List.isEmpty_iff.mp hempty)
    · obtain ⟨-, rfl, -⟩ : j = k ∧ (⟨changed, _⟩ : Selection) = found ∧ _ := by simpa using h
      rfl

end Index

namespace ProjectRequest

variable {r : ProjectRequest} {t : FileTree} {spec : ProjectSpec} {p : Project}
  {projectNotes : List Note} {text : String} {diff : Diff} {diffNotes : List Note}

/-- Where a request is idle, there is nothing to be found. -/
theorem selection_of_isIdle (hspec : r.spec t = .ok spec)
    (hread : Project.read spec t = .ok (p, projectNotes))
    (hdiff : Diff.read text = .ok (diff, diffNotes)) (hidle : r.isIdle text = true)
    (c : Criteria) : p.selection c diff = ⟨[], []⟩ := by
  rcases Bool.or_eq_true_iff.mp hidle with hempty | hroots
  · -- An empty text is a blank one.
    have hblank : Text.trim text.toList = [] := by
      obtain rfl : text = "" := by simpa using hempty
      rfl
    obtain ⟨rfl, -⟩ : diff = [] ∧ _ := by simpa [Diff.read_of_blank hblank] using hdiff
    exact Project.selection_of_isEmpty rfl
  · have hspecRoots : spec.roots = [] := by
      rw [ProjectRequest.spec] at hspec
      split at hspec
      · obtain rfl := Except.ok.inj hspec
        simpa using hroots
      · cases hspec
    exact Project.selection_of_no_functions (Project.functions_of_no_roots hread hspecRoots)

/-- The index of a project asks what a request would, and the ends of a request change nothing. -/
theorem answers_eq (hspec : r.spec t = .ok spec)
    (hread : Project.read spec t = .ok (p, projectNotes))
    (hdiff : Diff.read text = .ok (diff, diffNotes)) (c : Criteria) :
    ((Index.unread spec).select t c text).map (·.2.1) = .ok (p.selection c diff) ∧
    (r.changedBy t c.extensions text).map (·.1) = .ok (p.selection c diff).changed ∧
    (r.affectedListing t c text).map (·.1) = .ok (listing (p.selection c diff).affected) := by
  obtain ⟨k, notes, hselect⟩ := Index.select_eq (Index.force_of_read hread) hdiff c
  have hchanged := Index.changedBy_of_select hselect
  have hindex : r.index t = .ok (.unread spec) := by rw [index, hspec]
  refine ⟨by rw [hselect]; rfl, ?_, ?_⟩
  · unfold changedBy
    split
    · rename_i hidle
      rw [selection_of_isIdle hspec hread hdiff hidle c]
      rfl
    · rw [hindex]
      cases hanswer : (Index.unread spec).changedBy t c.extensions text with
      | error fault => simp [hanswer, Except.map] at hchanged
      | ok answer =>
        obtain ⟨j, changed, changeNotes⟩ := answer
        have hsame : changed = (p.selection c diff).changed := by
          simpa [hanswer, Except.map] using hchanged
        simp only [bind, Except.bind, hanswer, hsame]
        rfl
  · unfold affectedListing affectedBy
    split
    · rename_i hidle
      rw [selection_of_isIdle hspec hread hdiff hidle c]
      rfl
    · rw [hindex]
      simp only [bind, Except.bind, hselect]
      rfl

end ProjectRequest

/-! ## The answers of the commands -/

namespace CommandLine.Session

variable {w : Session} {s : Settings} {d : DiffOptions} {r : ProjectRequest} {spec : ProjectSpec}
  {project : Project} {projectNotes : List Note} {diff : Diff} {diffNotes : List Note}

theorem index_eq {p : ProjectOptions} (hrequest : w.request s p = .ok r)
    (hspec : r.spec w.files = .ok spec) : w.index s p = .ok (.unread spec) := by
  simp only [index, hrequest, ProjectRequest.index, hspec, bind, Except.bind]
  rfl

theorem select_eq (hread : Project.read spec w.files = .ok (project, projectNotes))
    (hdiff : Diff.read (w.diff d) = .ok (diff, diffNotes)) (naming : Naming) :
    w.select s (.unread spec) d naming = .ok
      (project.selection ⟨s.selection.extensionsOr d.extensions, naming.isTest⟩ diff).affected := by
  let c : Criteria := ⟨s.selection.extensionsOr d.extensions, naming.isTest⟩
  obtain ⟨k, notes, hselect⟩ := Index.select_eq (Index.force_of_read hread) hdiff c
  unfold select
  dsimp only
  split
  · rename_i hblank
    obtain ⟨rfl, -⟩ : diff = [] ∧ _ := by simpa [Diff.read_of_blank hblank] using hdiff
    rw [Project.selection_of_isEmpty rfl]
  · rw [hselect]

theorem changed_eq (hread : Project.read spec w.files = .ok (project, projectNotes))
    (hdiff : Diff.read (w.diff d) = .ok (diff, diffNotes)) (naming : Naming) :
    w.changed s (.unread spec) d = .ok
      (project.selection ⟨s.selection.extensionsOr d.extensions, naming.isTest⟩ diff).changed := by
  simp only [changed, hdiff, Index.force_of_read hread]
  rfl

theorem run_select {p : ProjectOptions} {i : Index} {prefixes suffixes affected : List String}
    (hindex : w.index s p = .ok i)
    (haffected : w.select s i d (s.selection.namingOr prefixes suffixes) = .ok affected)
    (output : Option Path) :
    w.run s (.select p d prefixes suffixes output) =
      { w.outcome (w.printSelected affected output) with calls := calls s p d } := by
  simp only [run, hindex, haffected, bind, Except.bind]

theorem run_changed {p : ProjectOptions} {i : Index} {changed : List String}
    (hindex : w.index s p = .ok i) (hchanged : w.changed s i d = .ok changed) :
    w.run s (.changed p d) = { w.printListing changed with calls := calls s p d } := by
  simp only [run, hindex, hchanged, Except.map, outcome]

/-- **The entry points agree.** If the project and the diff text can be read, an index, a request
for the changed functions and a request for the listing of the affected tests find the same,
whatever the project, the options and the settings. The commands print the listings of what these
find, or nothing where nothing is found, without the escape sequences in them. A file that is
written holds the whole listing. Where no name has an escape character, the whole listing is
printed too. -/
theorem entry_points_agree (hspec : r.spec w.files = .ok spec)
    (hread : Project.read spec w.files = .ok (project, projectNotes))
    (hdiff : Diff.read (w.diff d) = .ok (diff, diffNotes)) (prefixes suffixes : List String) :
    let text := w.diff d
    let naming := s.selection.namingOr prefixes suffixes
    let c : Criteria := ⟨s.selection.extensionsOr d.extensions, naming.isTest⟩
    ∃ changed affected,
      ((Index.unread spec).select w.files c text).map (·.2.1) = .ok ⟨changed, affected⟩ ∧
      (r.changedBy w.files c.extensions text).map (·.1) = .ok changed ∧
      (r.affectedListing w.files c text).map (·.1) = .ok (listing affected) ∧
      (∀ p, w.request s p = .ok r →
        w.run s (.changed p d) =
          { files := w.files, calls := calls s p d,
            output := if changed.isEmpty then "" else Display.plain (listing changed) ++ "\n" } ∧
        w.run s (.select p d prefixes suffixes none) =
          { files := w.files, calls := calls s p d,
            output := if affected.isEmpty then "" else Display.plain (listing affected) ++ "\n" } ∧
        ∀ path,
          (∀ fault, w.files.write path (listing affected) = .error fault →
            w.run s (.select p d prefixes suffixes (some path)) =
              { fails w.files (.file fault) with calls := calls s p d }) ∧
          ∀ files, w.files.write path (listing affected) = .ok files →
            files.content? (w.files.place path) = some (Text.encode (listing affected)) ∧
            ∃ complaints, w.run s (.select p d prefixes suffixes (some path)) =
              { files := files, calls := calls s p d, complaints := complaints }) ∧
      ∀ ids ∈ [changed, affected], (∀ id ∈ ids, '\x1b' ∉ id.toList) →
        Display.plain (listing ids) = listing ids := by
  intro text naming c
  obtain ⟨hselect, hchanged, hlisting⟩ := ProjectRequest.answers_eq hspec hread hdiff c
  obtain ⟨⟨changed, affected⟩, hfound⟩ : ∃ found, project.selection c diff = found := ⟨_, rfl⟩
  rw [hfound] at hselect hchanged hlisting
  refine ⟨changed, affected, hselect, hchanged, hlisting, fun p hrequest => ?_,
    fun ids _ hids => plain_listing hids⟩
  have hindex := index_eq hrequest hspec
  have hcommand : w.changed s (.unread spec) d = .ok changed := by
    rw [changed_eq hread hdiff naming, hfound]
  have hcommand' : w.select s (.unread spec) d naming = .ok affected := by
    rw [select_eq hread hdiff naming, hfound]
  refine ⟨run_changed hindex hcommand, run_select hindex hcommand' none, fun path => ⟨?_, ?_⟩⟩
  · intro fault hwrite
    rw [run_select hindex hcommand', printSelected, writes, hwrite]
    rfl
  · intro files hwrite
    refine ⟨FileTree.content?_write hwrite, ?_⟩
    rw [run_select hindex hcommand', printSelected, writes, hwrite]
    exact ⟨_, rfl⟩

/-- The changed function is printed, and the test that calls it. -/
theorem run_prints_test :
    let w : Session :=
      { files := ⟨["work"], [(["work", "m.py"], .file (Text.encode
          "def f():\n    pass\n\ndef test_f():\n    f()\n"))]⟩
        settingsFile := .here, input := "diff --git a/m.py b/m.py\n@@ -2 +2 @@\n"
        versionControl := .notStarted "" }
    let s : Settings := ⟨.standard, .standard⟩
    let p : ProjectOptions := ⟨.here, [], ""⟩
    let d : DiffOptions := ⟨"", false, []⟩
    (w.run s (.changed p d)).output = "m.f\n" ∧
      (w.run s (.select p d [] [] none)).output = "m.test_f\n" ∧
      FileTree.content? (w.run s (.select p d [] [] (some ⟨"", ["out"]⟩))).files ["work", "out"]
        = some (Text.encode "m.test_f") := by
  intro w s p d
  let r : ProjectRequest := ⟨"ast", .here, [.here]⟩
  let spec : ProjectSpec := ⟨.ast, ⟨"/", ["work"]⟩, [⟨"/", ["work"]⟩]⟩
  let project : Project := ⟨[⟨⟨.function, "f", "m.f"⟩, "m.py", ⟨1, 2, by decide, by decide⟩⟩,
      ⟨⟨.function, "test_f", "m.test_f"⟩, "m.py", ⟨4, 5, by decide, by decide⟩⟩],
    [⟨"m.test_f", "m.f"⟩]⟩
  have hread : Project.read spec w.files = .ok (project, [.indexed 2 1]) := by decide +kernel
  have hdiff : Diff.read (w.diff d) = .ok ([⟨"m.py", [⟨2, 2, by decide, by decide⟩]⟩], []) := by
    decide +kernel
  have hspec : r.spec w.files = .ok spec := by decide +kernel
  obtain ⟨changed, affected, hselect, -, -, hcommands, -⟩ :=
    entry_points_agree (s := s) hspec hread hdiff [] []
  have hfound : ((Index.unread spec).select w.files ⟨[".py"], Naming.standard.isTest⟩
      (w.diff d)).map (·.2.1) = .ok ⟨["m.f"], ["m.test_f"]⟩ := by decide +kernel
  obtain ⟨rfl, rfl⟩ : changed = ["m.f"] ∧ affected = ["m.test_f"] := by
    simpa using Except.ok.inj (hselect.symm.trans hfound)
  obtain ⟨hchanged, haffected, hwritten⟩ := hcommands p (by decide +kernel)
  obtain ⟨files, hwrite⟩ : ∃ files, w.files.write ⟨"", ["out"]⟩ "m.test_f" = .ok files := ⟨_, rfl⟩
  obtain ⟨hcontent, complaints, houtput⟩ := (hwritten ⟨"", ["out"]⟩).2 files hwrite
  refine ⟨?_, ?_, ?_⟩
  · rw [hchanged]
    rfl
  · rw [haffected]
    rfl
  · rw [houtput]
    exact hcontent

/-- The name of a function begins with a sequence that colours what follows, because the name of
its file does. The library finds the function, and the command prints another name. -/
theorem changed_prints_other_name :
    let w : Session :=
      { files := ⟨["work"], [(["work", "\x1b[31mm.py"], .file (Text.encode
          "def f():\n    pass\n"))]⟩
        settingsFile := .here
        input := "diff --git a/\x1b[31mm.py b/\x1b[31mm.py\n@@ -1 +1 @@\n"
        versionControl := .notStarted "" }
    let s : Settings := ⟨.standard, .standard⟩
    let p : ProjectOptions := ⟨.here, [], ""⟩
    let d : DiffOptions := ⟨"", false, []⟩
    ∃ r, w.request s p = .ok r ∧
      (r.changedBy w.files [".py"] (w.diff d)).map (·.1) = .ok ["\x1b[31mm.f"] ∧
      (w.run s (.changed p d)).output = "m.f\n" ∧ listing ["\x1b[31mm.f"] ++ "\n" ≠ "m.f\n" := by
  intro w s p d
  exact ⟨⟨"ast", .here, [.here]⟩, by decide +kernel, by decide +kernel, by decide +kernel,
    by decide +kernel⟩

end CommandLine.Session

end TestImpact
