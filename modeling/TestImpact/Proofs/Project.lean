import TestImpact.Proofs.Resolution
import TestImpact.Proofs.Selection.EarlyEnds
import TestImpact.Proofs.Source.Callers

/-
  A project knows no functions but its own.

  The outline of all files of a project is closed, because that of each file
  is (`closed_readFiles`): who calls is declared. What a call resolves to is
  declared too, by whatever rule. So the edges of a project join functions that
  it declares (`declares_of_mem_edges`), and nothing else can come out of a selection.
-/

namespace TestImpact

namespace ProjectSpec

theorem closed_readFile {spec : ProjectSpec} {t : FileTree} {file : SourceFile}
    {o : Source.Outline} {notes : List Note} (h : spec.readFile t file = .ok (o, notes)) :
    o.Closed := by
  unfold readFile at h
  split at h
  · obtain ⟨rfl, -⟩ : Source.Outline.empty = o ∧ _ := by simpa using h
    exact Source.Outline.closed_empty
  · exact Source.closed_read h

theorem closed_readFiles {spec : ProjectSpec} {t : FileTree} {files : List SourceFile}
    {o : Source.Outline} {notes : List Note} (h : spec.readFiles t files = .ok (o, notes)) :
    o.Closed := by
  induction files generalizing o notes with
  | nil =>
    obtain ⟨rfl, -⟩ : Source.Outline.empty = o ∧ _ := by simpa [readFiles] using h
    exact Source.Outline.closed_empty
  | cons file files ih =>
    unfold readFiles at h
    cases hfile : spec.readFile t file with
    | error fault =>
      rw [hfile] at h
      cases h
    | ok first =>
      cases hfiles : spec.readFiles t files with
      | error fault =>
        rw [hfile, hfiles] at h
        cases h
      | ok rest =>
        rw [hfile, hfiles] at h
        obtain ⟨rfl, -⟩ : first.1 ++ rest.1 = o ∧ _ := by simpa using Except.ok.inj h
        exact (closed_readFile hfile).append (ih hfiles)

end ProjectSpec

namespace Project

/-- A function has the name. -/
def Declares (p : Project) (id : String) : Prop := ∃ decl ∈ p.functions, decl.id = id

theorem declares_iff {o : Source.Outline} {id : String} :
    (ofOutline o).Declares id ↔
      id ∈ (Declared.mk (o.declarations.map (·.toSymbol))).functions := by
  simp [Declares, functions, ofOutline, Declared.functions]

/-- The project that a closed outline makes has edges between its functions only. -/
theorem declares_of_mem_edges {o : Source.Outline} (ho : o.Closed) {e : CallEdge}
    (he : e ∈ (ofOutline o).edges) :
    (ofOutline o).Declares e.caller ∧ (ofOutline o).Declares e.callee := by
  obtain ⟨call, hcall, hcaller, hcallee⟩ := Declared.mem_edges.mp he
  constructor
  · obtain ⟨d, hd, hkind, hname⟩ := ho call hcall
    refine ⟨⟨d.qualname, d.file, d.lines⟩, ?_, hname.trans hcaller⟩
    exact List.mem_map.mpr ⟨d, List.mem_filter.mpr ⟨hd, by simpa using hkind⟩, rfl⟩
  · exact declares_iff.mpr (Declared.mem_functions_of_mem_resolve hcallee)

/-- A project that was read is made from the outline of its files, and the last note on it counts
its functions and its edges. -/
theorem exists_outline {spec : ProjectSpec} {t : FileTree} {p : Project} {notes : List Note}
    (h : read spec t = .ok (p, notes)) :
    ∃ o fileNotes, spec.readFiles t (sourceFiles t spec.roots) = .ok (o, fileNotes) ∧
      p = ofOutline o ∧ notes = rootNotes t spec.roots ++ fileNotes
        ++ [.indexed p.functions.length p.edges.length] := by
  unfold read at h
  cases hfiles : spec.readFiles t (sourceFiles t spec.roots) with
  | error fault =>
    rw [hfiles] at h
    cases h
  | ok result =>
    rw [hfiles] at h
    obtain ⟨rfl, rfl⟩ := Prod.mk.inj (Except.ok.inj h)
    exact ⟨result.1, result.2, rfl, rfl, rfl⟩

theorem exists_closed_outline {spec : ProjectSpec} {t : FileTree} {p : Project}
    {notes : List Note} (h : read spec t = .ok (p, notes)) :
    ∃ o : Source.Outline, o.Closed ∧ p = ofOutline o := by
  obtain ⟨o, fileNotes, hfiles, rfl, -⟩ := exists_outline h
  exact ⟨o, ProjectSpec.closed_readFiles hfiles, rfl⟩

/-- **A project is closed.** Whatever files it has and whichever reader reads them, its edges
are between functions that it declares, and each is there once. So a selection from it, on any
diff text that can be read, holds declared functions only; the tests in it are accepted as tests,
and each calls something. -/
theorem read_closed {spec : ProjectSpec} {t : FileTree} {p : Project} {notes : List Note}
    (h : read spec t = .ok (p, notes)) :
    (∀ e ∈ p.edges, p.Declares e.caller ∧ p.Declares e.callee) ∧ p.edges.Nodup ∧
    ∀ (i j : Index) (t' : FileTree) (projectNotes : List Note),
      i.force t' = .ok (j, p, projectNotes) →
      ∀ (text : String) (diff : Diff) (diffNotes : List Note),
        Diff.read text = .ok (diff, diffNotes) →
        ∀ c : Criteria, ∃ k selection allNotes,
          i.select t' c text = .ok (k, selection, allNotes) ∧
          (∀ id ∈ selection.changed, p.Declares id) ∧
          ∀ id ∈ selection.affected,
            p.Declares id ∧ c.isTest id = true ∧ ∃ e ∈ p.edges, e.caller = id := by
  obtain ⟨o, ho, rfl⟩ := exists_closed_outline h
  have hedges : ∀ e ∈ (ofOutline o).edges, _ := fun e => declares_of_mem_edges ho
  refine ⟨hedges, Text.nodup_distinct _, ?_⟩
  intro i j t' projectNotes hforce text diff diffNotes hdiff c
  obtain ⟨k, allNotes, hselect⟩ := Index.select_eq hforce hdiff c
  refine ⟨k, _, allNotes, hselect, fun id hid => ?_, fun id hid => ?_⟩
  · obtain ⟨decl, hdecl, hname, -⟩ := mem_selection_changed.mp hid
    exact ⟨decl, hdecl, hname⟩
  · -- The chain that leads down from a test begins with an edge of the project.
    obtain ⟨htest, c, -, hchain⟩ := mem_selection_affected.mp hid
    obtain ⟨callee, hcall, -⟩ := Relation.TransGen.head'_iff.mp hchain
    exact ⟨(hedges _ hcall).1, htest, ⟨id, callee⟩, hcall, rfl⟩

/-- A call of a class is a call of its constructor: the edge to it, the test that makes the call
and the constructor that the diff changes are all declared. -/
theorem declares_constructor :
    let spec : ProjectSpec := ⟨.ast, ⟨"/", ["work"]⟩, [⟨"/", ["work"]⟩]⟩
    let t : FileTree := ⟨["work"], [(["work", "m.py"], .file (Text.encode
      "class C:\n    def __init__(self):\n        pass\n\ndef test_c():\n    C()\n"))]⟩
    ∃ p notes, read spec t = .ok (p, notes) ∧ p.edges = [⟨"m.test_c", "m.C.__init__"⟩] ∧
      p.Declares "m.test_c" ∧ p.Declares "m.C.__init__" ∧
      ∃ k selection allNotes, (Index.unread spec).select t ⟨[".py"], (· = "m.test_c")⟩
          "diff --git a/m.py b/m.py\n@@ -3 +3 @@\n" = .ok (k, selection, allNotes) ∧
        (∀ id ∈ selection.changed, p.Declares id) ∧ ∀ id ∈ selection.affected, p.Declares id := by
  intro spec t
  let p : Project := ⟨[⟨⟨.classDef, "C", "m.C"⟩, "m.py", ⟨1, 3, by decide, by decide⟩⟩,
      ⟨⟨.function, "__init__", "m.C.__init__"⟩, "m.py", ⟨2, 3, by decide, by decide⟩⟩,
      ⟨⟨.function, "test_c", "m.test_c"⟩, "m.py", ⟨5, 6, by decide, by decide⟩⟩],
    [⟨"m.test_c", "m.C.__init__"⟩]⟩
  have hread : read spec t = .ok (p, [.indexed 2 1]) := by decide +kernel
  have hforce : (Index.unread spec).force t = .ok (⟨spec, some p⟩, p, [.indexed 2 1]) := by
    simp only [Index.force, Index.unread, hread]
    rfl
  have hdiff : Diff.read "diff --git a/m.py b/m.py\n@@ -3 +3 @@\n"
      = .ok ([⟨"m.py", [⟨3, 3, by decide, by decide⟩]⟩], []) := by decide +kernel
  obtain ⟨hedges, -, hselect⟩ := read_closed hread
  obtain ⟨hcaller, hcallee⟩ := hedges _ List.mem_cons_self
  obtain ⟨k, selection, allNotes, hanswer, hchanged, haffected⟩ :=
    hselect _ _ _ _ hforce _ _ _ hdiff ⟨[".py"], (· = "m.test_c")⟩
  exact ⟨p, _, hread, rfl, hcaller, hcallee, k, selection, allNotes, hanswer, hchanged,
    fun id hid => (haffected id hid).1⟩

end Project

end TestImpact
