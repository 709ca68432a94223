import TestImpact.Selection
import TestImpact.Settings.Basic
import TestImpact.Proofs.CallGraph.Walk
import TestImpact.Proofs.ChangedFunctions
import TestImpact.Proofs.Text.Dotted

/-
  What a selection answers, from the diff text to the tests.

  An index offers declared functions and call edges (`Index.Offers`). Whatever
  it offers, a selection on a diff text that can be read has an answer, and the
  answer is told by three things alone: the files of the diff, the offered
  declarations and the offered edges. `IsChanged` says which functions are
  changed, `IsAffected` which tests are affected.

  A selection ends early where no file of the diff is a source file, and where
  no function is changed. `select_exact` has no case for these ends: what they
  answer is what the long way would.
-/

namespace TestImpact

/-- A function with a changed line: one of its declarations is in a file whose path has one of
the endings, and shares a line with a range of that file in the diff. -/
def IsChanged (diff : Diff) (IsEnding : String → Prop) (decls : List FunctionDecl)
    (id : String) : Prop :=
  ∃ decl ∈ decls, decl.id = id ∧ (∃ front ending, IsEnding ending ∧ decl.file = front ++ ending) ∧
    ∃ d, diff.find? decl.file = some d ∧ ∃ line,
      (decl.lines.first ≤ line ∧ line ≤ decl.lines.last) ∧
      ∃ range ∈ d.ranges, range.first ≤ line ∧ line ≤ range.last

/-- An ending of source files: one of those given, or of the settings' own if none is given. -/
def SelectionSettings.IsEnding (s : SelectionSettings) (given : Option (List String))
    (ending : String) : Prop :=
  match given with
  | none | some [] => ending ∈ s.extensions
  | some (e :: es) => ending ∈ e :: es

theorem SelectionSettings.mem_extensionsOr {s : SelectionSettings} {given : Option (List String)}
    {ending : String} : ending ∈ s.extensionsOr (given.getD []) ↔ s.IsEnding given ending := by
  match given with
  | none => rfl
  | some [] => rfl
  | some (_ :: _) => rfl

/-- A declaration is touched by what some endings leave of a diff if and only if its path has
one of them and the diff changes a line of it. -/
theorem FunctionDecl.touchedBy_restrict_iff {decl : FunctionDecl} {diff : Diff}
    {extensions : List String} : decl.touchedBy (diff.restrict extensions) = true ↔
      (∃ front ending, ending ∈ extensions ∧ decl.file = front ++ ending) ∧
      ∃ d, diff.find? decl.file = some d ∧ ∃ line,
        (decl.lines.first ≤ line ∧ line ≤ decl.lines.last) ∧
        ∃ range ∈ d.ranges, range.first ≤ line ∧ line ≤ range.last := by
  have hending : extensions.any (Text.endsWith decl.file) = true ↔
      ∃ front ending, ending ∈ extensions ∧ decl.file = front ++ ending := by
    simp only [List.any_eq_true, Text.endsWith_iff]
    constructor
    · intro hgiven
      obtain ⟨ending, hmem, front, h⟩ := hgiven
      exact ⟨front, ending, hmem, h⟩
    · intro hgiven
      obtain ⟨front, ending, hmem, h⟩ := hgiven
      exact ⟨ending, hmem, front, h⟩
  have hline : ∀ d : FileDiff, (∃ line, d.containsLine line = true ∧
        decl.lines.contains line = true) ↔
      ∃ line, (decl.lines.first ≤ line ∧ line ≤ decl.lines.last) ∧
        ∃ range ∈ d.ranges, range.first ≤ line ∧ line ≤ range.last := by
    intro d
    simp only [FileDiff.containsLine, List.any_eq_true, LineRange.contains_iff]
    exact exists_congr fun line => and_comm
  simp only [touchedBy_iff, hline]
  rw [Diff.find?_restrict]
  by_cases h : extensions.any (Text.endsWith decl.file) = true
  · rw [if_pos h, and_iff_right (hending.mp h)]
  · rw [if_neg h]
    constructor
    · intro hgiven
      obtain ⟨d, hd, _⟩ := hgiven
      cases hd
    · intro hgiven
      obtain ⟨hpath, _⟩ := hgiven
      exact absurd (hending.mpr hpath) h

namespace Index

/-- An index offers the declared functions and the call edges of its project, if the project can
be read or was read before. -/
def Offers (i : Index) (t : FileTree) (decls : List FunctionDecl) (edges : List CallEdge) : Prop :=
  ∃ j p notes, i.force t = .ok (j, p, notes) ∧ p.functions = decls ∧ p.edges = edges

theorem project_of_force {i j : Index} {t : FileTree} {p : Project} {notes : List Note}
    (h : i.force t = .ok (j, p, notes)) : j.project = some p := by
  unfold force at h
  split at h
  · rename_i q hq
    obtain ⟨rfl, rfl, -⟩ : i = j ∧ q = p ∧ [] = notes := by simpa using h
    exact hq
  · cases hread : Project.read i.spec t with
    | error fault => simp [hread, Except.map] at h
    | ok result =>
      obtain ⟨rfl, rfl⟩ : { i with project := some result.1 } = j ∧ result = (p, notes) := by
        simpa [hread, Except.map] using h
      rfl

/-- Every pair of lists is offered by some index. -/
theorem exists_offers (t : FileTree) (decls : List FunctionDecl) (edges : List CallEdge) :
    ∃ i : Index, i.Offers t decls edges := by
  let declarations : List Source.Declaration := decls.map fun d =>
    { kind := .function, name := Text.simpleName d.id, qualname := d.id, file := d.file,
      lines := d.lines }
  let p : Project := ⟨declarations, edges⟩
  have hfunctions : p.functions = decls := by
    simp only [p, declarations, Project.functions]
    rw [List.filter_eq_self.mpr (by simp), List.map_map]
    exact List.map_id decls
  exact ⟨⟨⟨.ast, ⟨"", []⟩, []⟩, some p⟩, _, p, [], rfl, hfunctions, rfl⟩

/-- What the functions found to be changed are, and what the index has learned. -/
theorem changedBy_spec {i j : Index} {t : FileTree} {p : Project} {projectNotes : List Note}
    (hforce : i.force t = .ok (j, p, projectNotes)) {text : String} {diff : Diff}
    {diffNotes : List Note} (hdiff : Diff.read text = .ok (diff, diffNotes))
    (extensions : List String) :
    ∃ k changed notes, i.changedBy t extensions text = .ok (k, changed, notes) ∧
      changed.Nodup ∧ (changed ≠ [] → k.project = some p) ∧
      ∀ id, id ∈ changed ↔
        ∃ decl ∈ p.functions, decl.id = id ∧ decl.touchedBy (diff.restrict extensions) = true := by
  by_cases hkept : (diff.restrict extensions).isEmpty = true
  · -- No file is left, and so no declaration is touched.
    refine ⟨i, [], diffNotes ++ [.noChangedFiles], ?_, List.nodup_nil, fun h => absurd rfl h, ?_⟩
    · simp only [changedBy, hdiff, hkept, if_true]
    · intro id
      rw [List.isEmpty_iff.mp hkept]
      simp [FunctionDecl.touchedBy, Diff.find?]
  · obtain ⟨notes, hanswer⟩ : ∃ notes, i.changedBy t extensions text =
        .ok (j, (changedFunctions (diff.restrict extensions) p.functions).1, notes) :=
      ⟨_, by simp only [changedBy, hdiff, hkept, hforce]; rfl⟩
    exact ⟨j, _, notes, hanswer, nodup_changedFunctions _ _, fun _ => project_of_force hforce,
      fun id => mem_changedFunctions⟩

/-- **A selection means what it says.** On a diff text that can be read, with any index, any
endings, given or the settings' own, and any tests, there is an answer. The functions in it are
those with a changed line, each once; the tests in it, ascending, are those from which a chain of
one or more of the offered edges leads to one of these functions. -/
theorem select_exact {i : Index} {t : FileTree} {decls : List FunctionDecl}
    {edges : List CallEdge} (hoffers : i.Offers t decls edges) {text : String} {diff : Diff}
    {diffNotes : List Note} (hdiff : Diff.read text = .ok (diff, diffNotes))
    (s : SelectionSettings) (given : Option (List String)) (isTest : String → Bool) :
    ∃ k selection notes,
      i.select t ⟨s.extensionsOr (given.getD []), isTest⟩ text = .ok (k, selection, notes) ∧
      (∀ id, id ∈ selection.changed ↔ IsChanged diff (s.IsEnding given) decls id) ∧
      (∀ id, id ∈ selection.affected ↔
        CallGraph.IsAffected edges isTest selection.changed id) ∧
      selection.changed.Nodup ∧ selection.affected.Pairwise (· < ·) := by
  obtain ⟨j, p, projectNotes, hforce, rfl, rfl⟩ := hoffers
  obtain ⟨k, changed, notes, hchangedBy, hnodup, hproject, hmem⟩ :=
    changedBy_spec hforce hdiff (s.extensionsOr (given.getD []))
  have hchanged : ∀ id, id ∈ changed ↔ IsChanged diff (s.IsEnding given) p.functions id := by
    intro id
    simp only [hmem, IsChanged, FunctionDecl.touchedBy_restrict_iff,
      SelectionSettings.mem_extensionsOr]
  by_cases hempty : changed.isEmpty = true
  · -- Nothing is changed, and so no chain leads to anything changed.
    refine ⟨k, ⟨[], []⟩, notes, ?_, ?_, ?_, List.nodup_nil, List.Pairwise.nil⟩
    · simp only [select, hchangedBy, hempty, if_true]
    · rwa [List.isEmpty_iff.mp hempty] at hchanged
    · simp [CallGraph.IsAffected]
  · have hkept : k.project = some p := hproject (by simpa using hempty)
    obtain ⟨allNotes, hanswer⟩ : ∃ allNotes,
        i.select t ⟨s.extensionsOr (given.getD []), isTest⟩ text = .ok (k,
          ⟨changed, ((CallGraph.ofEdges p.edges).affected isTest changed).1⟩, allNotes) :=
      ⟨_, by simp only [select, hchangedBy, hempty, hkept]; rfl⟩
    refine ⟨k, _, allNotes, hanswer, hchanged, fun id => ?_, hnodup, Text.pairwise_ascending _⟩
    rw [CallGraph.mem_affected]
    simp only [CallGraph.IsAffected, CallGraph.calls_ofEdges]

/-- The changed lines end on the first line of `f`, so `f` is changed and the function after it
is not; a test that calls `f` through `g` is affected. -/
theorem select_through_helper :
    ∃ (i : Index) (t : FileTree) (k : Index) (selection : Selection) (notes : List Note),
      i.select t ⟨SelectionSettings.standard.extensionsOr [], (· = "t.test_f")⟩
        "diff --git a/m.py b/m.py\n@@ -1 +2,3 @@\n" = .ok (k, selection, notes) ∧
      "m.f" ∈ selection.changed ∧ "m.g" ∉ selection.changed ∧
      "t.test_f" ∈ selection.affected := by
  let f : FunctionDecl := ⟨"m.f", "m.py", ⟨4, 5, by decide, by decide⟩⟩
  let g : FunctionDecl := ⟨"m.g", "m.py", ⟨6, 9, by decide, by decide⟩⟩
  let range : LineRange := ⟨2, 4, by decide, by decide⟩
  have hdiff : Diff.read "diff --git a/m.py b/m.py\n@@ -1 +2,3 @@\n"
      = .ok ([⟨"m.py", [range]⟩], []) := by rfl
  obtain ⟨i, hoffers⟩ := exists_offers ⟨[], []⟩ [f, g] [⟨"m.g", "m.f"⟩, ⟨"t.test_f", "m.g"⟩]
  obtain ⟨k, selection, notes, hanswer, hchanged, haffected, -, -⟩ :=
    select_exact hoffers hdiff .standard none (· = "t.test_f")
  have hf : "m.f" ∈ selection.changed := by
    rw [hchanged]
    refine ⟨f, by simp, rfl, ⟨"m", ".py", ?_, rfl⟩, ⟨"m.py", [range]⟩, by rfl, 4, by decide, range,
      by simp, by decide⟩
    simp [SelectionSettings.IsEnding, SelectionSettings.standard]
  have hg : "m.g" ∉ selection.changed := by
    rw [hchanged]
    intro hgiven
    obtain ⟨decl, hdecl, hid, -, d, hd, line, hline, r, hr, hrange⟩ := hgiven
    obtain rfl | rfl : decl = f ∨ decl = g := by simpa using hdecl
    · simp [f] at hid
    · obtain rfl : ⟨"m.py", [range]⟩ = d := by simpa [g, Diff.find?] using hd
      obtain rfl : r = range := by simpa using hr
      simp only [g, range] at hline hrange
      omega
  refine ⟨i, ⟨[], []⟩, k, selection, notes, hanswer, hf, hg, ?_⟩
  rw [haffected]
  refine ⟨by simp, "m.f", hf, .tail (b := "m.g") (.single ?_) ?_⟩
  · simp [Calls]
  · simp [Calls]

end Index

end TestImpact
