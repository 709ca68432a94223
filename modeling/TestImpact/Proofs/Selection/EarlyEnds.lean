import TestImpact.Proofs.Selection

/-
  The early ends of a selection answer what the long way would.

  `Project.selection` looks up the changed functions and walks the call graph
  whether or not there is anything to look for. A selection that can read its
  diff and its project answers that (`select_eq`); where no file is left, it
  answers without the project (`select_of_isEmpty`).
-/

namespace TestImpact

/-- What a selection answers if it does not end early. -/
def Project.selection (p : Project) (c : Criteria) (diff : Diff) : Selection :=
  let changed := (changedFunctions (diff.restrict c.extensions) p.functions).1
  ⟨changed, ((CallGraph.ofEdges p.edges).affected c.isTest changed).1⟩

theorem Project.mem_selection_changed {p : Project} {c : Criteria} {diff : Diff} {id : String} :
    id ∈ (p.selection c diff).changed ↔
      ∃ decl ∈ p.functions, decl.id = id ∧ decl.touchedBy (diff.restrict c.extensions) = true :=
  mem_changedFunctions

theorem Project.mem_selection_affected {p : Project} {c : Criteria} {diff : Diff} {id : String} :
    id ∈ (p.selection c diff).affected ↔
      CallGraph.IsAffected p.edges c.isTest (p.selection c diff).changed id := by
  have hmem : id ∈ (p.selection c diff).affected ↔
      CallGraph.IsAffected (CallGraph.ofEdges p.edges).edges c.isTest
        (p.selection c diff).changed id := CallGraph.mem_affected
  rwa [CallGraph.IsAffected, CallGraph.calls_ofEdges] at hmem

theorem Project.selection_eq_empty {p : Project} {c : Criteria} {diff : Diff}
    (h : (p.selection c diff).changed = []) : p.selection c diff = ⟨[], []⟩ := by
  have haffected : (p.selection c diff).affected = [] := by
    refine List.eq_nil_iff_forall_not_mem.mpr fun id hid => ?_
    obtain ⟨-, callee, hcallee, -⟩ := mem_selection_affected.mp hid
    exact absurd (h ▸ hcallee) List.not_mem_nil
  calc p.selection c diff
      = ⟨(p.selection c diff).changed, (p.selection c diff).affected⟩ := rfl
    _ = ⟨[], []⟩ := by rw [h, haffected]

theorem Project.selection_of_isEmpty {p : Project} {c : Criteria} {diff : Diff}
    (h : (diff.restrict c.extensions).isEmpty = true) : p.selection c diff = ⟨[], []⟩ := by
  refine selection_eq_empty (List.eq_nil_iff_forall_not_mem.mpr fun id hid => ?_)
  obtain ⟨decl, -, -, htouched⟩ := mem_selection_changed.mp hid
  rw [List.isEmpty_iff.mp h] at htouched
  simp [FunctionDecl.touchedBy, Diff.find?] at htouched

theorem Project.selection_of_no_functions {p : Project} {c : Criteria} {diff : Diff}
    (h : p.functions = []) : p.selection c diff = ⟨[], []⟩ := by
  refine selection_eq_empty ?_
  rw [selection, h]
  rfl

namespace Index

variable {i j : Index} {t : FileTree} {text : String} {diff : Diff} {diffNotes : List Note}

section Unread

variable {spec : ProjectSpec}

theorem force_of_read {t : FileTree} {p : Project} {notes : List Note}
    (h : Project.read spec t = .ok (p, notes)) :
    (unread spec).force t = .ok (⟨spec, some p⟩, p, notes) := by
  simp [force, unread, h, Except.map]

theorem force_of_fault {t : FileTree} {fault : SourceError}
    (h : Project.read spec t = .error fault) : (unread spec).force t = .error fault := by
  simp [force, unread, h, Except.map]

end Unread

/-- Where no file is left, a selection is empty, and the project is not read. -/
theorem select_of_isEmpty (hdiff : Diff.read text = .ok (diff, diffNotes)) {c : Criteria}
    (h : (diff.restrict c.extensions).isEmpty = true) :
    i.select t c text = .ok (i, ⟨[], []⟩, diffNotes ++ [.noChangedFiles]) := by
  have hchangedBy : i.changedBy t c.extensions text
      = .ok (i, [], diffNotes ++ [.noChangedFiles]) := by
    simp only [changedBy, hdiff, h, if_true]
  simp only [select, hchangedBy, List.isEmpty_nil, if_true]

/-- Where a file is left, the project is asked for, and the index keeps what it has learned. The
notes of its reading stand among the notes of the selection, and no other reading does. -/
theorem select_of_kept {p : Project} {projectNotes : List Note} {c : Criteria}
    (hforce : i.force t = .ok (j, p, projectNotes))
    (hdiff : Diff.read text = .ok (diff, diffNotes))
    (hkept : ¬ (diff.restrict c.extensions).isEmpty = true) :
    ∃ paths more, i.select t c text = .ok (j, p.selection c diff,
        diffNotes ++ .changedFiles paths :: projectNotes ++ more) ∧
      ∀ functions edges, Note.indexed functions edges ∉ more := by
  let kept := diff.restrict c.extensions
  let changeNotes := (changedFunctions kept p.functions).2
  have hchangeNotes : ∀ functions edges, Note.indexed functions edges ∉ changeNotes := by
    simp [changeNotes, changedFunctions]
  have hchangedBy : i.changedBy t c.extensions text =
      .ok (j, (p.selection c diff).changed,
        diffNotes ++ .changedFiles (Text.ascending kept.paths) :: projectNotes ++ changeNotes) := by
    simp only [changedBy, hdiff, hkept, hforce]
    rfl
  by_cases hempty : (p.selection c diff).changed.isEmpty = true
  · refine ⟨Text.ascending kept.paths, changeNotes, ?_, hchangeNotes⟩
    rw [Project.selection_eq_empty (List.isEmpty_iff.mp hempty)]
    simp only [select, hchangedBy, hempty, if_true]
  · let graph := CallGraph.ofEdges p.edges
    let walk := graph.affected c.isTest (p.selection c diff).changed
    refine ⟨Text.ascending kept.paths, changeNotes ++ [.graphBuilt graph.stats,
      walk.2, .selected (p.selection c diff).changed.length walk.1.length], ?_,
      fun functions edges => ?_⟩
    · simp only [select, hchangedBy, hempty, project_of_force hforce, ← List.append_assoc]
      rfl
    · simp [hchangeNotes functions edges, walk, CallGraph.affected]

/-- The early ends of a selection answer what the long way would. -/
theorem select_eq {p : Project} {projectNotes : List Note}
    (hforce : i.force t = .ok (j, p, projectNotes))
    (hdiff : Diff.read text = .ok (diff, diffNotes)) (c : Criteria) :
    ∃ k notes, i.select t c text = .ok (k, p.selection c diff, notes) := by
  by_cases hkept : (diff.restrict c.extensions).isEmpty = true
  · exact ⟨i, _, Project.selection_of_isEmpty hkept ▸ select_of_isEmpty hdiff hkept⟩
  · obtain ⟨paths, more, hselect, -⟩ := select_of_kept hforce hdiff hkept
    exact ⟨j, _, hselect⟩

end Index
end TestImpact
