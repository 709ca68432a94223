import TestImpact.Naming
import TestImpact.Proofs.Diff.Joined
import TestImpact.Proofs.Selection.EarlyEnds

/-
  Selecting by two diffs at once.

  Each stage of a selection takes two diffs without a common file apart: the
  files of both are those of one and those of the other, a declaration is
  touched by both if it is by one of them, and a chain of calls leads to one
  changed function. So a selection by both diffs is the union of the selections
  by each (`isUnion_selection`), where selections end early as well.
-/

namespace TestImpact

/-! ## Diffs without a common file -/

theorem Diff.restrict_append (extensions : List String) (front diff : Diff) :
    restrict extensions (front ++ diff) = restrict extensions front ++ restrict extensions diff :=
  List.filter_append ..

theorem Diff.mem_paths_of_restrict {extensions : List String} {diff : Diff} {path : String}
    (h : path ∈ (diff.restrict extensions).paths) : path ∈ diff.paths := by
  obtain ⟨d, hd, rfl⟩ := List.mem_map.mp h
  exact List.mem_map_of_mem (List.mem_filter.mp hd).1

theorem FunctionDecl.touchedBy_append {decl : FunctionDecl} {front diff : Diff}
    (hnew : ∀ path ∈ diff.paths, path ∉ front.paths) :
    decl.touchedBy (front ++ diff) = true ↔
      decl.touchedBy front = true ∨ decl.touchedBy diff = true := by
  unfold touchedBy
  rw [Diff.find?_append]
  cases hfront : front.find? decl.file with
  | none => simp
  | some d =>
    have hdiff : diff.find? decl.file = none := by
      cases hfound : diff.find? decl.file with
      | none => rfl
      | some e =>
        exact absurd (Diff.mem_paths_of_find? hfront) (hnew _ (Diff.mem_paths_of_find? hfound))
    simp [hdiff]

/-! ## Selections -/

namespace Selection

/-- The functions of a selection are those of one of two selections or of both. -/
def IsUnion (s one other : Selection) : Prop :=
  (∀ id, id ∈ s.changed ↔ id ∈ one.changed ∨ id ∈ other.changed) ∧
    ∀ id, id ∈ s.affected ↔ id ∈ one.affected ∨ id ∈ other.affected

end Selection

/-- What is above one of some functions is above one of a part of them. -/
theorem CallGraph.isAffected_or {edges : List CallEdge} {isTest : String → Bool}
    {changed one other : List String} (h : ∀ id, id ∈ changed ↔ id ∈ one ∨ id ∈ other)
    {id : String} : IsAffected edges isTest changed id ↔
      IsAffected edges isTest one id ∨ IsAffected edges isTest other id := by
  constructor
  · intro hgiven
    obtain ⟨htest, c, hc, hchain⟩ := hgiven
    rcases (h c).mp hc with hc | hc
    · exact .inl ⟨htest, c, hc, hchain⟩
    · exact .inr ⟨htest, c, hc, hchain⟩
  · intro hgiven
    rcases hgiven with ⟨htest, c, hc, hchain⟩ | ⟨htest, c, hc, hchain⟩
    · exact ⟨htest, c, (h c).mpr (.inl hc), hchain⟩
    · exact ⟨htest, c, (h c).mpr (.inr hc), hchain⟩

theorem Project.isUnion_selection (p : Project) (c : Criteria) {front diff : Diff}
    (hnew : ∀ path ∈ diff.paths, path ∉ front.paths) :
    (p.selection c (front ++ diff)).IsUnion (p.selection c front) (p.selection c diff) := by
  have hrestricted : ∀ path ∈ (diff.restrict c.extensions).paths,
      path ∉ (front.restrict c.extensions).paths := fun path hpath hpath' =>
    hnew path (Diff.mem_paths_of_restrict hpath) (Diff.mem_paths_of_restrict hpath')
  have hchanged : ∀ id, id ∈ (p.selection c (front ++ diff)).changed ↔
      id ∈ (p.selection c front).changed ∨ id ∈ (p.selection c diff).changed := by
    intro id
    simp only [mem_selection_changed, Diff.restrict_append,
      FunctionDecl.touchedBy_append hrestricted]
    constructor
    · intro hgiven
      obtain ⟨decl, hdecl, hid, htouched | htouched⟩ := hgiven
      · exact .inl ⟨decl, hdecl, hid, htouched⟩
      · exact .inr ⟨decl, hdecl, hid, htouched⟩
    · intro hgiven
      rcases hgiven with ⟨decl, hdecl, hid, htouched⟩ | ⟨decl, hdecl, hid, htouched⟩
      · exact ⟨decl, hdecl, hid, .inl htouched⟩
      · exact ⟨decl, hdecl, hid, .inr htouched⟩
  refine ⟨hchanged, fun id => ?_⟩
  simp only [mem_selection_affected]
  exact CallGraph.isAffected_or hchanged

namespace Index

variable {i : Index} {t : FileTree} {text : String} {diff : Diff} {diffNotes : List Note}

theorem isEmpty_of_select {fault : SourceError} (hforce : i.force t = .error fault)
    (hdiff : Diff.read text = .ok (diff, diffNotes)) {c : Criteria}
    {answer : Index × Selection × List Note} (h : i.select t c text = .ok answer) :
    (diff.restrict c.extensions).isEmpty = true := by
  by_contra hkept
  have hchangedBy : i.changedBy t c.extensions text = .error (.source fault) := by
    simp only [changedBy, hdiff, hkept, hforce]
    rfl
  simp [select, hchangedBy] at h

/-- **Selecting is additive.** If the second of two diff texts begins with a file header, the
first one ends its last line, and no file is in both, then both texts together are read as the
files of the first and then those of the second. A selection by them has the functions of the
selections by each; it has an answer where these have one, and these have one where the project
can be read. -/
theorem select_joined {first second : String} {diff diff' : Diff} {notes notes' : List Note}
    (hread : Diff.read first = .ok (diff, notes)) (hread' : Diff.read second = .ok (diff', notes'))
    (hended : Text.IsEnded first.toList) (hheader : Diff.BeginsWithHeader second)
    (hnew : ∀ path ∈ diff'.paths, path ∉ diff.paths) :
    Diff.read (first ++ second) = .ok (diff ++ diff', notes ++ notes') ∧
    ∀ (i : Index) (t : FileTree) (c : Criteria),
      ((∃ answer, i.force t = .ok answer) →
        (∃ one, i.select t c first = .ok one) ∧ ∃ other, i.select t c second = .ok other) ∧
      ∀ one other, i.select t c first = .ok one → i.select t c second = .ok other →
        ∃ both, i.select t c (first ++ second) = .ok both ∧
          both.2.1.IsUnion one.2.1 other.2.1 := by
  have hboth := Diff.read_joined hread hread' hended hheader hnew
  refine ⟨hboth, fun i t c => ⟨fun hgiven => ?_, fun one other hone hother => ?_⟩⟩
  · obtain ⟨⟨j, p, projectNotes⟩, hforce⟩ := hgiven
    obtain ⟨k, ns, hone⟩ := select_eq hforce hread c
    obtain ⟨k', ns', hother⟩ := select_eq hforce hread' c
    exact ⟨⟨_, hone⟩, ⟨_, hother⟩⟩
  · cases hforce : i.force t with
    | ok result =>
      obtain ⟨j, p, projectNotes⟩ := result
      obtain ⟨k, ns, hone'⟩ := select_eq hforce hread c
      obtain ⟨k', ns', hother'⟩ := select_eq hforce hread' c
      obtain ⟨k'', ns'', hboth'⟩ := select_eq hforce hboth c
      obtain rfl := Except.ok.inj (hone.symm.trans hone')
      obtain rfl := Except.ok.inj (hother.symm.trans hother')
      exact ⟨_, hboth', p.isUnion_selection c hnew⟩
    | error fault =>
      -- Neither diff leaves a file, so all three selections are empty.
      have hempty := isEmpty_of_select hforce hread hone
      have hempty' := isEmpty_of_select hforce hread' hother
      obtain rfl := Except.ok.inj (hone.symm.trans (select_of_isEmpty hread hempty))
      obtain rfl := Except.ok.inj (hother.symm.trans (select_of_isEmpty hread' hempty'))
      have hnone : ((diff ++ diff').restrict c.extensions).isEmpty = true := by
        rw [Diff.restrict_append, List.isEmpty_iff.mp hempty, List.isEmpty_iff.mp hempty']
        rfl
      exact ⟨_, select_of_isEmpty hboth hnone, by simp [Selection.IsUnion]⟩

/-- The first text ends in CR LF and leaves its file open; the header of the second one closes
it, and the test of each file is affected. -/
theorem select_joined_files :
    let first := "diff --git a/m.py b/m.py\n@@ -1 +1 @@\n+x\r\n"
    let second := "diff --git a/n.py b/n.py\n@@ -3,2 +2 @@"
    let range : LineRange := ⟨1, 2, by decide, by decide⟩
    let p : Project := ⟨[⟨⟨.function, "f", "m.f"⟩, "m.py", range⟩,
        ⟨⟨.function, "g", "n.g"⟩, "n.py", range⟩],
      [⟨"t.test_f", "m.f"⟩, ⟨"t.test_g", "n.g"⟩]⟩
    let i : Index := ⟨⟨.ast, .here, []⟩, some p⟩
    Text.IsEnded first.toList ∧ Diff.BeginsWithHeader second ∧
      ∃ both, i.select ⟨[], []⟩ ⟨[".py"], Naming.standard.isTest⟩ (first ++ second) = .ok both ∧
        "t.test_f" ∈ both.2.1.affected ∧ "t.test_g" ∈ both.2.1.affected := by
  intro first second range p i
  let c : Criteria := ⟨[".py"], Naming.standard.isTest⟩
  have hread : Diff.read first = .ok ([⟨"m.py", [⟨1, 1, by decide, by decide⟩]⟩], []) := by
    decide +kernel
  have hread' : Diff.read second = .ok ([⟨"n.py", [⟨2, 2, by decide, by decide⟩]⟩], []) := by
    decide +kernel
  have hended : Text.IsEnded first.toList := by decide +kernel
  have hheader : Diff.BeginsWithHeader second :=
    ⟨"diff --git a/n.py b/n.py".toList, "n.py".toList, by decide +kernel,
      Diff.headerPath?_eq_some.mp (by decide +kernel)⟩
  obtain ⟨-, hselect⟩ := select_joined hread hread' hended hheader (by decide)
  obtain ⟨⟨⟨one, hone⟩, other, hother⟩, hunion⟩ :=
    (hselect i ⟨[], []⟩ c).imp_left fun h => h ⟨_, rfl⟩
  obtain ⟨both, hboth, -, haffected⟩ := hunion one other hone hother
  have hone' : (i.select ⟨[], []⟩ c first).map (·.2.1) = .ok ⟨["m.f"], ["t.test_f"]⟩ := by
    decide +kernel
  have hother' : (i.select ⟨[], []⟩ c second).map (·.2.1) = .ok ⟨["n.g"], ["t.test_g"]⟩ := by
    decide +kernel
  have heq : one.2.1 = ⟨["m.f"], ["t.test_f"]⟩ := by simpa [hone, Except.map] using hone'
  have heq' : other.2.1 = ⟨["n.g"], ["t.test_g"]⟩ := by simpa [hother, Except.map] using hother'
  refine ⟨hended, hheader, both, hboth, (haffected _).mpr (.inl ?_), (haffected _).mpr (.inr ?_)⟩
  · simp [heq]
  · simp [heq']

end Index

end TestImpact
