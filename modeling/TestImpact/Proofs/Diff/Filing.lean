import Mathlib.Data.List.Induction
import TestImpact.Diff.Basic
import TestImpact.Proofs.Text.Ascending

/-
  A diff as a map from paths to changed lines.

  Filing a file puts it at its path and leaves all other paths alone
  (`find?_file`); a new path comes last and a known one keeps its place
  (`paths_file`). After filing some files, the paths stand in the order in
  which each came first, and at each is what came last (`paths_fileAll`,
  `find?_fileAll`). Restricting a diff to some endings keeps what is at the paths
  with these endings and drops the rest (`find?_restrict`).
-/

namespace TestImpact

namespace Diff

theorem find?_cons (e : FileDiff) (diff : Diff) (path : String) :
    find? (e :: diff) path = if e.path = path then some e else diff.find? path := by
  unfold find?
  rw [List.find?_cons]
  by_cases h : e.path = path
  · simp [h]
  · simp [h]

theorem find?_file (d : FileDiff) (diff : Diff) (path : String) :
    (file d diff).find? path = if d.path = path then some d else diff.find? path := by
  induction diff with
  | nil =>
    rw [file, find?_cons]
  | cons e rest ih =>
    unfold file
    split
    · rename_i he
      rw [find?_cons, find?_cons, he]
      split
      · rfl
      · rfl
    · rename_i he
      rw [find?_cons, find?_cons, ih]
      by_cases hd : d.path = path
      · simp [hd, show e.path ≠ path from fun h => he (h.trans hd.symm)]
      · simp [hd]

theorem paths_file (d : FileDiff) (diff : Diff) :
    (file d diff).paths = if d.path ∈ diff.paths then diff.paths else diff.paths ++ [d.path] := by
  induction diff with
  | nil => simp [file, paths]
  | cons e rest ih =>
    unfold file
    split
    · rename_i he
      simp [paths, he]
    · rename_i he
      simp only [paths, List.map_cons, List.mem_cons] at ih ⊢
      by_cases hd : d.path ∈ rest.map (·.path)
      · simp [ih, hd]
      · simp [ih, hd, Ne.symm he]

theorem find?_of_mem {diff : Diff} (hnodup : diff.paths.Nodup) {d : FileDiff} (h : d ∈ diff) :
    diff.find? d.path = some d := by
  induction diff with
  | nil => cases h
  | cons e rest ih =>
    obtain ⟨hfresh, hrest⟩ : e.path ∉ paths rest ∧ (paths rest).Nodup :=
      List.nodup_cons.mp hnodup
    rw [find?_cons]
    rcases List.mem_cons.mp h with rfl | hd
    · rw [if_pos rfl]
    · have hmem : d.path ∈ paths rest := List.mem_map_of_mem hd
      have hne : e.path ≠ d.path := fun he => hfresh (he ▸ hmem)
      rw [if_neg hne, ih hrest hd]

/-! ## Filing one file after the other -/

def fileAll (ds : List FileDiff) (diff : Diff) : Diff :=
  ds.foldl (fun diff d => file d diff) diff

theorem fileAll_append_singleton (ds : List FileDiff) (d : FileDiff) (diff : Diff) :
    fileAll (ds ++ [d]) diff = file d (fileAll ds diff) :=
  List.foldl_append

theorem paths_fileAll (ds : List FileDiff) :
    (fileAll ds []).paths = Text.distinct (ds.map (·.path)) := by
  induction ds using List.reverseRecOn with
  | nil => rfl
  | append_singleton ds d ih =>
    rw [fileAll_append_singleton, paths_file, ih, List.map_append, List.map_singleton,
      Text.distinct_append_singleton]
    simp only [Text.mem_distinct]

theorem find?_fileAll (ds : List FileDiff) (path : String) :
    (fileAll ds []).find? path = (ds.filter (·.path = path)).getLast? := by
  induction ds using List.reverseRecOn with
  | nil => rfl
  | append_singleton ds d ih =>
    rw [fileAll_append_singleton, find?_file, ih, List.filter_append]
    by_cases h : d.path = path
    · simp [h]
    · simp [h]

/-! ## Restricting -/

theorem find?_restrict (extensions : List String) (diff : Diff) (path : String) :
    (diff.restrict extensions).find? path =
      if extensions.any (Text.endsWith path) then diff.find? path else none := by
  induction diff with
  | nil => simp [restrict, find?]
  | cons e rest ih =>
    have hcons : restrict extensions (e :: rest)
        = if extensions.any (Text.endsWith e.path) then e :: restrict extensions rest
          else restrict extensions rest :=
      List.filter_cons
    by_cases he : e.path = path
    · subst he
      rw [hcons]
      split
      · simp [find?_cons]
      · rename_i h
        rw [ih, if_neg h]
    · rw [find?_cons, if_neg he, hcons]
      split
      · rw [find?_cons, if_neg he, ih]
      · exact ih

end Diff

end TestImpact
