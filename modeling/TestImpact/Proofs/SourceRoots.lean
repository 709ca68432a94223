import Mathlib.Data.List.Lex
import TestImpact.Proofs.FileTree
import TestImpact.Proofs.Text.Ascending
import TestImpact.Proofs.Text.Dotted
import TestImpact.SourceRoots

/-
  Which files are sources, and to which root each belongs.

  A file belongs to the deepest root that it lies below (`IsDeepestRoot`), and
  it is a source if no directory between that root and it is left out
  (`IsSourceFile`). The listing asks each root by itself which files it lists
  and takes the deepest root that does. That is the same, because the roots
  above a file form a chain (`LiesBelow.eq_of_length`), and a file that a root
  lists is listed by all deeper ones (`listedBelow_of_le`).
-/

namespace TestImpact

/-! ## The order of paths -/

instance : IsStrictTotalOrder Path (· < ·) where
  irrefl p h := by
    rcases h with h | ⟨-, h⟩
    · exact lt_irrefl _ h
    · exact lt_irrefl _ h
  trans p q r hpq hqr := by
    rcases hpq with hpq | ⟨hroot, hpq⟩
    · rcases hqr with hqr | ⟨hroot', -⟩
      · exact .inl (hpq.trans hqr)
      · exact .inl (hroot' ▸ hpq)
    · rcases hqr with hqr | ⟨hroot', hqr⟩
      · exact .inl (hroot ▸ hqr)
      · exact .inr ⟨hroot.trans hroot', hpq.trans hqr⟩
  trichotomous p q hpq hqp := by
    obtain ⟨root, names⟩ := p
    obtain ⟨root', names'⟩ := q
    have hroot : root = root' :=
      le_antisymm (not_lt.mp fun h => hqp (.inl h)) (not_lt.mp fun h => hpq (.inl h))
    subst hroot
    have hnames : names = names' :=
      le_antisymm (not_lt.mp fun h => hqp (.inr ⟨rfl, h⟩)) (not_lt.mp fun h => hpq (.inr ⟨rfl, h⟩))
    rw [hnames]

/-! ## What is meant -/

/-- A path lies below a root, at any depth. -/
def LiesBelow (path root : Path) : Prop :=
  path.root = root.root ∧ ∃ names, names ≠ [] ∧ path.names = root.names ++ names

/-- The directory is left out: it is one of tools, caches and builds, or describes a package. -/
def IsLeftOut (directory : String) : Prop :=
  directory ∈ skippedDirectories ∨ ∃ front, directory = front ++ ".egg-info"

/-- Of the roots that are directories, the deepest that a path lies below. -/
structure IsDeepestRoot (t : FileTree) (roots : List Path) (path root : Path) : Prop where
  mem : root ∈ roots
  directory : t.isDirectory root.names = true
  below : LiesBelow path root
  deepest : ∀ other ∈ roots, t.isDirectory other.names = true → LiesBelow path other →
    other.names.length ≤ root.names.length

/-- The file is there, it is a source by its name, it belongs to the deepest root that it lies
below, and no directory between the two is left out. -/
structure IsSourceFile (t : FileTree) (roots : List Path) (file : SourceFile) : Prop where
  there : t.There file.path.names
  name : ∃ front, file.path.name = front ++ ".py"
  owner : IsDeepestRoot t roots file.path file.root
  clear : ∃ directories, file.path.names = file.root.names ++ directories ++ [file.path.name] ∧
    ∀ directory ∈ directories, ¬IsLeftOut directory

/-! ## What one root lists -/

theorem Path.namesAfter?_eq_some {front names rest : List String} :
    Path.namesAfter? front names = some rest ↔ names = front ++ rest := by
  induction front generalizing names with
  | nil => simp [Path.namesAfter?]
  | cons f front ih =>
    cases names with
    | nil => simp [Path.namesAfter?]
    | cons n names =>
      by_cases h : f = n
      · simp [Path.namesAfter?, h, ih]
      · simp [Path.namesAfter?, h, Ne.symm h]

theorem Path.relativeTo_of_names {path root : Path} {rest : List String}
    (hroot : path.root = root.root) (h : path.names = root.names ++ rest) :
    path.relativeTo root = .ok ⟨"", rest⟩ := by
  simp [Path.relativeTo, hroot, Path.namesAfter?_eq_some.mpr h]

theorem Path.withoutSuffix_concat (root last : String) (front : List String) :
    (⟨root, front ++ [last]⟩ : Path).withoutSuffix
      = .ok ⟨root, front ++ [withoutEnding last]⟩ := by
  simp [Path.withoutSuffix]

theorem isSkipped_iff {directory : String} : isSkipped directory = true ↔ IsLeftOut directory := by
  simp [isSkipped, IsLeftOut, Text.endsWith_iff]

theorem listedBelow_iff {root path : Path} :
    listedBelow root path = true ↔ path.root = root.root ∧
      ∃ directories name, path.names = root.names ++ directories ++ [name] ∧
        (∃ front, name = front ++ ".py") ∧ ∀ directory ∈ directories, ¬IsLeftOut directory := by
  unfold listedBelow Path.relativeTo
  by_cases hroot : path.root = root.root
  · rw [if_pos hroot, and_iff_right hroot]
    cases hafter : Path.namesAfter? root.names path.names with
    | none =>
      simp only [Bool.false_eq_true, false_iff]
      intro hgiven
      obtain ⟨directories, name, hnames, -⟩ := hgiven
      rw [List.append_assoc, ← Path.namesAfter?_eq_some, hafter] at hnames
      cases hnames
    | some names =>
      rw [Path.namesAfter?_eq_some] at hafter
      dsimp only
      have hsplit : ∀ directories name, path.names = root.names ++ directories ++ [name] ↔
          names.reverse = name :: directories.reverse := by
        intro directories name
        rw [hafter, List.append_assoc, List.append_cancel_left_eq, List.reverse_eq_cons_iff,
          List.reverse_reverse]
      simp only [hsplit]
      cases hreverse : names.reverse with
      | nil => simp
      | cons name directories =>
        simp only [Bool.and_eq_true, Bool.not_eq_true', List.any_eq_false, isSourceName,
          Text.endsWith_iff, isSkipped_iff, List.cons.injEq]
        constructor
        · intro hgiven
          obtain ⟨hname, hclear⟩ := hgiven
          exact ⟨directories.reverse, name, ⟨rfl, by simp⟩, hname,
            fun d hd => hclear d (List.mem_reverse.mp hd)⟩
        · intro hgiven
          obtain ⟨others, _, ⟨rfl, rfl⟩, hname, hclear⟩ := hgiven
          exact ⟨hname, fun d hd => hclear d (List.mem_reverse.mp hd)⟩
  · simp [hroot]

theorem liesBelow_of_listedBelow {root path : Path} (h : listedBelow root path = true) :
    LiesBelow path root := by
  obtain ⟨hroot, directories, name, hnames, -⟩ := listedBelow_iff.mp h
  exact ⟨hroot, directories ++ [name], by simp, by rw [hnames, List.append_assoc]⟩

/-! ## The roots above a path form a chain -/

/-- Of two roots above a path, the deeper one lies in the other one or is the same. -/
theorem LiesBelow.prefix_of_le {path root deeper : Path} (h : LiesBelow path root)
    (hdeeper : LiesBelow path deeper) (hle : root.names.length ≤ deeper.names.length) :
    root.names <+: deeper.names := by
  obtain ⟨-, names, -, hnames⟩ := h
  obtain ⟨-, names', -, hnames'⟩ := hdeeper
  exact List.prefix_of_prefix_length_le ⟨names, hnames.symm⟩ ⟨names', hnames'.symm⟩ hle

theorem LiesBelow.eq_of_length {path root other : Path} (h : LiesBelow path root)
    (hother : LiesBelow path other) (hlength : root.names.length = other.names.length) :
    root = other := by
  have hnames : root.names = other.names := (h.prefix_of_le hother hlength.le).eq_of_length hlength
  have hroot : root.root = other.root := h.1.symm.trans hother.1
  obtain ⟨root, names⟩ := root
  obtain ⟨root', names'⟩ := other
  exact congrArg₂ Path.mk hroot hnames

/-- What lies between a deeper root and a path also lies between a root above it and the path. -/
theorem listedBelow_of_le {path root deeper : Path} (h : listedBelow root path = true)
    (hdeeper : LiesBelow path deeper) (hle : root.names.length ≤ deeper.names.length) :
    listedBelow deeper path = true := by
  obtain ⟨more, hmore⟩ := (liesBelow_of_listedBelow h).prefix_of_le hdeeper hle
  obtain ⟨-, directories, name, hnames, hname, hclear⟩ := listedBelow_iff.mp h
  obtain ⟨hroot, names, hne, hbelow⟩ := hdeeper
  rcases List.eq_nil_or_concat names with rfl | ⟨front, last, rfl⟩
  · exact absurd rfl hne
  -- Both ways lead to the path, so the longer one is the shorter one behind `more`.
  have hsame : directories ++ [name] = more ++ front ++ [last] := by
    have hboth := hnames.symm.trans hbelow
    rw [← hmore] at hboth
    simpa using hboth
  obtain ⟨hdirectories, hlast⟩ := List.append_inj' hsame rfl
  obtain rfl : name = last := by simpa using hlast
  refine listedBelow_iff.mpr ⟨hroot, front, name, ?_, hname, fun d hd => hclear d ?_⟩
  · rw [hbelow, List.append_assoc, List.concat_eq_append]
  · rw [hdirectories]
    exact List.mem_append_right more hd

/-! ## The owner of a path -/

theorem ownerOf?_eq_none {path : Path} {roots : List Path} :
    ownerOf? path roots = none ↔ ∀ root ∈ roots, listedBelow root path = false := by
  induction roots with
  | nil => simp [ownerOf?]
  | cons root roots ih =>
    unfold ownerOf?
    cases hrest : ownerOf? path roots with
    | none =>
      rw [hrest] at ih
      simp [← ih]
    | some deeper =>
      rw [hrest] at ih
      simp only [List.mem_cons, forall_eq_or_imp, ← ih, reduceCtorEq, and_false, iff_false]
      split
      · simp
      · simp

theorem ownerOf?_eq_some {path owner : Path} {roots : List Path}
    (h : ownerOf? path roots = some owner) :
    owner ∈ roots ∧ listedBelow owner path = true ∧
      ∀ root ∈ roots, listedBelow root path = true → root.names.length ≤ owner.names.length := by
  induction roots generalizing owner with
  | nil => cases h
  | cons root roots ih =>
    unfold ownerOf? at h
    cases hrest : ownerOf? path roots with
    | none =>
      have hnone := ownerOf?_eq_none.mp hrest
      rw [hrest] at h
      dsimp only at h
      split at h
      · rename_i hlisted
        obtain rfl := Option.some.inj h
        refine ⟨List.mem_cons_self, hlisted, fun other hother hlisted' => ?_⟩
        rcases List.mem_cons.mp hother with rfl | hother
        · exact le_rfl
        · simp [hnone other hother] at hlisted'
      · cases h
    | some deeper =>
      obtain ⟨hmem, hlisted, hdeepest⟩ := ih hrest
      rw [hrest] at h
      dsimp only at h
      split at h
      · rename_i hroot
        obtain ⟨hlisted', hle⟩ : listedBelow root path = true ∧
            deeper.names.length ≤ root.names.length := by simpa using hroot
        obtain rfl := Option.some.inj h
        refine ⟨List.mem_cons_self, hlisted', fun other hother hother' => ?_⟩
        rcases List.mem_cons.mp hother with rfl | hother
        · exact le_rfl
        · exact (hdeepest other hother hother').trans hle
      · rename_i hroot
        obtain rfl := Option.some.inj h
        refine ⟨List.mem_cons_of_mem root hmem, hlisted, fun other hother hother' => ?_⟩
        rcases List.mem_cons.mp hother with rfl | hother
        · have hlt : ¬deeper.names.length ≤ other.names.length := fun hle =>
            hroot (by simp [hother', hle])
          omega
        · exact hdeepest other hother hother'

/-- The owner of a path is the deepest root that it lies below, if that one lists it. -/
theorem ownerOf?_directoryRoots {t : FileTree} {roots : List Path} {path root : Path} :
    ownerOf? path (directoryRoots t roots) = some root ↔
      IsDeepestRoot t roots path root ∧ listedBelow root path = true := by
  have hroots : ∀ other, other ∈ directoryRoots t roots ↔
      other ∈ roots ∧ t.isDirectory other.names = true := fun other => List.mem_filter
  constructor
  · intro h
    obtain ⟨hmem, hlisted, hdeepest⟩ := ownerOf?_eq_some h
    obtain ⟨hmem, hdirectory⟩ := (hroots root).mp hmem
    have hbelow := liesBelow_of_listedBelow hlisted
    refine ⟨⟨hmem, hdirectory, hbelow, fun other hother hother' hbelow' => ?_⟩, hlisted⟩
    -- A deeper root above the path would list it too, and then be the owner.
    by_contra hlt
    have hle : root.names.length ≤ other.names.length := by omega
    exact hlt (hdeepest other ((hroots other).mpr ⟨hother, hother'⟩)
      (listedBelow_of_le hlisted hbelow' hle))
  · intro hgiven
    obtain ⟨hroot, hlisted⟩ := hgiven
    have hmem : root ∈ directoryRoots t roots := (hroots root).mpr ⟨hroot.mem, hroot.directory⟩
    cases howner : ownerOf? path (directoryRoots t roots) with
    | none => simp [ownerOf?_eq_none.mp howner root hmem] at hlisted
    | some owner =>
      obtain ⟨howner', hlisted', hdeepest⟩ := ownerOf?_eq_some howner
      obtain ⟨howner', hdirectory⟩ := (hroots owner).mp howner'
      have hbelow := liesBelow_of_listedBelow hlisted'
      have hlength : owner.names.length = root.names.length :=
        le_antisymm (hroot.deepest owner howner' hdirectory hbelow) (hdeepest root hmem hlisted)
      rw [hbelow.eq_of_length hroot.below hlength]

/-! ## The listing -/

theorem isSourceFile_iff {t : FileTree} {roots : List Path} {file : SourceFile} :
    IsSourceFile t roots file ↔ t.There file.path.names ∧
      IsDeepestRoot t roots file.path file.root ∧ listedBelow file.root file.path = true := by
  constructor
  · intro h
    obtain ⟨directories, hnames, hclear⟩ := h.clear
    exact ⟨h.there, h.owner, listedBelow_iff.mpr ⟨h.owner.below.1, directories, _, hnames, h.name,
      hclear⟩⟩
  · intro hgiven
    obtain ⟨hthere, howner, hlisted⟩ := hgiven
    obtain ⟨-, directories, name, hnames, hname, hclear⟩ := listedBelow_iff.mp hlisted
    obtain rfl : file.path.name = name := by simp [Path.name, hnames]
    exact ⟨hthere, hname, howner, directories, hnames, hclear⟩

theorem mem_sourceFiles {t : FileTree} {roots : List Path}
    (hroots : ∀ root ∈ roots, root.root = "/") {file : SourceFile} :
    file ∈ sourceFiles t roots ↔ IsSourceFile t roots file := by
  have hpaths : ∀ path, path ∈ ((directoryRoots t roots).flatMap fun root =>
        t.inside root.names).map FileTree.pathOf ↔
      ∃ root ∈ directoryRoots t roots, FileTree.isInside path.names root.names = true ∧
        t.There path.names ∧ path.root = "/" := by
    intro path
    simp only [List.mem_map, List.mem_flatMap, FileTree.mem_inside]
    constructor
    · intro hgiven
      obtain ⟨place, ⟨root, hroot, hinside, hthere⟩, rfl⟩ := hgiven
      exact ⟨root, hroot, hinside, hthere, rfl⟩
    · intro hgiven
      obtain ⟨root, hroot, hinside, hthere, habsolute⟩ := hgiven
      exact ⟨path.names, ⟨root, hroot, hinside, hthere⟩, by rw [FileTree.pathOf, ← habsolute]⟩
  rw [isSourceFile_iff, ← ownerOf?_directoryRoots, sourceFiles, List.mem_filterMap]
  simp only [Text.mem_ascending, hpaths, Option.map_eq_some_iff]
  constructor
  · intro hgiven
    obtain ⟨path, ⟨_, _, _, hthere, -⟩, root, howner, rfl⟩ := hgiven
    exact ⟨hthere, howner⟩
  · intro hgiven
    obtain ⟨hthere, howner⟩ := hgiven
    obtain ⟨hdeepest, -⟩ := ownerOf?_directoryRoots.mp howner
    obtain ⟨hsame, names, hne, hnames⟩ := hdeepest.below
    refine ⟨file.path, ⟨file.root, List.mem_filter.mpr ⟨hdeepest.mem, hdeepest.directory⟩, ?_,
      hthere, hsame.trans (hroots _ hdeepest.mem)⟩, file.root, howner, rfl⟩
    rw [FileTree.isInside_iff, hnames]
    exact ⟨List.prefix_append _ _, by simpa using hne⟩

theorem pairwise_sourceFiles (t : FileTree) (roots : List Path) :
    (sourceFiles t roots).Pairwise fun file other => file.path < other.path := by
  refine (Text.pairwise_ascending _).filterMap _ fun path path' hlt file hfile other hother => ?_
  obtain ⟨_, -, rfl⟩ := Option.map_eq_some_iff.mp hfile
  obtain ⟨_, -, rfl⟩ := Option.map_eq_some_iff.mp hother
  exact hlt

/-- **Every source file is listed once, with its root.** Whatever roots are given, the listing
holds the source files below them, each with the deepest root that it lies below, in the ascending
order of their paths. So roots may be given in any order, and more than once. -/
theorem sourceFiles_exact (t : FileTree) (given : List Path) :
    (∀ file, file ∈ sourceFiles t (given.map t.resolve) ↔
      IsSourceFile t (given.map t.resolve) file) ∧
    (sourceFiles t (given.map t.resolve)).Pairwise (fun file other => file.path < other.path) ∧
    ∀ others : List Path, (∀ root, root ∈ others ↔ root ∈ given) →
      sourceFiles t (others.map t.resolve) = sourceFiles t (given.map t.resolve) := by
  have habsolute : ∀ (roots : List Path), ∀ root ∈ roots.map t.resolve, root.root = "/" := by
    intro roots root hroot
    obtain ⟨path, -, rfl⟩ := List.mem_map.mp hroot
    rfl
  refine ⟨fun file => mem_sourceFiles (habsolute given), pairwise_sourceFiles t _, ?_⟩
  intro others hothers
  have : Std.Irrefl fun file other : SourceFile => file.path < other.path :=
    ⟨fun file => irrefl file.path⟩
  have : Std.Antisymm fun file other : SourceFile => file.path < other.path :=
    ⟨fun file other h h' => absurd (Trans.trans h h') (irrefl file.path)⟩
  refine (pairwise_sourceFiles t _).eq_of_mem_iff (pairwise_sourceFiles t _) fun file => ?_
  rw [mem_sourceFiles (habsolute others), mem_sourceFiles (habsolute given)]
  have hmem : ∀ root, root ∈ others.map t.resolve ↔ root ∈ given.map t.resolve := by
    intro root
    simp only [List.mem_map, hothers]
  have howner : IsDeepestRoot t (others.map t.resolve) file.path file.root ↔
      IsDeepestRoot t (given.map t.resolve) file.path file.root := by
    constructor
    · intro h
      exact ⟨(hmem _).mp h.mem, h.directory, h.below, fun root hroot =>
        h.deepest root ((hmem root).mpr hroot)⟩
    · intro h
      exact ⟨(hmem _).mpr h.mem, h.directory, h.below, fun root hroot =>
        h.deepest root ((hmem root).mp hroot)⟩
  rw [isSourceFile_iff, isSourceFile_iff, howner]

/-- A root inside a directory that is left out lists its own files, and the root above does not
take them away; the file between the two belongs to neither. -/
theorem sourceFiles_in_build :
    let t : FileTree := ⟨["work"], [(["work", "c.py"], .file []),
      (["work", "build", "b.py"], .file []), (["work", "build", "lib", "a.py"], .file [])]⟩
    let lib : Path := ⟨"", ["build", "lib"]⟩
    let listed : List SourceFile :=
      [⟨⟨"/", ["work", "build", "lib", "a.py"]⟩, ⟨"/", ["work", "build", "lib"]⟩⟩,
        ⟨⟨"/", ["work", "c.py"]⟩, ⟨"/", ["work"]⟩⟩]
    (∀ file, file ∈ listed ↔ IsSourceFile t ([.here, lib].map t.resolve) file) ∧
      (∀ root, root ∈ [lib, .here, lib] ↔ root ∈ [Path.here, lib]) ∧
      sourceFiles t ([lib, .here, lib].map t.resolve) = listed := by
  intro t lib listed
  obtain ⟨hmem, -, hsame⟩ := sourceFiles_exact t [.here, lib]
  have hlisted : sourceFiles t ([Path.here, lib].map t.resolve) = listed := by decide +kernel
  have hroots : ∀ root, root ∈ [lib, .here, lib] ↔ root ∈ [Path.here, lib] := by
    intro root
    simp only [List.mem_cons, List.not_mem_nil, or_false]
    exact ⟨fun h => h.elim .inr id, .inr⟩
  exact ⟨hlisted ▸ hmem, hroots, (hsame _ hroots).trans hlisted⟩

end TestImpact
