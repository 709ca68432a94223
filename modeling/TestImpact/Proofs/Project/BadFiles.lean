import TestImpact.Project
import TestImpact.Proofs.SourceRoots

/-
  What a bad file does to a project of the strict reader.

  A file is bad if no text can be read from it, or if the reader refuses the
  text: it does not follow the language, or there is a NUL character in it. A
  bad file is left out, but a NUL character is met before that is decided, and
  it ends the reading of the whole project (`read_without_bad`).

  That the good files have the same outlines with and without the bad ones is
  `tree?_without`. That they are the same files with the same roots is
  `filter_sourceFiles_eq`: whether a directory above a file is there does not
  depend on anything but the file.
-/

namespace TestImpact

open Source (Outline Tree)

/-- The tree that the strict reader makes of a text, if it does not refuse it. -/
def Source.strictTree? (text : List Char) : Option Tree :=
  if text.contains '\x00' then none else Tree.ofText? .strict text

namespace FileTree

/-- The text of the file at a place, as a reader gets it. -/
def sourceText? (t : FileTree) (place : List String) : Option (List Char) :=
  (t.content? place).map fun bytes => Text.unifyLineEnds (Text.decodeDropping bytes)

/-- What the strict reader makes of the file at a place. -/
def tree? (t : FileTree) (place : List String) : Option Tree :=
  (t.sourceText? place).bind Source.strictTree?

/-- The text of the file at a place has a NUL character. -/
def hasNul (t : FileTree) (place : List String) : Bool :=
  (t.sourceText? place).any (·.contains '\x00')

/-- The tree without what is listed at some places. What lies inside them stays. -/
def without (t : FileTree) (dropped : List String → Bool) : FileTree :=
  { t with entries := t.entries.filter fun e => !dropped e.1 }

end FileTree

namespace ProjectSpec

/-- At a place is a source file from which no text can be read, or whose text is refused. -/
def isBad (spec : ProjectSpec) (t : FileTree) (place : List String) : Bool :=
  (sourceFiles t spec.roots).any fun file => file.path.names = place && (t.tree? place).isNone

/-- A source file has a NUL character. -/
def meetsNul (spec : ProjectSpec) (t : FileTree) : Bool :=
  (sourceFiles t spec.roots).any fun file => t.hasNul file.path.names

/-- What a source file adds to a project. -/
def outlineOf (spec : ProjectSpec) (t : FileTree) (file : SourceFile) : Outline :=
  match t.tree? file.path.names with
  | none => .empty
  | some tree => (Source.Node.ofTree tree).outline (fileKey spec.repository file)
      (Source.moduleScope ((moduleName file.path file.root).toOption.getD ""))

end ProjectSpec

/-! ## Leaving entries out -/

namespace FileTree

variable {t : FileTree} {dropped : List String → Bool} {place : List String}

theorem entry?_without (t : FileTree) (dropped : List String → Bool) (place : List String) :
    FileTree.entry? (t.without dropped) place
      = if dropped place then none else t.entry? place := by
  unfold entry? without
  induction t.entries with
  | nil => simp
  | cons e entries ih =>
    by_cases hplace : e.1 = place
    · cases hdropped : dropped place with
      | true => simpa [hplace, hdropped] using ih
      | false => simp [hplace, hdropped]
    · cases hdropped : dropped e.1 with
      | true => simpa [hplace, hdropped] using ih
      | false => simpa [hplace, hdropped] using ih

theorem sourceText?_without (t : FileTree) (dropped : List String → Bool) (place : List String) :
    (t.without dropped).sourceText? place
      = if dropped place then none else t.sourceText? place := by
  unfold sourceText? content?
  rw [entry?_without]
  cases dropped place with
  | true => rfl
  | false => rfl

theorem tree?_without (h : ∀ place, dropped place = true → t.tree? place = none) :
    (t.without dropped).tree? = t.tree? := by
  funext place
  rw [tree?, sourceText?_without]
  split
  · rename_i hdropped
    rw [h place hdropped]
    rfl
  · rfl

theorem isFile_of_sourceText? {text : List Char} (h : t.sourceText? place = some text) :
    t.isFile place = true := by
  obtain ⟨content, hcontent, -⟩ := Option.map_eq_some_iff.mp h
  simp [isFile, hcontent]

theorem isFile_of_tree? {tree : Tree} (h : t.tree? place = some tree) : t.isFile place = true := by
  obtain ⟨text, htext, -⟩ := Option.bind_eq_some_iff.mp h
  exact isFile_of_sourceText? htext

theorem hasNul_iff : t.hasNul place = true ↔ ∃ text, t.sourceText? place = some text ∧
    text.contains '\x00' = true := by
  unfold hasNul
  cases t.sourceText? place with
  | none => simp
  | some text => simp

theorem tree?_of_hasNul (h : t.hasNul place = true) : t.tree? place = none := by
  obtain ⟨text, htext, hnul⟩ := hasNul_iff.mp h
  rw [tree?, htext, Option.bind_some, Source.strictTree?, if_pos hnul]

end FileTree

/-! ## The sources in two trees -/

section Sources

variable {t t' : FileTree} {roots : List Path} {file : SourceFile}

theorem LiesBelow.isDirectory {path root : Path} (h : LiesBelow path root)
    (hfile : t.isFile path.names = true) : t.isDirectory root.names = true := by
  obtain ⟨-, names, hne, hnames⟩ := h
  exact FileTree.isDirectory_of_isFile hfile ⟨names, hnames.symm⟩ (by simpa [hnames] using hne)

/-- What is a file in two trees is a source in both, with the same root, or in none. -/
theorem IsSourceFile.of_isFile (h : IsSourceFile t roots file)
    (hfile : t.isFile file.path.names = true) (hfile' : t'.isFile file.path.names = true) :
    IsSourceFile t' roots file where
  there := .inl hfile'
  name := h.name
  owner :=
    { mem := h.owner.mem
      directory := h.owner.below.isDirectory hfile'
      below := h.owner.below
      deepest := fun other hother _ hbelow =>
        h.owner.deepest other hother (hbelow.isDirectory hfile) hbelow }
  clear := h.clear

/-- The sources of two trees with the same good files: those that are good are the same. -/
theorem filter_sourceFiles_eq (hroots : ∀ root ∈ roots, root.root = "/")
    (hsame : t'.tree? = t.tree?) :
    (sourceFiles t' roots).filter (fun file => (t.tree? file.path.names).isSome)
      = (sourceFiles t roots).filter (fun file => (t.tree? file.path.names).isSome) := by
  have : Std.Irrefl fun file other : SourceFile => file.path < other.path :=
    ⟨fun file => irrefl file.path⟩
  have : Std.Antisymm fun file other : SourceFile => file.path < other.path :=
    ⟨fun file other h h' => absurd (Trans.trans h h') (irrefl file.path)⟩
  refine ((pairwise_sourceFiles t' roots).filter _).eq_of_mem_iff
    ((pairwise_sourceFiles t roots).filter _) fun file => ?_
  rw [List.mem_filter, List.mem_filter, mem_sourceFiles hroots, mem_sourceFiles hroots]
  refine and_congr_left fun hgood => ?_
  obtain ⟨tree, htree⟩ := Option.isSome_iff_exists.mp hgood
  have hfile : t.isFile file.path.names = true := FileTree.isFile_of_tree? htree
  have hfile' : t'.isFile file.path.names = true := FileTree.isFile_of_tree? (hsame ▸ htree)
  exact ⟨fun h => h.of_isFile hfile' hfile, fun h => h.of_isFile hfile hfile'⟩

end Sources

/-! ## Reading -/

namespace Source.Outline

/-- The outline of several texts, one after the other. -/
def joined (outlines : List Outline) : Outline := outlines.foldr (· ++ ·) empty

theorem empty_append (o : Outline) : empty ++ o = o := rfl

end Source.Outline

namespace ProjectSpec

variable {spec : ProjectSpec} {t : FileTree}

theorem readFile_eq (hbackend : spec.backend = .ast) (file : SourceFile) :
    (spec.readFile t file).map (·.1) =
      if t.hasNul file.path.names then .error .nulCharacter else .ok (spec.outlineOf t file) := by
  unfold readFile
  cases hcontent : t.content? file.path.names with
  | none =>
    have htext : t.sourceText? file.path.names = none := by simp [FileTree.sourceText?, hcontent]
    simp [FileTree.hasNul, outlineOf, FileTree.tree?, htext, Except.map]
  | some bytes =>
    let text := Text.unifyLineEnds (Text.decodeDropping bytes)
    have htext : t.sourceText? file.path.names = some text := by
      simp [FileTree.sourceText?, hcontent, text]
    simp only [Source.read, hbackend, Source.readStrict, FileTree.hasNul, outlineOf,
      FileTree.tree?, htext, Option.any_some, Option.bind_some, Source.strictTree?]
    change Except.map _ (if text.contains '\x00' = true then _ else _) = _
    cases hnul : text.contains '\x00' with
    | true => simp [Except.map]
    | false =>
      cases htree : Tree.ofText? .strict text with
      | none => simp [Except.map]
      | some tree => simp [Except.map]

/-- The outlines of files are read one after the other, the notes aside. -/
theorem readFiles_cons (file : SourceFile) (files : List SourceFile) :
    (spec.readFiles t (file :: files)).map (·.1) = do
      let outline ← (spec.readFile t file).map (·.1)
      let outlines ← (spec.readFiles t files).map (·.1)
      return outline ++ outlines := by
  rw [readFiles]
  cases spec.readFile t file with
  | error fault => rfl
  | ok first =>
    cases spec.readFiles t files with
    | error fault => rfl
    | ok rest => rfl

/-- Files are read to the outline of all of them, or to the first NUL character. -/
theorem readFiles_eq (hbackend : spec.backend = .ast) (files : List SourceFile) :
    (spec.readFiles t files).map (·.1) =
      if files.any fun file => t.hasNul file.path.names then .error .nulCharacter
      else .ok (Outline.joined (files.map (spec.outlineOf t))) := by
  induction files with
  | nil => rfl
  | cons file files ih =>
    rw [readFiles_cons, readFile_eq hbackend, ih, List.any_cons]
    cases t.hasNul file.path.names with
    | true => rfl
    | false =>
      cases files.any fun file => t.hasNul file.path.names with
      | true => rfl
      | false => rfl

theorem joined_outlines (spec : ProjectSpec) (t : FileTree) (files : List SourceFile) :
    Outline.joined (files.map (spec.outlineOf t)) =
      Outline.joined ((files.filter fun file => (t.tree? file.path.names).isSome).map
        (spec.outlineOf t)) := by
  induction files with
  | nil => rfl
  | cons file files ih =>
    rw [List.filter_cons]
    cases htree : t.tree? file.path.names with
    | none =>
      have hempty : spec.outlineOf t file = .empty := by simp [outlineOf, htree]
      simpa [Outline.joined, hempty, Outline.empty_append] using ih
    | some tree => exact congrArg (spec.outlineOf t file ++ ·) ih

/-- The trees of the good files are all that matters to what they add. -/
theorem outlineOf_congr {t' : FileTree} (hsame : t'.tree? = t.tree?) :
    spec.outlineOf t' = spec.outlineOf t := by
  funext file
  simp only [outlineOf, hsame]

end ProjectSpec

/-! ## Projects with bad files -/

section BadFiles

variable {spec : ProjectSpec} {t : FileTree}

theorem Project.read_eq (hbackend : spec.backend = .ast) :
    (Project.read spec t).map (·.1) =
      if spec.meetsNul t then .error .nulCharacter
      else .ok (ofOutline
        (Outline.joined ((sourceFiles t spec.roots).map (spec.outlineOf t)))) := by
  have hproject : (Project.read spec t).map (·.1) =
      ((spec.readFiles t (sourceFiles t spec.roots)).map (·.1)).map ofOutline := by
    unfold Project.read
    cases spec.readFiles t (sourceFiles t spec.roots) with
    | error fault => rfl
    | ok result => rfl
  rw [hproject, ProjectSpec.readFiles_eq hbackend, ← ProjectSpec.meetsNul]
  cases spec.meetsNul t with
  | true => rfl
  | false => rfl

theorem ProjectSpec.tree?_of_isBad {place : List String} (h : spec.isBad t place = true) :
    t.tree? place = none := by
  obtain ⟨file, -, hbad⟩ := List.any_eq_true.mp h
  simpa using (Bool.and_eq_true_iff.mp hbad).2

theorem ProjectSpec.meetsNul_without (hroots : ∀ root ∈ spec.roots, root.root = "/") :
    spec.meetsNul (t.without (spec.isBad t)) = false := by
  refine List.any_eq_false.mpr fun file hfile hnul => ?_
  obtain ⟨text, htext, hchar⟩ := FileTree.hasNul_iff.mp hnul
  have hisFile := FileTree.isFile_of_sourceText? htext
  rw [FileTree.sourceText?_without] at htext
  split at htext
  · cases htext
  · -- The file is a source in the whole tree too, and so it is bad there and left out.
    rename_i hkept
    have hsource : file ∈ sourceFiles t spec.roots := (mem_sourceFiles hroots).mpr
      (((mem_sourceFiles hroots).mp hfile).of_isFile hisFile
        (FileTree.isFile_of_sourceText? htext))
    have hrefused := FileTree.tree?_of_hasNul (FileTree.hasNul_iff.mpr ⟨text, htext, hchar⟩)
    exact hkept (List.any_eq_true.mpr ⟨file, hsource, by simp [hrefused]⟩)

theorem exists_moduleName {roots : List Path} (hroots : ∀ root ∈ roots, root.root = "/")
    {file : SourceFile} (h : file ∈ sourceFiles t roots) :
    ∃ name, moduleName file.path file.root = .ok name := by
  obtain ⟨hroot, names, hne, hnames⟩ := ((mem_sourceFiles hroots).mp h).owner.below
  have hrelative := Path.relativeTo_of_names hroot hnames
  obtain ⟨front, last, rfl⟩ := (List.eq_nil_or_concat' names).resolve_left hne
  simp only [moduleName, hrelative, bind, Except.bind, Path.withoutSuffix_concat]
  exact ⟨_, rfl⟩

/-- **A bad file does not spoil a project, unless it has a NUL character.** Whatever files there
are and whatever is in them, each source file has a module name; without the bad ones, the
project is read; with them, it has the same definitions and the same edges, but if a NUL
character is in one of them, it is not read at all. -/
theorem Project.read_without_bad (repository : Path) (given : List Path) (t : FileTree) :
    let spec : ProjectSpec := ⟨.ast, repository, given.map t.resolve⟩
    (∀ file ∈ sourceFiles t spec.roots, ∃ name, moduleName file.path file.root = .ok name) ∧
    ∃ p notes, Project.read spec (t.without (spec.isBad t)) = .ok (p, notes) ∧
      (Project.read spec t).map (·.1) =
        if spec.meetsNul t then .error .nulCharacter else .ok p := by
  intro spec
  have hroots : ∀ root ∈ spec.roots, root.root = "/" := by
    intro root hroot
    obtain ⟨path, -, rfl⟩ := List.mem_map.mp hroot
    rfl
  refine ⟨fun file hfile => exists_moduleName hroots hfile, ?_⟩
  let good : FileTree := t.without (spec.isBad t)
  have hsame : good.tree? = t.tree? :=
    FileTree.tree?_without fun place hbad => ProjectSpec.tree?_of_isBad hbad
  -- The same good files with the same outlines, and what else is read adds nothing.
  have houtlines : Outline.joined ((sourceFiles good spec.roots).map (spec.outlineOf good)) =
      Outline.joined ((sourceFiles t spec.roots).map (spec.outlineOf t)) := by
    rw [ProjectSpec.joined_outlines, ProjectSpec.joined_outlines spec t,
      ProjectSpec.outlineOf_congr hsame, hsame, filter_sourceFiles_eq hroots hsame]
  have hgood : (Project.read spec good).map (·.1) =
      .ok (ofOutline (Outline.joined ((sourceFiles t spec.roots).map (spec.outlineOf t)))) := by
    rw [Project.read_eq rfl, ProjectSpec.meetsNul_without hroots, houtlines]
    rfl
  cases hread : Project.read spec good with
  | error fault => simp [hread, Except.map] at hgood
  | ok result =>
    obtain ⟨p, notes⟩ := result
    have hp : p = ofOutline
        (Outline.joined ((sourceFiles t spec.roots).map (spec.outlineOf t))) := by
      simpa [hread, Except.map] using hgood
    exact ⟨p, notes, rfl, hp ▸ Project.read_eq rfl⟩

/-- One file with a NUL character, and the function in the other file is not found. -/
theorem Project.read_nul_character :
    let spec : ProjectSpec := ⟨.ast, ⟨"/", ["work"]⟩, [⟨"/", ["work"]⟩]⟩
    let t : FileTree := ⟨["work"], [(["work", "a.py"], .file (Text.encode "def f():\n    pass\n")),
      (["work", "b.py"], .file [0])]⟩
    Project.read spec t = .error .nulCharacter ∧ spec.isBad t ["work", "b.py"] = true ∧
      ∃ p notes, Project.read spec (t.without (spec.isBad t)) = .ok (p, notes) ∧
        p.functions.map (·.id) = ["a.f"] := by
  intro spec t
  let p : Project :=
    ⟨[⟨⟨.function, "f", "a.f"⟩, "a.py", ⟨1, 2, by decide, by decide⟩⟩], []⟩
  have hread : Project.read spec (t.without (spec.isBad t)) = .ok (p, [.indexed 1 0]) := by
    decide +kernel
  exact ⟨by decide +kernel, by decide +kernel, p, _, hread, rfl⟩

end BadFiles

end TestImpact
