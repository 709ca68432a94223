import TestImpact.Proofs.Project.BadFiles
import TestImpact.Proofs.Source.Nesting

/-
  Modules and functions that have one name.

  A source file below a root is told by the directories on the way to it and by
  its own name without the ending. If these are identifiers (`ModulePath`), its
  module is called by them, but `__init__` behind a directory is not mentioned
  (`moduleName_below`).

    1. Two files hold modules of one name if and only if they are the same file,
       or `d.py` and `d/__init__.py`, where the first one keeps its last name
       (`names_eq_iff`).
    2. What a file defines is called by the name of its module, a dot and the name
       that it has inside the module (`exists_defines`).
    3. Where the name of the module ends cannot be seen. Two definitions share a
       name also if the module of the first one is above that of the second one,
       and the first one stands in definitions that are called like the modules
       between (`ids_eq_iff`).
-/

namespace TestImpact

theorem Path.withoutEnding_append {stem : String} (h : stem ≠ "") :
    withoutEnding (stem ++ ".py") = stem := by
  have hchars : stem.toList ≠ [] := fun hnil => h (String.toList_eq_nil_iff.mp hnil)
  have hcut : Text.splitAtLastDot (stem ++ ".py").toList = some (stem.toList, ['p', 'y']) := by
    rw [String.toList_append]
    exact Text.splitAtLastDot_append (by decide)
  rw [withoutEnding, hcut]
  simp [hchars]

/-- A source file as it is seen from a root: the directories on the way to it and its name without
the ending, all of them identifiers. -/
@[ext]
structure ModulePath where
  directories : List String
  stem : String
  identifiers : ∀ n ∈ directories ++ [stem], Text.isIdentifier n.toList = true

namespace ModulePath

variable (f g : ModulePath) (root : Path)

def below : Path := ⟨root.root, root.names ++ (f.directories ++ [f.stem ++ ".py"])⟩

/-- The file stands for its directory. -/
def IsInit : Prop := f.stem = "__init__" ∧ f.directories ≠ []

instance : Decidable f.IsInit :=
  inferInstanceAs (Decidable (f.stem = "__init__" ∧ f.directories ≠ []))

/-- The files are `d.py` and `d/__init__.py`, in this order. -/
def IsBeside : Prop := g.directories = f.directories ++ [f.stem] ∧ g.stem = "__init__"

def names : List String := if f.IsInit then f.directories else f.directories ++ [f.stem]

variable {f g root}

theorem isComponent_of_mem {n : String} (h : n ∈ f.directories ++ [f.stem]) : Text.IsComponent n :=
  Text.isComponent_of_isIdentifier (f.identifiers n h)

theorem isComponent_of_mem_names {n : String} (h : n ∈ f.names) : Text.IsComponent n := by
  unfold names at h
  split at h
  · exact isComponent_of_mem (List.mem_append_left _ h)
  · exact isComponent_of_mem h

theorem names_ne_nil : f.names ≠ [] := by
  unfold names
  split
  · next h => exact h.2
  · exact List.append_ne_nil_of_right_ne_nil _ (List.cons_ne_nil _ _)

/-! ## The name of the module -/

theorem moduleName_below : moduleName (f.below root) root = .ok (Text.dotted f.names) := by
  have hrelative : (f.below root).relativeTo root
      = .ok ⟨"", f.directories ++ [f.stem ++ ".py"]⟩ := Path.relativeTo_of_names rfl rfl
  have hstem : f.stem ≠ "" := (f.isComponent_of_mem List.mem_concat_self).1
  have hinit : (1 < (f.directories ++ [f.stem]).length ∧
      (f.directories ++ [f.stem]).getLast? = some "__init__") ↔ f.IsInit := by
    simp [IsInit, List.length_pos_iff, and_comm]
  have hnames : (if 1 < (f.directories ++ [f.stem]).length ∧
      (f.directories ++ [f.stem]).getLast? = some "__init__"
      then (f.directories ++ [f.stem]).dropLast else f.directories ++ [f.stem]) = f.names := by
    rw [names, if_congr hinit List.dropLast_concat rfl]
  simp only [moduleName, hrelative, bind, Except.bind, Path.withoutSuffix_concat,
    Path.withoutEnding_append hstem]
  exact congrArg (fun names => Except.ok (Text.dotted names)) hnames

theorem names_eq_iff :
    f.names = g.names ↔ f = g ∨ f.IsBeside g ∧ ¬f.IsInit ∨ g.IsBeside f ∧ ¬g.IsInit := by
  -- What stands beside another file stands for its directory.
  have hbeside : ∀ {f g : ModulePath}, f.IsBeside g → g.IsInit := by
    intro f g h
    exact ⟨h.2, h.1 ▸ List.append_ne_nil_of_right_ne_nil _ (List.cons_ne_nil _ _)⟩
  constructor
  · intro h
    unfold names at h
    split at h
    · next hf =>
      split at h
      · next hg => exact .inl (ModulePath.ext h (hf.1.trans hg.1.symm))
      · next hg => exact .inr (.inr ⟨⟨h, hf.1⟩, hg⟩)
    · next hf =>
      split at h
      · next hg => exact .inr (.inl ⟨⟨h.symm, hg.1⟩, hf⟩)
      · obtain ⟨hdirectories, hstem⟩ := List.append_inj' h rfl
        exact .inl (ModulePath.ext hdirectories (List.singleton_inj.mp hstem))
  · rintro (rfl | ⟨hfg, hf⟩ | ⟨hgf, hg⟩)
    · rfl
    · rw [names, names, if_neg hf, if_pos (hbeside hfg), hfg.1]
    · rw [names, names, if_pos (hbeside hgf), if_neg hg, hgf.1]

theorem components_names : Text.components (Text.dotted f.names) = f.names :=
  Text.components_of_forall names_ne_nil fun _ => isComponent_of_mem_names

theorem dotted_names_eq_iff : Text.dotted f.names = Text.dotted g.names ↔ f.names = g.names := by
  rw [← Text.components_inj, components_names, components_names]

theorem dotted_names_ne_empty : Text.dotted f.names ≠ "" :=
  Text.dotted_ne_empty names_ne_nil fun _ hn => (isComponent_of_mem_names hn).1

end ModulePath

/-! ## The names of what a module defines -/

namespace Source

/-- The names of the definitions around a definition, outermost first. -/
inductive Parsed.Around : Parsed → Position → List String → Prop
  | strict {n : Node} {p : Position} : Around (.strict n) p (n.namesAround p)
  | tolerant {t : Tree} {names : List String} {p : Position} {d : Tree.Definition} :
    t.Finds names p d → Around (.tolerant t) (p ++ d.position) names

/-- What is declared is called by the module, the definitions around it, and its own name. -/
theorem Parsed.Declares.qualname_eq {x : Parsed} {moduleName file : String}
    {s : Found Declaration} (h : x.Declares moduleName file s) (hmodule : moduleName ≠ "") :
    ∃ names, x.Around s.position names ∧
      s.value.qualname = moduleName ++ "." ++ Text.dotted (names ++ [s.value.name]) := by
  have hscope : moduleScope moduleName = [moduleName] := by simp [moduleScope, hmodule]
  have hqualname : ∀ names name, Text.dotted (moduleScope moduleName ++ names ++ [name])
      = moduleName ++ "." ++ Text.dotted (names ++ [name]) := by
    intro names name
    rw [hscope, List.append_assoc]
    exact Text.joined_append (List.cons_ne_nil _ _)
      (List.append_ne_nil_of_right_ne_nil _ (List.cons_ne_nil _ _))
  cases x with
  | strict n =>
    obtain ⟨m, -, hd⟩ := Option.bind_eq_some_iff.mp h
    cases m with
    | definition row last kind id decorators header body =>
      refine ⟨n.namesAround s.position, .strict, ?_⟩
      rw [← Option.some.inj hd]
      exact hqualname _ _
    | _ => cases hd
  | tolerant t =>
    obtain ⟨names, p, d, _, hd, rfl, rfl⟩ := h
    exact ⟨names, .tolerant hd, hqualname _ _⟩

/-- The tree that a reader makes of a text, if it can. -/
def Parsed.ofText? (backend : Backend) (text : List Char) : Option Parsed :=
  match backend with
  | .ast => (Tree.ofText? .strict text).map fun t => .strict (Node.ofTree t)
  | .treeSitter => (Tree.ofText? .tolerant text).map .tolerant

theorem outline_of_read {backend : Backend} {text : List Char} {moduleName file : String}
    {o : Outline} {notes : List Note} (h : read backend text moduleName file = .ok (o, notes)) :
    o = .empty ∨ ∃ x, Parsed.ofText? backend text = some x ∧ o = x.outline moduleName file := by
  cases backend with
  | ast =>
    simp only [read, readStrict] at h
    split at h
    · cases h
    · split at h
      · exact .inl (Prod.mk.inj (Except.ok.inj h)).1.symm
      · rename_i tree hparsed
        refine .inr ⟨.strict (Node.ofTree tree), ?_, (Prod.mk.inj (Except.ok.inj h)).1.symm⟩
        rw [Parsed.ofText?, hparsed, Option.map_some]
  | treeSitter =>
    simp only [read, readTolerant] at h
    split at h
    · exact .inl (Prod.mk.inj (Except.ok.inj h)).1.symm
    · rename_i tree hparsed
      refine .inr ⟨.tolerant tree, ?_, (Prod.mk.inj (Except.ok.inj h)).1.symm⟩
      rw [Parsed.ofText?, hparsed, Option.map_some]

theorem exists_declares_of_read {backend : Backend} {text : List Char} {moduleName file : String}
    {o : Outline} {notes : List Note} (h : read backend text moduleName file = .ok (o, notes))
    {d : Declaration} (hd : d ∈ o.declarations) :
    ∃ x p, Parsed.ofText? backend text = some x ∧ x.Declares moduleName file ⟨p, d⟩ := by
  rcases outline_of_read h with rfl | ⟨x, hx, rfl⟩
  · cases hd
  · obtain ⟨found, -, hfound, hlist⟩ := x.enumerates_declares moduleName file
    obtain ⟨s, hs, rfl⟩ := List.mem_map.mp (hlist ▸ hd)
    exact ⟨x, s.position, hx, (hfound s).mp hs⟩

end Source

namespace ProjectSpec

variable {spec : ProjectSpec} {t : FileTree} {file : SourceFile} {o : Source.Outline}
  {notes : List Note} {d : Source.Declaration} {name : String}

/-- In the tree of a file, a declaration has a name inside the module: the names of the definitions
around it and its own, with dots between. -/
def Defines (spec : ProjectSpec) (t : FileTree) (file : SourceFile) (name : String)
    (d : Source.Declaration) (inner : String) : Prop :=
  ∃ text x p names, t.sourceText? file.path.names = some text ∧
    Source.Parsed.ofText? spec.backend text = some x ∧
    x.Declares name (fileKey spec.repository file) ⟨p, d⟩ ∧ x.Around p names ∧
    inner = Text.dotted (names ++ [d.name])

/-- Whatever is read from a file is called by the name of the module and its name inside. -/
theorem exists_defines (hname : moduleName file.path file.root = .ok name) (hne : name ≠ "")
    (h : spec.readFile t file = .ok (o, notes)) (hd : d ∈ o.declarations) :
    ∃ inner, spec.Defines t file name d inner ∧ d.qualname = name ++ "." ++ inner := by
  unfold readFile at h
  split at h
  · obtain ⟨rfl, -⟩ : Source.Outline.empty = o ∧ _ := by simpa using h
    cases hd
  · rename_i bytes hbytes
    rw [hname] at h
    obtain ⟨x, p, hx, hdeclares⟩ := Source.exists_declares_of_read h hd
    obtain ⟨names, haround, hqualname⟩ := hdeclares.qualname_eq hne
    have htext : t.sourceText? file.path.names
        = some (Text.unifyLineEnds (Text.decodeDropping bytes)) := by
      rw [FileTree.sourceText?, hbytes, Option.map_some]
    exact ⟨_, ⟨_, x, p, names, htext, hx, hdeclares, haround, rfl⟩, hqualname⟩

end ProjectSpec

/-- **Which functions of two files have one name.** Two files below a root hold modules of one name
if and only if they are the same file, or one is `d.py` and the other `d/__init__.py`, and `d.py`
does not stand for its directory itself. What is defined in them has one name if and only if the
modules have one name and the names inside them are the same, or the module of the one is above that
of the other and the first definition is called, inside its module, by what is between the modules,
a dot, and the name of the second one inside its own. -/
theorem ids_eq_iff (root : Path) (f g : ModulePath) :
    ∃ m n : String, moduleName (f.below root) root = .ok m ∧
      moduleName (g.below root) root = .ok n ∧
      (m = n ↔ f = g ∨ f.IsBeside g ∧ ¬f.IsInit ∨ g.IsBeside f ∧ ¬g.IsInit) ∧
      ∀ (spec : ProjectSpec) (t : FileTree) (o o' : Source.Outline) (notes notes' : List Note),
        spec.readFile t ⟨f.below root, root⟩ = .ok (o, notes) →
        spec.readFile t ⟨g.below root, root⟩ = .ok (o', notes') →
        ∀ d ∈ o.declarations, ∀ d' ∈ o'.declarations, ∃ a b : String,
          spec.Defines t ⟨f.below root, root⟩ m d a ∧
          spec.Defines t ⟨g.below root, root⟩ n d' b ∧
          (d.qualname = d'.qualname ↔ m = n ∧ a = b ∨
            (∃ e, n = m ++ "." ++ e ∧ a = e ++ "." ++ b) ∨
            ∃ e, m = n ++ "." ++ e ∧ b = e ++ "." ++ a) := by
  refine ⟨Text.dotted f.names, Text.dotted g.names, f.moduleName_below, g.moduleName_below,
    ModulePath.dotted_names_eq_iff.trans ModulePath.names_eq_iff, ?_⟩
  intro spec t o o' notes notes' h h' d hd d' hd'
  obtain ⟨a, hdefines, hqualname⟩ :=
    ProjectSpec.exists_defines f.moduleName_below f.dotted_names_ne_empty h hd
  obtain ⟨b, hdefines', hqualname'⟩ :=
    ProjectSpec.exists_defines g.moduleName_below g.dotted_names_ne_empty h' hd'
  refine ⟨a, b, hdefines, hdefines', ?_⟩
  rw [hqualname, hqualname']
  exact Text.append_dot_eq_iff

/-- The modules in `d.py` and in `d/__init__.py` have one name, so what they define is told apart by
the names inside them. -/
theorem ids_eq_iff_beside :
    let root : Path := ⟨"/", ["work"]⟩
    let f : ModulePath := ⟨[], "d", by decide +kernel⟩
    let g : ModulePath := ⟨["d"], "__init__", by decide +kernel⟩
    let spec : ProjectSpec := ⟨.treeSitter, root, [root]⟩
    let t : FileTree := ⟨["work"],
      [(["work", "d.py"], .file (Text.encode "def f():\n    pass\n")),
        (["work", "d", "__init__.py"], .file (Text.encode "class c:\n    def f(self): pass\n"))]⟩
    ∃ m o o', moduleName (f.below root) root = .ok m ∧ moduleName (g.below root) root = .ok m ∧
      spec.readFile t ⟨f.below root, root⟩ = .ok (o, []) ∧
      spec.readFile t ⟨g.below root, root⟩ = .ok (o', []) ∧
      ∃ d ∈ o.declarations, ∃ d' ∈ o'.declarations, ∃ a b,
        spec.Defines t ⟨f.below root, root⟩ m d a ∧ spec.Defines t ⟨g.below root, root⟩ m d' b ∧
        d.qualname ≠ d'.qualname ∧ a ≠ b := by
  intro root f g spec t
  let d : Source.Declaration := ⟨⟨.function, "f", "d.f"⟩, "d.py", ⟨1, 2, by decide, by decide⟩⟩
  let c : Source.Declaration :=
    ⟨⟨.classDef, "c", "d.c"⟩, "d/__init__.py", ⟨1, 2, by decide, by decide⟩⟩
  let d' : Source.Declaration :=
    ⟨⟨.function, "f", "d.c.f"⟩, "d/__init__.py", ⟨2, 2, by decide, by decide⟩⟩
  have h : spec.readFile t ⟨f.below root, root⟩ = .ok (⟨[d], []⟩, []) := by decide +kernel
  have h' : spec.readFile t ⟨g.below root, root⟩ = .ok (⟨[c, d'], []⟩, []) := by decide +kernel
  obtain ⟨m, n, hm, hn, hmodules, hids⟩ := ids_eq_iff root f g
  obtain rfl : m = n := hmodules.mpr (.inr (.inl ⟨⟨rfl, rfl⟩, fun hinit => hinit.2 rfl⟩))
  obtain ⟨a, b, hdefines, hdefines', hiff⟩ :=
    hids spec t _ _ _ _ h h' d (by simp) d' (by simp)
  have hne : d.qualname ≠ d'.qualname := by decide
  exact ⟨m, _, _, hm, hn, h, h', d, by simp, d', by simp, a, b, hdefines, hdefines', hne,
    fun hab => hne (hiff.mpr (.inl ⟨rfl, hab⟩))⟩

/-- A method of a class in a package is called like a function of a module of the package, if the
class is called like the module. -/
theorem ids_eq_package :
    let root : Path := ⟨"/", ["work"]⟩
    let f : ModulePath := ⟨["a"], "__init__", by decide +kernel⟩
    let g : ModulePath := ⟨["a"], "b", by decide +kernel⟩
    let spec : ProjectSpec := ⟨.ast, root, [root]⟩
    let t : FileTree := ⟨["work"],
      [(["work", "a", "__init__.py"],
          .file (Text.encode "class b:\n    def f(self):\n        pass\n")),
        (["work", "a", "b.py"], .file (Text.encode "def f():\n    pass\n"))]⟩
    moduleName (f.below root) root = .ok "a" ∧ moduleName (g.below root) root = .ok "a.b" ∧
      ∃ p notes, Project.read spec t = .ok (p, notes) ∧
        ∃ decl ∈ p.functions, ∃ decl' ∈ p.functions, decl.file = "a/__init__.py" ∧
          decl'.file = "a/b.py" ∧ decl.id = decl'.id := by
  intro root f g spec t
  let p : Project := ⟨[⟨⟨.classDef, "b", "a.b"⟩, "a/__init__.py", ⟨1, 3, by decide, by decide⟩⟩,
      ⟨⟨.function, "f", "a.b.f"⟩, "a/__init__.py", ⟨2, 3, by decide, by decide⟩⟩,
      ⟨⟨.function, "f", "a.b.f"⟩, "a/b.py", ⟨1, 2, by decide, by decide⟩⟩], []⟩
  have hread : Project.read spec t = .ok (p, [.indexed 2 0]) := by decide +kernel
  refine ⟨by decide +kernel, by decide +kernel, p, _, hread, ?_⟩
  exact ⟨⟨"a.b.f", "a/__init__.py", ⟨2, 3, by decide, by decide⟩⟩, by decide +kernel,
    ⟨"a.b.f", "a/b.py", ⟨1, 2, by decide, by decide⟩⟩, by decide +kernel, rfl, rfl, rfl⟩

end TestImpact
