import TestImpact.Proofs.Source.Functions
import TestImpact.Proofs.Source.Statement

/-
  Definitions as they are written and as they are meant.

  A formed definition, with decorators or without, has the same parts for both
  readers. The outline of the written tree is its own function and the outline
  of the statements in its block (`functions_definitionOutline`), and the meant
  tree has its name, its header and those statements (`ofTree_eq`). What may
  differ is the name, if it is not in composed form, and the lines
  (`WrittenAsMeant`).
-/

namespace TestImpact.Source

def Node.lines? : Node → Option LineRange
  | definition row last _ _ decorators _ _ => some (spanOf row last decorators)
  | _ => none

namespace Tree

mutual

/-- A tree and the trees in it. -/
def subtrees : Tree → List Tree
  | node k l text first last children =>
    node k l text first last children :: subtreesIn children

def subtreesIn : List Tree → List Tree
  | [] => []
  | t :: ts => subtrees t ++ subtreesIn ts

end

/-- Definitions are written as they are meant: their names are in composed form, and their lines
are the rows that they are written in. -/
structure WrittenAsMeant (t : Tree) : Prop where
  names : ∀ u ∈ t.subtrees, u.label = some .name → Node.composedName u.text = u.text
  lines : ∀ u ∈ t.subtrees, isDefinition u.kind = true → (Node.ofTree u).lines? = some u.lines

theorem self_mem_subtrees (t : Tree) : t ∈ t.subtrees := by
  cases t
  exact List.mem_cons_self

theorem subtrees_subset {t u : Tree} (h : u ∈ t.children) : u.subtrees ⊆ t.subtrees := by
  obtain ⟨k, l, text, first, last, children⟩ := t
  have hin : ∀ ts : List Tree, u ∈ ts → u.subtrees ⊆ subtreesIn ts := by
    intro ts hu
    induction ts with
    | nil => cases hu
    | cons t ts ih =>
      rcases List.mem_cons.mp hu with rfl | hu
      · exact List.subset_append_left _ _
      · exact List.Subset.trans (ih hu) (List.subset_append_right _ _)
  exact List.Subset.trans (hin children h) (List.subset_cons_self _ _)

theorem WrittenAsMeant.of_mem {t u : Tree} (h : t.WrittenAsMeant) (hu : u ∈ t.children) :
    u.WrittenAsMeant :=
  ⟨fun v hv => h.names v (subtrees_subset hu hv), fun v hv => h.lines v (subtrees_subset hu hv)⟩

/-! ## Which kinds are definitions -/

theorem isDefinition_of_symbolKind? {k : Kind} {kind : SymbolKind} (h : symbolKind? k = some kind) :
    isDefinition k = true := by
  unfold symbolKind? at h
  split at h
  · rfl
  · rfl
  · cases h

theorem symbolKind?_eq_none {k : Kind} (h : isDefinition k = false) : symbolKind? k = none := by
  unfold symbolKind?
  split
  · cases h
  · cases h
  · rfl

/-! ## How definitions are written -/

section Written

variable {file : String} {scope : List String} {t : Tree} {kind : SymbolKind} {name : Tree}
  {header : List Tree} {block : Tree}

theorem definitionOutline_of_kind (h : isDefinition t.kind = false)
    (outer : Option Tree) : definitionOutline file scope outer t = .empty := by
  obtain ⟨k, l, text, first, last, children⟩ := t
  have hkind : symbolKind? k = none := symbolKind?_eq_none h
  unfold definitionOutline
  split
  · cases h
  · rw [hkind]

theorem bodyOutline_append {rest : List Tree} (h : ∀ u ∈ header, u.IsExpression) :
    bodyOutline file scope (header ++ rest) = bodyOutline file scope rest := by
  induction header with
  | nil => rfl
  | cons u header ih =>
    obtain ⟨hu, hheader⟩ := List.forall_mem_cons.mp h
    rw [List.cons_append, bodyOutline, if_neg (by simp [hu.label]), ih hheader]

theorem decoratedOutline_append {outer : Tree} {decorators rest : List Tree}
    (h : ∀ d ∈ decorators, d.IsExpression) :
    decoratedOutline file scope outer (decorators ++ rest)
      = decoratedOutline file scope outer rest := by
  induction decorators with
  | nil => rfl
  | cons d decorators ih =>
    obtain ⟨hd, hdecorators⟩ := List.forall_mem_cons.mp h
    rw [List.cons_append, decoratedOutline, if_neg (by simp [hd.label]), ih hdecorators]

theorem ofParts_eq {k : Kind} (h : symbolKind? k = some kind) (text : String) (first last : Nat)
    (ns : List (Kind × Node)) : Node.ofParts k text first last ns =
      .definition first last kind ((ns.map Prod.snd).headD (Node.name first "")).nameOf []
        ((ns.map Prod.snd).drop 1).dropLast (ns.map Prod.snd).getLast?.toList := by
  unfold symbolKind? at h
  split at h
  · obtain rfl := Option.some.inj h
    rfl
  · obtain rfl := Option.some.inj h
    rfl
  · cases h

namespace IsDefinitionOf

variable (h : t.IsDefinitionOf kind name header block)
include h

theorem functions_definitionOutline (outer : Option Tree) :
    (definitionOutline file scope outer t).functions =
      Outline.ownFunction kind (Text.dotted (scope ++ [name.text])) (outer.getD t).lines
        ++ (outlineOf file (scope ++ [name.text]) block.children).functions := by
  obtain ⟨k, l, text, first, last, children⟩ := t
  obtain rfl : children = name :: header ++ [block] := h.children
  have hkind : symbolKind? k = some kind := h.kind
  have hname : textOf? .name (name :: header ++ [block]) = some name.text := by
    rw [List.cons_append, textOf?, if_pos h.name_label]
  -- Neither the name nor the header is labelled as a body, so the block is the first that is.
  have hbody : bodyOutline file (scope ++ [name.text]) (name :: header ++ [block])
      = outlineOf file (scope ++ [name.text]) block.children := by
    rw [List.cons_append, bodyOutline, if_neg (by simp [h.name_label]),
      bodyOutline_append h.header, bodyOutline, if_pos h.block_label]
    cases block
    rfl
  unfold definitionOutline
  split
  · cases hkind
  · rw [hkind, hname, ← hbody]
    exact (Outline.functions_append _ _).trans
      (congrArg (· ++ _) (Outline.functions_singleton _ _))

theorem ofTree_eq : Node.ofTree t = .definition t.first t.last kind (Node.composedName name.text)
    [] (header.map Node.ofTree) [.other block.first (block.children.map Node.ofTree)] := by
  obtain ⟨k, l, text, first, last, children⟩ := t
  obtain rfl : children = name :: header ++ [block] := h.children
  have hname : (Node.ofTree name).nameOf = Node.composedName name.text := by
    have hkind := h.name_kind
    cases name
    obtain rfl := hkind
    rfl
  have hblock : Node.ofTree block = .other block.first (block.children.map Node.ofTree) := by
    have hkind := h.block_kind
    cases block
    obtain rfl := hkind
    simp [Node.ofTree, Node.ofTrees_eq_map, Node.ofParts, Tree.first, Tree.children]
  have hnodes : (Node.ofTrees (name :: header ++ [block])).map Prod.snd
      = Node.ofTree name :: header.map Node.ofTree ++ [Node.ofTree block] := by
    simp [Node.ofTrees_eq_map]
  have hkind : symbolKind? k = some kind := h.kind
  rw [Node.ofTree, ofParts_eq hkind, hnodes, List.getLast?_concat]
  simp [hname, hblock, Tree.first, Tree.last]

theorem composedName_eq (hwritten : t.WrittenAsMeant) :
    Node.composedName name.text = name.text := by
  have hmem : name ∈ t.subtrees :=
    subtrees_subset (by simp [h.children]) (self_mem_subtrees name)
  exact hwritten.names name hmem h.name_label

theorem written_of_mem (hwritten : t.WrittenAsMeant) {u : Tree} (hu : u ∈ block.children) :
    u.WrittenAsMeant :=
  (hwritten.of_mem (by simp [h.children])).of_mem hu

end IsDefinitionOf

theorem ofTree_decorated {definition : Tree} {decorators : List Tree}
    (hkind : t.kind = .decoratedDefinition) (hchildren : t.children = decorators ++ [definition]) :
    Node.ofTree t = Node.decorate (decorators.map Node.ofTree) (Node.ofTree definition) := by
  obtain ⟨k, l, text, first, last, children⟩ := t
  obtain rfl : children = decorators ++ [definition] := hchildren
  obtain rfl : k = .decoratedDefinition := hkind
  have hnodes : (Node.ofTrees (decorators ++ [definition])).map Prod.snd
      = decorators.map Node.ofTree ++ [Node.ofTree definition] := by
    simp [Node.ofTrees_eq_map]
  rw [Node.ofTree, Node.ofParts, hnodes, List.getLast?_concat, List.dropLast_concat]

theorem definitionOutline_decorated {definition : Tree} {decorators : List Tree}
    (hkind : t.kind = .decoratedDefinition) (hchildren : t.children = decorators ++ [definition])
    (hdecorators : ∀ d ∈ decorators, d.IsExpression)
    (hlabel : definition.label = some .definition) :
    definitionOutline file scope none t = definitionOutline file scope (some t) definition := by
  obtain ⟨k, l, text, first, last, children⟩ := t
  obtain rfl : children = decorators ++ [definition] := hchildren
  obtain rfl : k = .decoratedDefinition := hkind
  rw [definitionOutline]
  simp only [Option.isSome_none, Bool.false_eq_true, if_false]
  rw [decoratedOutline_append hdecorators, decoratedOutline, if_pos hlabel]

end Written

end Tree

end TestImpact.Source
