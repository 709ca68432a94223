import TestImpact.Source.Backend

/-
  Who calls.

  An outline is closed if every call in it is made by a function that it
  declares (`Outline.Closed`). Both readers give closed outlines: a call is
  taken together with the function around it, whatever the text is.
-/

namespace TestImpact.Source

namespace Outline

/-- Every call is made by a declared function. -/
def Closed (o : Outline) : Prop :=
  ∀ c ∈ o.calls, ∃ d ∈ o.declarations, d.kind = .function ∧ d.qualname = c.caller

theorem declarations_append (a b : Outline) :
    (a ++ b).declarations = a.declarations ++ b.declarations := rfl

theorem calls_append (a b : Outline) : (a ++ b).calls = a.calls ++ b.calls := rfl

theorem closed_empty : Closed .empty := by
  intro c hc
  exact absurd hc List.not_mem_nil

theorem Closed.append {a b : Outline} (ha : a.Closed) (hb : b.Closed) : (a ++ b).Closed := by
  intro c hc
  rw [calls_append, List.mem_append] at hc
  rw [declarations_append]
  rcases hc with hc | hc
  · obtain ⟨d, hd, hcaller⟩ := ha c hc
    exact ⟨d, List.mem_append_left _ hd, hcaller⟩
  · obtain ⟨d, hd, hcaller⟩ := hb c hc
    exact ⟨d, List.mem_append_right _ hd, hcaller⟩

theorem closed_singleton (d : Declaration) (targets : List String) :
    Closed ⟨[d], match d.kind with
      | .function => targets.map fun t => ⟨d.qualname, t⟩
      | .classDef => []⟩ := by
  intro c hc
  cases hkind : d.kind with
  | function =>
    simp only [hkind, List.mem_map] at hc
    obtain ⟨t, -, rfl⟩ := hc
    exact ⟨d, List.mem_singleton_self d, hkind, rfl⟩
  | classDef => simp [hkind] at hc

end Outline

namespace Node

mutual

theorem closed_outline (file : String) (scope : List String) :
    ∀ n : Node, (outline file scope n).Closed
  | .name _ _ => Outline.closed_empty
  | .member _ value _ => closed_outline file scope value
  | .call _ callee arguments =>
    (closed_outline file scope callee).append (closed_allOutlines file scope arguments)
  | .definition row last kind id decorators header body =>
    have hown := Outline.closed_singleton
      ⟨⟨kind, id, Text.dotted (scope ++ [id])⟩, file, spanOf row last decorators⟩
      (allCalls decorators ++ allCalls body)
    ((hown.append (closed_allOutlines file (scope ++ [id]) header)).append
      (closed_allOutlines file (scope ++ [id]) body)).append
      (closed_allOutlines file (scope ++ [id]) decorators)
  | .other _ ps => closed_allOutlines file scope ps

theorem closed_allOutlines (file : String) (scope : List String) :
    ∀ ns : List Node, (allOutlines file scope ns).Closed
  | [] => Outline.closed_empty
  | n :: ns => (closed_outline file scope n).append (closed_allOutlines file scope ns)

end

end Node

namespace Tree

theorem closed_ownOutline (file : String) (scope : List String) (kind : SymbolKind)
    (name : String) (outer : Tree) (body : Option Tree) :
    (ownOutline file scope kind name outer body).Closed :=
  Outline.closed_singleton ⟨⟨kind, name, Text.dotted (scope ++ [name])⟩, file, outer.lines⟩
    ((if outer.kind = .decoratedDefinition then decoratorCalls outer.children else [])
      ++ (body.map calls).getD [])

mutual

theorem closed_definitionOutline (file : String) (scope : List String) :
    ∀ (outer : Option Tree) (t : Tree), (definitionOutline file scope outer t).Closed
  | outer, .node k l text first last children => by
    unfold definitionOutline
    split
    · split
      · exact Outline.closed_empty
      · exact closed_decoratedOutline file scope _ children
    · split
      · refine Outline.Closed.append ?_ (closed_bodyOutline file _ children)
        exact closed_ownOutline file scope _ _ _ _
      · exact Outline.closed_empty

theorem closed_decoratedOutline (file : String) (scope : List String) (outer : Tree) :
    ∀ ts : List Tree, (decoratedOutline file scope outer ts).Closed
  | [] => Outline.closed_empty
  | t :: ts => by
    unfold decoratedOutline
    split
    · exact closed_definitionOutline file scope (some outer) t
    · exact closed_decoratedOutline file scope outer ts

theorem closed_bodyOutline (file : String) (scope : List String) :
    ∀ ts : List Tree, (bodyOutline file scope ts).Closed
  | [] => Outline.closed_empty
  | t :: ts => by
    unfold bodyOutline
    split
    · exact closed_childrenOutline file scope t
    · exact closed_bodyOutline file scope ts

theorem closed_childrenOutline (file : String) (scope : List String) :
    ∀ t : Tree, (childrenOutline file scope t).Closed
  | .node _ _ _ _ _ children => closed_outlineOf file scope children

theorem closed_outlineOf (file : String) (scope : List String) :
    ∀ ts : List Tree, (outlineOf file scope ts).Closed
  | [] => Outline.closed_empty
  | t :: ts =>
    (closed_definitionOutline file scope none t).append (closed_outlineOf file scope ts)

end

end Tree

theorem closed_read {backend : Backend} {text : List Char} {moduleName file : String}
    {o : Outline} {notes : List Note} (h : read backend text moduleName file = .ok (o, notes)) :
    o.Closed := by
  cases backend with
  | ast =>
    simp only [read, readStrict] at h
    split at h
    · cases h
    · split at h
      · obtain ⟨rfl, -⟩ : Outline.empty = o ∧ _ := by simpa using h
        exact Outline.closed_empty
      · rename_i tree _
        obtain ⟨rfl, -⟩ : (Node.ofTree tree).outline file (moduleScope moduleName) = o ∧ _ := by
          simpa using h
        exact Node.closed_outline file _ _
  | treeSitter =>
    simp only [read, readTolerant] at h
    split at h
    · obtain ⟨rfl, -⟩ : Outline.empty = o ∧ _ := by simpa using h
      exact Outline.closed_empty
    · rename_i tree _
      obtain ⟨rfl, -⟩ : tree.childrenOutline file (moduleScope moduleName) = o ∧ _ := by
        simpa using h
      exact Tree.closed_childrenOutline file _ tree

end TestImpact.Source
