import TestImpact.Source.Node

/-
  A walk over a tree.

  The walk holds the names around the place where it is. A name is put on when
  a definition is entered and taken off when it is left; in between every part
  of the definition is visited. What the walk finds in a tree is the outline of
  the tree under the names that it came with, and it leaves the tree with those
  names (`visit_eq`).
-/

namespace TestImpact.Source

/-- What a walk holds: its file, the names around it, and what it has found so far. -/
structure Visitor where
  file : String
  scope : List String
  found : Outline

namespace Visitor

def start (moduleName file : String) : Visitor := ⟨file, moduleScope moduleName, .empty⟩

def find (v : Visitor) (o : Outline) : Visitor := { v with found := v.found ++ o }

/-- A definition is entered. -/
def enter (v : Visitor) (id : String) : Visitor := { v with scope := v.scope ++ [id] }

def leave (v : Visitor) : Visitor := { v with scope := v.scope.dropLast }

mutual

def visit (v : Visitor) : Node → Visitor
  | .name _ _ => v
  | .member _ value _ => v.visit value
  | .call _ callee arguments => (v.visit callee).visitAll arguments
  | .definition row last kind id decorators header body =>
    let v := v.find (Node.ownOutline v.file v.scope row last kind id decorators body)
    ((((v.enter id).visitAll header).visitAll body).visitAll decorators).leave
  | .other _ ps => v.visitAll ps

def visitAll (v : Visitor) : List Node → Visitor
  | [] => v
  | n :: ns => (v.visit n).visitAll ns

end

theorem find_empty (v : Visitor) : v.find .empty = v :=
  congrArg (mk v.file v.scope) (Outline.append_empty v.found)

theorem find_find (v : Visitor) (a b : Outline) : (v.find a).find b = v.find (a ++ b) :=
  congrArg (mk v.file v.scope) (Outline.append_assoc v.found a b)

theorem leave_find_enter (v : Visitor) (id : String) (o : Outline) :
    ((v.enter id).find o).leave = v.find o :=
  congrArg (mk v.file · (v.found ++ o)) List.dropLast_concat

mutual

/-- A walk over a tree finds its outline, and ends with the names that it began with. -/
theorem visit_eq (v : Visitor) : ∀ n : Node, v.visit n = v.find (n.outline v.file v.scope)
  | .name _ _ => (find_empty v).symm
  | .member _ value _ => visit_eq v value
  | .call _ callee arguments => by
    rw [visit, visit_eq v callee, visitAll_eq, find_find]
    rfl
  | .definition row last kind id decorators header body => by
    rw [visit, visitAll_eq, visitAll_eq, visitAll_eq, find_find, find_find, leave_find_enter,
      find_find, ← Outline.append_assoc, ← Outline.append_assoc]
    rfl
  | .other _ ps => visitAll_eq v ps

theorem visitAll_eq (v : Visitor) :
    ∀ ns : List Node, v.visitAll ns = v.find (Node.allOutlines v.file v.scope ns)
  | [] => (find_empty v).symm
  | n :: ns => by
    rw [visitAll, visit_eq v n, visitAll_eq _ ns, find_find]
    rfl

end

@[simp] theorem found_visit_start (moduleName file : String) (n : Node) :
    ((start moduleName file).visit n).found = n.outline file (moduleScope moduleName) := by
  rw [visit_eq]
  rfl

end Visitor

end TestImpact.Source
