import TestImpact.Proofs.Resolution

/-
  The candidates of a call of a single name.

  A call `n()` may mean every declared function with the simple name `n`, and
  the constructor of every class with it (`IsCandidate`). The rules are tried
  in an order, though, and the name of a class is looked up before the names of
  functions: the constructors are always given, but as soon as any class of the
  project is called `n`, no function called `n` is given any more, even if that
  class has no constructor.

  `edges_single_name` says this, and with it when no candidate is dropped;
  `class_hides_function` is the smallest case in which one is.
-/

namespace TestImpact

namespace Declared

open TestImpact.Text

/-- The name is the simple name of a class. -/
def IsClassName (d : Declared) (name : String) : Prop :=
  ∃ k ∈ d.ids .classDef, simpleName k = name

/-- The function would be the constructor of a class with this simple name. -/
def IsConstructorOf (d : Declared) (name q : String) : Prop :=
  ∃ k ∈ d.ids .classDef, simpleName k = name ∧ q = k ++ ".__init__"

/-- A declared function that a call of the name may mean. -/
def IsCandidate (d : Declared) (name q : String) : Prop :=
  q ∈ d.functions ∧ (simpleName q = name ∨ IsConstructorOf d name q)

section Single

variable {d : Declared} {caller name : String}

/-- To have the last component of a single name is to have it as simple name. -/
theorem getLast?_eq_iff_of_single (hsingle : '.' ∉ name.toList) {q : String} :
    (components q).getLast? = (components name).getLast? ↔ simpleName q = name := by
  rw [getLast?_components, getLast?_components, Option.some.injEq, simpleName_of_not_mem hsingle]

theorem isNamedClass_iff_of_single (hsingle : '.' ∉ name.toList) {k : String} :
    IsNamedClass (d.ids .classDef) name k ↔ k ∈ d.ids .classDef ∧ simpleName k = name := by
  rw [IsNamedClass, getLast?_eq_iff_of_single hsingle]

theorem isConstructor_iff_of_single (hsingle : '.' ∉ name.toList) {q : String} :
    IsConstructor (d.ids .classDef) name q ↔ IsConstructorOf d name q := by
  simp only [IsConstructor, IsConstructorOf, isNamedClass_iff_of_single hsingle, and_assoc]

theorem isNamesake_iff_of_single (hsingle : '.' ∉ name.toList) {q : String} :
    IsNamesake (d.ids .classDef) name q ↔ ¬IsClassName d name ∧ simpleName q = name := by
  have hlength : (components name).length = 1 := by
    rw [components_of_not_mem hsingle]
    rfl
  simp only [IsNamesake, IsClassName, isNamedClass_iff_of_single hsingle,
    getLast?_eq_iff_of_single hsingle, hlength, true_and]

theorem IsConstructorOf.isClassName {q : String} (h : IsConstructorOf d name q) :
    IsClassName d name := by
  obtain ⟨k, hk, hname, -⟩ := h
  exact ⟨k, hk, hname⟩

/-- A single name is no method of `self` and no ending of a dotted name: its constructors are
looked up at once, and the functions with the name only if no class has it. -/
theorem mem_resolve_single (h : d.WellNamed) (hsingle : '.' ∉ name.toList)
    (hwhole : name ∉ d.functions) {q : String} :
    q ∈ d.resolve caller name ↔
      q ∈ d.functions ∧
        (IsConstructorOf d name q ∨ ¬IsClassName d name ∧ simpleName q = name) := by
  have hown : d.ownMethod? caller name = none := by
    rw [ownMethod?, components_of_not_mem hsingle]
  have hdot : name.toList.contains '.' = false := by simpa using hsingle
  have hconstructor : ∀ f, f ∈ d.constructors (simpleName name) ↔
      f ∈ d.functions ∧ IsConstructorOf d name f := by
    intro f
    rw [mem_constructors h, isConstructor_iff_of_single hsingle]
  have hnamesake := (mem_namesakes h).trans
    (and_congr_right' (isNamesake_iff_of_single (d := d) (q := q) hsingle))
  rw [hdot, Bool.not_false, Bool.true_and] at hnamesake
  rw [resolve, if_neg (isFunction_iff.not.mpr hwhole), hown]
  simp only [hdot, Bool.false_eq_true, if_false, List.isEmpty_nil, Bool.not_true, Bool.not_false,
    Bool.true_and]
  rw [mem_ascending_or, mem_ascending_unless, hnamesake, hconstructor]
  split
  · rename_i hnil
    have hnone : ¬(q ∈ d.functions ∧ IsConstructorOf d name q) := by
      rw [← hconstructor, hnil]
      exact List.not_mem_nil
    tauto
  · rename_i hne
    -- Some class has the name, or there would be no constructor.
    obtain ⟨f, hf⟩ := List.exists_mem_of_ne_nil _ hne
    have hclass : IsClassName d name := ((hconstructor f).mp hf).2.isClassName
    tauto

theorem mem_edges_singleton {q : String} :
    ⟨caller, q⟩ ∈ d.edges [⟨caller, name⟩] ↔ q ∈ d.resolve caller name := by
  simp [mem_edges]

end Single

/-- **What a call of a single name is linked to**: the constructors of all classes with the name,
and the functions with the name if no class has it. So no candidate is dropped if and only if no
class hides a function, and what one call is linked to stays when there are more calls. -/
theorem edges_single_name {d : Declared} (h : d.WellNamed) {name : String}
    (hsingle : '.' ∉ name.toList) (hwhole : name ∉ d.functions) (caller : String) :
    (∀ q, ⟨caller, q⟩ ∈ d.edges [⟨caller, name⟩] ↔
      q ∈ d.functions ∧
        (IsConstructorOf d name q ∨ ¬IsClassName d name ∧ simpleName q = name)) ∧
    ((∀ q, IsCandidate d name q → ⟨caller, q⟩ ∈ d.edges [⟨caller, name⟩]) ↔
      (IsClassName d name →
        ∀ q ∈ d.functions, simpleName q = name → IsConstructorOf d name q)) ∧
    ∀ calls, ⟨caller, name⟩ ∈ calls → ∀ q, ⟨caller, q⟩ ∈ d.edges [⟨caller, name⟩] →
      ⟨caller, q⟩ ∈ d.edges calls := by
  have hlinked : ∀ q, ⟨caller, q⟩ ∈ d.edges [⟨caller, name⟩] ↔ q ∈ d.functions ∧
      (IsConstructorOf d name q ∨ ¬IsClassName d name ∧ simpleName q = name) := by
    intro q
    rw [mem_edges_singleton, mem_resolve_single h hsingle hwhole]
  refine ⟨hlinked, ⟨fun hall hclass q hq hname => ?_, fun hshown q hgiven => ?_⟩,
    fun calls hcall q hq => ?_⟩
  · obtain ⟨-, hconstructor | ⟨hnone, -⟩⟩ := (hlinked q).mp (hall q ⟨hq, .inl hname⟩)
    · exact hconstructor
    · exact absurd hclass hnone
  · obtain ⟨hq, hname | hconstructor⟩ := hgiven
    · refine (hlinked q).mpr ⟨hq, ?_⟩
      by_cases hclass : IsClassName d name
      · exact .inl (hshown hclass q hq hname)
      · exact .inr ⟨hclass, hname⟩
    · exact (hlinked q).mpr ⟨hq, .inl hconstructor⟩
  · exact mem_edges.mpr ⟨⟨caller, name⟩, hcall, rfl, mem_edges_singleton.mp hq⟩

/-- A class and a function of one name: the call is linked to the constructor, and the function in
the caller's own module is dropped. -/
theorem edges_single_name_box :
    let d : Declared := ⟨[⟨.classDef, "Box", "a.Box"⟩, ⟨.function, "__init__", "a.Box.__init__"⟩,
      ⟨.function, "Box", "b.Box"⟩, ⟨.function, "main", "b.main"⟩]⟩
    d.WellNamed ∧ '.' ∉ "Box".toList ∧ "Box" ∉ d.functions ∧
      ⟨"b.main", "a.Box.__init__"⟩ ∈ d.edges [⟨"b.main", "Box"⟩, ⟨"b.main", "print"⟩] ∧
      ¬∀ q, IsCandidate d "Box" q → ⟨"b.main", q⟩ ∈ d.edges [⟨"b.main", "Box"⟩] := by
  intro d
  have hnamed : d.WellNamed := by
    intro s hs
    obtain rfl | rfl | rfl | rfl : s = ⟨.classDef, "Box", "a.Box"⟩ ∨
        s = ⟨.function, "__init__", "a.Box.__init__"⟩ ∨ s = ⟨.function, "Box", "b.Box"⟩ ∨
        s = ⟨.function, "main", "b.main"⟩ := by simpa [d] using hs
    all_goals decide
  have hsingle : '.' ∉ "Box".toList := by decide
  have hwhole : "Box" ∉ d.functions := by decide
  have hclass : "a.Box" ∈ d.ids .classDef := by decide
  have hname : simpleName "a.Box" = "Box" := by decide
  obtain ⟨hlinked, hall, hmore⟩ := edges_single_name hnamed hsingle hwhole "b.main"
  refine ⟨hnamed, hsingle, hwhole, ?_, fun hgiven => ?_⟩
  · refine hmore _ List.mem_cons_self _ ((hlinked _).mpr ⟨by decide, .inl ?_⟩)
    exact ⟨"a.Box", hclass, hname, by decide⟩
  · have hb := hall.mp hgiven ⟨"a.Box", hclass, hname⟩ "b.Box" (by decide) (by decide)
    obtain ⟨k, hk, -, hq⟩ := hb
    obtain rfl : k = "a.Box" := by simpa [d, ids] using hk
    revert hq
    decide

/-- A class without a constructor hides the function: a call of `run` in the module of the
function `run` is linked to nothing. -/
theorem class_hides_function :
    let d : Declared := ⟨[⟨.classDef, "run", "a.run"⟩, ⟨.function, "run", "b.run"⟩,
      ⟨.function, "main", "b.main"⟩]⟩
    d.WellNamed ∧ '.' ∉ "run".toList ∧ "run" ∉ d.functions ∧
      "b.run" ∈ d.functions ∧ simpleName "b.run" = "run" ∧
      ⟨"b.main", "b.run"⟩ ∉ d.edges [⟨"b.main", "run"⟩] := by
  intro d
  refine ⟨fun s hs => ?_, by decide, by decide, by decide, by decide, by decide +kernel⟩
  obtain rfl | rfl | rfl : s = ⟨.classDef, "run", "a.run"⟩ ∨ s = ⟨.function, "run", "b.run"⟩ ∨
      s = ⟨.function, "main", "b.main"⟩ := by simpa [d] using hs
  all_goals decide

end Declared

end TestImpact
