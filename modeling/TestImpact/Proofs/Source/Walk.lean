import TestImpact.Proofs.Source.NodePositions

/-
  What a walk over a tree finds.

  A walk takes the names around it along as it goes, and for each function it
  starts a second walk over the decorators and the body, which stops at
  definitions. What is proved, for every tree:

    1. `visit_declares`: the walk declares what stands at the positions of the
       definitions, each once and in pre-order, under the names of the
       definitions around it; and after any subtree the names around are those
       from before.
    2. `visit_records`: the walk records each call at most once, and exactly
       those with a named target whose innermost definition is a function that
       has them in its decorators or its body. The function is the caller.

  The second walk finds the calls with no definition on the way to them
  (`enumerates_calls`). So what it finds for a function and what is found for
  definitions inside the function are never at the same position, and the two
  can be put together (`enumerates_callSites`).
-/

namespace TestImpact.Source.Node

/-! ## Declarations -/

theorem enumerates_declarations (file : String) (n : Node) (scope : List String) :
    Enumerates Found.Before Found.value (outline file scope n).declarations fun s =>
      n.declarationAt? file scope s.position = some s.value := by
  induction n using forall_of_branches generalizing scope with
  | step n ih =>
    rw [declarations_outline]
    refine Found.enumerates_node (fun b hb => ih b hb (scope ++ n.definedName?.toList)) ?_ ?_
    · intro d
      rw [declarationAt?_nil]
    · intro i p d
      exact declarationAt?_cons

/-! ## The calls that a definition leaves open -/

/-- A named call with no definition on the way to it. -/
def OpenCall (n : Node) (s : Found String) : Prop :=
  n.innermost? s.position = none ∧ (n.at? s.position).bind target? = some s.value

/-- A named call in a part of a node, with no definition on the way to it but the node. -/
def PartCall (n : Node) (part : Part) (s : Found String) : Prop :=
  ∃ (i : Nat) (b : Part × Node) (t : Found String),
    n.branches[i]? = some b ∧ (b.1 = part ∧ b.2.OpenCall t) ∧ t.under i = s

variable {n : Node} {file : String} {scope : List String} {part : Part}

theorem target?_eq_none (h : n.isDefinition = true) : n.target? = none := by
  cases n with
  | definition => rfl
  | _ => cases h

theorem not_openCall (h : n.isDefinition = true) (s : Found String) : ¬n.OpenCall s := by
  obtain ⟨position, t⟩ := s
  rintro ⟨hinnermost, htarget⟩
  cases position with
  | nil =>
    rw [at?, Option.bind_some, target?_eq_none h] at htarget
    cases htarget
  | cons i p =>
    obtain ⟨m, hm, -⟩ := Option.bind_eq_some_iff.mp htarget
    obtain ⟨b, hb, -⟩ := at?_cons.mp hm
    rw [innermost?_cons hb] at hinnermost
    split at hinnermost
    · cases hinnermost
    · rw [if_pos h] at hinnermost
      cases hinnermost

theorem openCall_cons (h : n.isDefinition = false) {i : Nat} {p : Position} {t : String} :
    n.OpenCall ⟨i :: p, t⟩ ↔ ∃ b, n.branches[i]? = some b ∧ b.2.OpenCall ⟨p, t⟩ := by
  simp only [OpenCall, at?]
  cases hb : n.branches[i]? with
  | none => simp
  | some b =>
    rw [innermost?_cons hb, h]
    cases hinner : b.2.innermost? p with
    | none => simp [hinner]
    | some x => simp [hinner]

/-- The second walk finds the calls that it can reach without entering a definition. -/
theorem enumerates_calls (n : Node) :
    Enumerates Found.Before Found.value n.calls n.OpenCall := by
  induction n using forall_of_branches with
  | step n ih =>
    rw [calls_eq]
    cases h : n.isDefinition with
    | true => exact Enumerates.nil.of_iff fun s => iff_of_false id (not_openCall h s)
    | false =>
      refine Found.enumerates_node ih ?_ fun i p t => openCall_cons h
      intro t
      simp [OpenCall, innermost?, at?]

theorem enumerates_partCalls (n : Node) (part : Part) :
    Enumerates Found.Before Found.value (n.partCalls part) (n.PartCall part) := by
  have hbranch : ∀ b ∈ n.branches, Enumerates Found.Before Found.value
      (if b.1 = part then b.2.calls else []) fun t => b.1 = part ∧ b.2.OpenCall t :=
    fun b _ => (enumerates_calls b.2).ite
  exact Enumerates.children Found.putsUnder hbranch

/-! ## Calls and their functions -/

/-- A call site of the function that a node is. -/
structure IsOwnSite (n : Node) (scope : List String) (s : CallSite) : Prop where
  owner : s.owner = []
  part : s.part = .decorator ∨ s.part = .body
  caller : n.function? scope = some s.call.caller
  call : n.PartCall s.part ⟨s.position, s.call.target⟩

theorem part_unique {part' : Part} {s t : Found String} (h : n.PartCall part s)
    (h' : n.PartCall part' t) (hposition : s.position = t.position) : part = part' := by
  obtain ⟨i, b, u, hb, ⟨rfl, -⟩, rfl⟩ := h
  obtain ⟨j, c, v, hc, ⟨rfl, -⟩, rfl⟩ := h'
  obtain ⟨rfl, -⟩ := List.cons.inj hposition
  rw [Option.some.inj (hb.symm.trans hc)]

theorem enumerates_ownCalls (n : Node) (scope : List String) :
    Enumerates CallSite.Apart CallSite.call (n.ownCalls scope) (n.IsOwnSite scope) := by
  rw [ownCalls]
  cases hfunction : n.function? scope with
  | none =>
    refine Enumerates.nil.of_iff fun s => iff_of_false id fun h => ?_
    cases hfunction.symm.trans h.caller
  | some q =>
    have hpart : ∀ part, Enumerates CallSite.Apart CallSite.call
        ((n.partCalls part).map fun t => ⟨q, t⟩) fun s =>
          ∃ t, n.PartCall part t ∧ ⟨[], part, t.position, ⟨q, t.value⟩⟩ = s := fun part =>
      (enumerates_partCalls n part).map _ _ (fun _ => rfl) fun s t hst =>
        ⟨hst.position_ne, .inr ⟨rfl, .inr ⟨rfl, hst⟩⟩⟩
    dsimp only
    rw [List.map_append]
    refine ((hpart .decorator).append (hpart .body) ?_).of_iff fun s => ?_
    · rintro s t ⟨u, hu, rfl⟩ ⟨v, hv, rfl⟩
      exact ⟨fun heq => Part.noConfusion (part_unique hu hv heq), .inr ⟨rfl, .inl ⟨rfl, rfl⟩⟩⟩
    · constructor
      · rintro (⟨t, ht, rfl⟩ | ⟨t, ht, rfl⟩)
        · exact ⟨rfl, .inl rfl, hfunction, ht⟩
        · exact ⟨rfl, .inr rfl, hfunction, ht⟩
      · obtain ⟨owner, part, position, call⟩ := s
        rintro ⟨rfl, rfl | rfl, hcaller, hcall⟩
        · exact .inl ⟨_, hcall, by rw [Option.some.inj (hfunction.symm.trans hcaller)]⟩
        · exact .inr ⟨_, hcall, by rw [Option.some.inj (hfunction.symm.trans hcaller)]⟩

theorem function?_eq_some {q : String} : n.function? scope = some q ↔
    ∃ d, n.declaration? file scope = some d ∧ d.kind = .function ∧ q = d.qualname := by
  cases n with
  | definition row last kind =>
    cases kind with
    | function => simp [function?, declaration?, eq_comm]
    | classDef => simp [function?, declaration?]
  | _ => simp [function?, declaration?]

theorem isDefinition_of_function? {q : String} (h : n.function? scope = some q) :
    n.isDefinition = true := by
  cases n with
  | definition => rfl
  | _ => cases h

/-- A call has the node itself as its innermost definition if no definition is on the way. -/
theorem partCall_iff (h : n.isDefinition = true) {p : Position} {t : String} :
    n.PartCall part ⟨p, t⟩ ↔
      n.innermost? p = some ([], part) ∧ (n.at? p).bind target? = some t := by
  constructor
  · rintro ⟨i, b, u, hb, ⟨rfl, hinnermost, htarget⟩, heq⟩
    cases heq
    rw [innermost?_cons hb, hinnermost]
    exact ⟨if_pos h, by rw [at?, hb, Option.bind_some, htarget]⟩
  · rintro ⟨hinnermost, htarget⟩
    cases p with
    | nil => cases hinnermost
    | cons i p =>
      obtain ⟨m, hm, hmt⟩ := Option.bind_eq_some_iff.mp htarget
      obtain ⟨b, hb, hbm⟩ := at?_cons.mp hm
      rw [innermost?_cons hb] at hinnermost
      split at hinnermost
      · cases hinnermost
      · rename_i hopen
        rw [if_pos h] at hinnermost
        cases hinnermost
        exact ⟨i, b, ⟨p, t⟩, hb, ⟨rfl, hopen, by rw [hbm, Option.bind_some, hmt]⟩, rfl⟩

/-- A call counts for the node itself, or else for a function in one of its children. -/
theorem isCallSite_iff {s : CallSite} : n.IsCallSite file scope s ↔
    n.IsOwnSite scope s ∨ ∃ (i : Nat) (b : Part × Node) (t : CallSite), n.branches[i]? = some b ∧
      b.2.IsCallSite file (scope ++ n.definedName?.toList) t ∧ t.under i = s := by
  obtain ⟨owner, part, position, call⟩ := s
  constructor
  · rintro ⟨hinnermost, hpart, ⟨d, hd, hkind, hcaller⟩, htarget⟩
    cases owner with
    | nil =>
      rw [declarationAt?_nil] at hd
      have hfunction := function?_eq_some.mpr ⟨d, hd, hkind, hcaller⟩
      have hdefinition := isDefinition_of_function? hfunction
      exact .inl ⟨rfl, hpart, hfunction, (partCall_iff hdefinition).mpr ⟨hinnermost, htarget⟩⟩
    | cons i q =>
      obtain ⟨b, hb, hbd⟩ := declarationAt?_cons.mp hd
      cases position with
      | nil => cases hinnermost
      | cons j p =>
        obtain ⟨m, hm, hmt⟩ := Option.bind_eq_some_iff.mp htarget
        obtain ⟨c, hc, hcm⟩ := at?_cons.mp hm
        rw [innermost?_cons hc] at hinnermost
        split at hinnermost
        · rename_i q' part' hinner
          cases hinnermost
          obtain rfl : b = c := Option.some.inj (hb.symm.trans hc)
          exact .inr ⟨i, b, ⟨q, part, p, call⟩, hb,
            ⟨hinner, hpart, ⟨d, hbd, hkind, hcaller⟩, by rw [hcm, Option.bind_some, hmt]⟩, rfl⟩
        · split at hinnermost
          · cases hinnermost
          · cases hinnermost
  · rintro (⟨rfl, hpart, hfunction, hcall⟩ | ⟨i, b, t, hb, ht, heq⟩)
    · have hdefinition := isDefinition_of_function? hfunction
      obtain ⟨hinnermost, htarget⟩ := (partCall_iff hdefinition).mp hcall
      obtain ⟨d, hd, hkind, hcaller⟩ : ∃ d, n.declaration? file scope = some d ∧ _ :=
        function?_eq_some.mp hfunction
      exact ⟨hinnermost, hpart, ⟨d, by rw [declarationAt?_nil, hd], hkind, hcaller⟩, htarget⟩
    · cases heq
      obtain ⟨d, hd, hkind, hcaller⟩ := ht.caller
      refine ⟨(innermost?_cons hb).trans (by rw [ht.innermost]), ht.part,
        ⟨d, declarationAt?_cons.mpr ⟨b, hb, hd⟩, hkind, hcaller⟩,
        ?_⟩
      change (n.at? (i :: t.position)).bind target? = some t.call.target
      rw [at?, hb]
      exact ht.target

theorem enumerates_callSites (file : String) (n : Node) (scope : List String) :
    Enumerates CallSite.Apart CallSite.call (outline file scope n).calls
      (n.IsCallSite file scope) := by
  induction n using forall_of_branches generalizing scope with
  | step n ih =>
    rw [calls_outline]
    have hown := enumerates_ownCalls n scope
    have hchildren := Enumerates.children CallSite.putsUnder fun b hb =>
      ih b hb (scope ++ n.definedName?.toList)
    refine (hown.append hchildren ?_).of_iff fun s => isCallSite_iff.symm
    rintro s t hs ⟨i, b, u, hb, hu, rfl⟩
    refine ⟨fun heq => ?_, .inl ?_⟩
    · -- Between a function and its own calls there is no definition, but there is one here.
      obtain ⟨j, c, v, hc, ⟨-, hopen, -⟩, hv⟩ := hs.call
      have hposition : j :: v.position = i :: u.position := (congrArg Found.position hv).trans heq
      obtain rfl : j = i := (List.cons.inj hposition).1
      obtain rfl : b = c := Option.some.inj (hb.symm.trans hc)
      rw [(List.cons.inj hposition).2, hu.innermost] at hopen
      cases hopen
    · rw [hs.owner]
      exact List.nil_lt_cons i u.owner

/-! ## Walks -/

/-- **A walk declares every definition.** What a walk over the tree of a module declares is what
stands at the positions of its definitions, each once and in pre-order: the kind and the name of
the definition, and its name below those of the module and of the definitions around it. A walk
over any tree, from any point, ends with the names around it that it began with. -/
theorem visit_declares (n : Node) (moduleName file : String) :
    Enumerates Found.Before Found.value
        ((Visitor.start moduleName file).visit n).found.declarations
        (fun s => n.declarationAt? file (moduleScope moduleName) s.position = some s.value) ∧
      ∀ (v : Visitor) (m : Node), (v.visit m).scope = v.scope := by
  constructor
  · rw [Visitor.found_visit_start]
    exact enumerates_declarations file n (moduleScope moduleName)
  · intro v m
    rw [Visitor.visit_eq]
    rfl

/-- **A walk records every call once, for the function around it.** The calls that a walk over
the tree of a module records are those at a list of positions, no position twice: the calls of
something with a name whose innermost definition is a function, with the call in its decorators or
its body. The caller is that function. -/
theorem visit_records (n : Node) (moduleName file : String) :
    ∃ sites : List CallSite, (sites.map (·.position)).Nodup ∧ sites.Pairwise CallSite.Before ∧
      (∀ s, s ∈ sites ↔ n.IsCallSite file (moduleScope moduleName) s) ∧
      ((Visitor.start moduleName file).visit n).found.calls = sites.map (·.call) := by
  rw [Visitor.found_visit_start]
  exact (enumerates_callSites file n (moduleScope moduleName)).callSites

/-- A function has the calls in its decorators, but not those in its header or in a function that
is defined inside it. -/
example : ((Visitor.start "m" "m.py").visit (definition 1 2 .function "f"
      [call 0 (name 0 "d") []] [call 1 (name 1 "x") []]
      [definition 2 2 .function "g" [] [] [call 2 (name 2 "y") []]])).found.calls
    = [⟨"m.f", "d"⟩, ⟨"m.f.g", "y"⟩] := by
  decide

end TestImpact.Source.Node
