import TestImpact.Proofs.Source.Definitions
import TestImpact.Proofs.Source.TreePositions

/-
  What is found among the statements of a written tree.

  Definitions are looked for among the statements of the root and of the bodies
  of definitions that are found; calls are looked for in the decorators and the
  body of a function that is found, but not in definitions that stand there.
  `childrenOutline_finds` says what comes of this for every tree: one
  declaration for each definition that is found, and each call once, for the
  function that has it in its decorators or its body.

  Declarations and calls are listed by one recursion, and `Reports` is what it
  takes to follow it: what a definition lists itself, and that this comes before
  what its body lists (`reports_found`, `reports_ownSites`). A call of a
  function and a call of a definition in its body are apart because on the way
  to the second there is the definition (`Finds.not_openCall`).
-/

namespace TestImpact.Source.Tree

/-! ## One statement -/

section Statement

variable {t : Tree} {d : Definition}

theorem named?_eq_some {statement u : Tree} {p : Position} (h : named? statement p u = some d) :
    d.statement = statement ∧ d.position = p ∧ d.tree = u ∧ symbolKind? u.kind = some d.kind := by
  unfold named? at h
  split at h
  · rename_i kind name hkind _
    cases h
    exact ⟨rfl, rfl, rfl, hkind⟩
  · cases h

/-- A definition stands at its position in its statement, which is the statement itself or that of
a child with a label. -/
theorem definition?_eq_some (h : t.definition? = some d) : d.statement = t ∧
    t.at? d.position = some d.tree ∧ symbolKind? d.tree.kind = some d.kind ∧
    (d.position = [] ∨ t.kind = .decoratedDefinition ∧ ∃ i, d.position = [i]) := by
  obtain ⟨⟨p, u⟩, hundecorated, hnamed⟩ := Option.bind_eq_some_iff.mp h
  obtain ⟨hstatement, rfl, rfl, hkind⟩ := named?_eq_some hnamed
  unfold undecorated? at hundecorated
  split at hundecorated
  · rename_i hdecorated
    obtain ⟨⟨i, c⟩, hfield, heq⟩ := Option.map_eq_some_iff.mp hundecorated
    obtain ⟨hposition, htree⟩ := Prod.mk.inj heq
    refine ⟨hstatement, ?_, hkind, .inr ⟨hdecorated, i, hposition.symm⟩⟩
    rw [← hposition, ← htree, at?, field?_eq_some hfield]
    rfl
  · obtain ⟨hposition, htree⟩ := Prod.mk.inj (Option.some.inj hundecorated)
    refine ⟨hstatement, ?_, hkind, .inl hposition.symm⟩
    rw [← hposition, ← htree]
    rfl

theorem isDefinition_of_definition? (h : t.definition? = some d) : isDefinition t.kind = true := by
  obtain ⟨-, htree, hkind, hposition⟩ := definition?_eq_some h
  rcases hposition with hposition | ⟨hdecorated, -⟩
  · rw [hposition] at htree
    rw [Option.some.inj htree]
    exact isDefinition_of_symbolKind? hkind
  · rw [hdecorated]
    rfl

theorem at?_body {k : Nat} {block : Tree} (h : t.definition? = some d)
    (hbody : d.tree.field? .body = some (k, block)) :
    t.at? (d.position ++ [k]) = some block := by
  obtain ⟨-, htree, -, -⟩ := definition?_eq_some h
  rw [at?_append, htree, Option.bind_some, at?, field?_eq_some hbody]
  rfl

end Statement

/-! ## What is found, from the top -/

variable {root : Tree} {file : String} {scope : List String}

/-- A definition is found among the statements of the root, or in the body of one of these. -/
theorem finds_iff {names : List String} {p : Position} {d : Definition} :
    root.Finds names p d ↔ ∃ i t c, root.children[i]? = some t ∧ t.definition? = some c ∧
      (names = [] ∧ p = [i] ∧ d = c ∨ ∃ k block names' p',
        c.tree.field? .body = some (k, block) ∧ block.Finds names' p' d ∧
        names = c.name :: names' ∧ p = i :: (c.position ++ k :: p')) := by
  constructor
  · -- What is found last stays last: it is put at the end of the way inside the first definition.
    intro h
    induction h with
    | @top i t d ht hd => exact ⟨i, t, d, ht, hd, .inl ⟨rfl, rfl, rfl⟩⟩
    | @inside names p e d k i block t _ hbody ht hd ih =>
      obtain ⟨j, u, c, hu, hc, hfound⟩ := ih
      rcases hfound with ⟨rfl, rfl, rfl⟩ | ⟨k', block', names', p', hbody', he, rfl, rfl⟩
      · exact ⟨j, u, e, hu, hc, .inr ⟨k, block, [], [i], hbody, .top ht hd, rfl, rfl⟩⟩
      · exact ⟨j, u, c, hu, hc, .inr ⟨k', block', names' ++ [e.name], p' ++ e.position ++ [k, i],
          hbody', .inside he hbody ht hd, rfl, by simp⟩⟩
  · rintro ⟨i, t, c, ht, hc, ⟨rfl, rfl, rfl⟩ | ⟨k, block, names', p', hbody, hfinds, rfl, rfl⟩⟩
    · exact .top ht hc
    · induction hfinds with
      | @top j u d hu hd => exact .inside (.top ht hc) hbody hu hd
      | @inside names q e d k' j block' u _ hbody' hu hd ih =>
        have hinside := Finds.inside ih hbody' hu hd
        simpa using hinside

theorem Finds.definition? {names : List String} {p : Position} {d : Definition}
    (h : root.Finds names p d) : d.statement.definition? = some d := by
  have hstatement : ∃ t : Tree, t.definition? = some d := by
    cases h with
    | top _ hd => exact ⟨_, hd⟩
    | inside _ _ _ hd => exact ⟨_, hd⟩
  obtain ⟨t, ht⟩ := hstatement
  rw [(definition?_eq_some ht).1, ht]

theorem Finds.at? {names : List String} {p : Position} {d : Definition}
    (h : root.Finds names p d) : root.at? p = some d.statement := by
  induction h with
  | top ht hd =>
    rw [Tree.at?, ht, (definition?_eq_some hd).1]
    rfl
  | @inside names p c d k i block t hc hbody ht hd ih =>
    have hblock := at?_body hc.definition? hbody
    have hsplit : p ++ c.position ++ [k, i] = p ++ ((c.position ++ [k]) ++ [i]) := by simp
    rw [hsplit, at?_append, ih, Option.bind_some, at?_append, hblock, Option.bind_some, Tree.at?,
      ht, (definition?_eq_some hd).1]
    rfl

/-! ## What definitions report -/

section Reports

variable {σ β : Type} {before : σ → σ → Prop} {value : σ → β} {below : Position → σ → σ}
  {select : Outline → List β} {Own : Definition → List String → σ → Prop} {s : σ}

/-- One kind of things that an outline lists: what a definition itself adds to them, and that
this comes before what is found in its body. -/
structure Reports (file : String) (before : σ → σ → Prop) (value : σ → β)
    (below : Position → σ → σ) (select : Outline → List β)
    (Own : Definition → List String → σ → Prop) : Prop where
  puts : PutsBelow before value below
  empty : select .empty = []
  append : ∀ a b, select (a ++ b) = select a ++ select b
  own : ∀ {t : Tree} {d : Definition} (scope : List String), t.definition? = some d →
    Enumerates before value (select (d.ownOutline file scope)) (Own d scope)
  first : ∀ {t : Tree} {d e : Definition} {scope scope' names : List String} {k : Nat}
    {block : Tree} {p : Position} {s u : σ}, t.definition? = some d → Own d scope s →
    d.tree.field? .body = some (k, block) → block.Finds names p e → Own e scope' u →
    before s (below (d.position ++ [k]) (below p u))

/-- What the definitions that are found report. -/
def Reported (below : Position → σ → σ) (Own : Definition → List String → σ → Prop) (root : Tree)
    (scope : List String) (s : σ) : Prop :=
  ∃ names p d u, root.Finds names p d ∧ Own d (scope ++ names) u ∧ below p u = s

/-- What is reported in the body of a definition. -/
def Definition.ReportedInside (below : Position → σ → σ)
    (Own : Definition → List String → σ → Prop) (d : Definition) (scope : List String) (s : σ) :
    Prop :=
  ∃ k block u, d.tree.field? .body = some (k, block) ∧
    Reported below Own block (scope ++ [d.name]) u ∧ below (d.position ++ [k]) u = s

theorem reported_iff (h : PutsBelow before value below) : Reported below Own root scope s ↔
    ∃ i t u, root.children[i]? = some t ∧ (∃ d, t.definition? = some d ∧
      (Own d scope u ∨ d.ReportedInside below Own scope u)) ∧ below [i] u = s := by
  constructor
  · rintro ⟨names, p, d, u, hd, hu, rfl⟩
    obtain ⟨i, t, c, ht, hc, hfound⟩ := finds_iff.mp hd
    rcases hfound with ⟨rfl, rfl, rfl⟩ | ⟨k, block, names', p', hbody, hfinds, rfl, rfl⟩
    · rw [List.append_nil] at hu
      exact ⟨i, t, u, ht, ⟨d, hc, .inl hu⟩, rfl⟩
    · refine ⟨i, t, below (c.position ++ [k]) (below p' u), ht, ⟨c, hc, .inr ?_⟩, ?_⟩
      · rw [List.append_cons] at hu
        exact ⟨k, block, below p' u, hbody, ⟨names', p', d, u, hfinds, hu, rfl⟩, rfl⟩
      · rw [h.append, h.append]
        simp
  · rintro ⟨i, t, u, ht, ⟨c, hc, hu | hinside⟩, rfl⟩
    · refine ⟨[], [i], c, u, .top ht hc, ?_, rfl⟩
      rwa [List.append_nil]
    · obtain ⟨k, block, _, hbody, ⟨names, p, d, w, hd, hw, rfl⟩, rfl⟩ := hinside
      refine ⟨c.name :: names, i :: (c.position ++ k :: p), d, w, ?_, ?_, ?_⟩
      · exact finds_iff.mpr ⟨i, t, c, ht, hc, .inr ⟨k, block, names, p, hbody, hd, rfl, rfl⟩⟩
      · rwa [List.append_cons]
      · rw [h.append, h.append]
        simp

namespace Reports

variable (h : Reports file before value below select Own)
include h

theorem select_outlineOf (ts : List Tree) : select (outlineOf file scope ts)
    = ts.flatMap fun t => select (definitionOutline file scope none t) := by
  induction ts with
  | nil => exact h.empty
  | cons t ts ih => rw [outlineOf, h.append, ih, List.flatMap_cons]

/-- The reports in the body of a definition, if those in its block are known. -/
theorem enumerates_bodyOutline (d : Definition) (scope : List String)
    (hblock : ∀ k block, d.tree.field? .body = some (k, block) → Enumerates before value
      (select (childrenOutline file (scope ++ [d.name]) block))
      (Reported below Own block (scope ++ [d.name]))) :
    Enumerates before value (select (d.bodyOutline file scope))
      (d.ReportedInside below Own scope) := by
  rw [Definition.bodyOutline, child?_eq]
  cases hbody : d.tree.field? .body with
  | none =>
    rw [Option.map_none, h.empty]
    refine Enumerates.nil.of_iff fun s => iff_of_false id ?_
    rintro ⟨k, block, u, hsome, -⟩
    cases hbody.symm.trans hsome
  | some x =>
    obtain ⟨k, block⟩ := x
    refine ((hblock k block hbody).below h.puts (d.position ++ [k])).of_iff fun s => ⟨?_, ?_⟩
    · rintro ⟨u, hu, rfl⟩
      exact ⟨k, block, u, hbody, hu, rfl⟩
    · rintro ⟨k', block', u, hbody', hu, rfl⟩
      cases hbody.symm.trans hbody'
      exact ⟨u, hu, rfl⟩

/-- **What is found in a tree is what its definitions report.** -/
theorem enumerates (t : Tree) (scope : List String) : Enumerates before value
    (select (childrenOutline file scope t)) (Reported below Own t scope) := by
  -- The block of a definition is no child of the tree, but further down.
  induction t using forall_of_inside generalizing scope with
  | step t ih =>
    have hstatement : ∀ u ∈ t.children, Enumerates before value
        (select (definitionOutline file scope none u)) fun s =>
          ∃ d, u.definition? = some d ∧ (Own d scope s ∨ d.ReportedInside below Own scope s) := by
      intro u hu
      rw [definitionOutline_eq]
      cases hd : u.definition? with
      | none =>
        rw [h.empty]
        exact Enumerates.nil.of_iff (by simp)
      | some d =>
        have hinner := h.enumerates_bodyOutline d scope fun k block hbody => by
          obtain ⟨i, hi⟩ := List.mem_iff_getElem?.mp hu
          exact ih (i :: (d.position ++ [k])) block (List.cons_ne_nil _ _)
            (at?_cons.mpr ⟨u, hi, at?_body hd hbody⟩) (scope ++ [d.name])
        rw [h.append]
        refine ((h.own scope hd).append hinner ?_).of_iff fun s => by simp
        rintro s _ hs ⟨k, block, _, hbody, ⟨names, p, e, v, he, hv, rfl⟩, rfl⟩
        exact h.first hd hs hbody he hv
    have hchildren := Enumerates.children h.puts.under hstatement
    obtain ⟨k, l, text, first, last, children⟩ := t
    rw [childrenOutline, h.select_outlineOf]
    exact hchildren.of_iff fun s => (reported_iff h.puts).symm

end Reports

end Reports

/-! ## Declarations -/

theorem reports_found (file : String) : Reports file Found.Before Found.value Found.below
    (·.declarations) fun d scope u => u = d.found file scope where
  puts := Found.putsBelow
  empty := rfl
  append _ _ := rfl
  own {_ d} scope _ := by
    have hfound : Enumerates Found.Before Found.value [(d.found file scope).value]
      (· = d.found file scope) := .singleton _
    exact hfound
  first := by
    rintro t d e scope scope' names k block p s u - rfl - - -
    have hlt := Position.lt_append d.position (q := k :: (p ++ u.position)) (List.cons_ne_nil _ _)
    simpa [Found.Before, Found.below, Definition.found] using hlt

/-! ## Calls -/

theorem callsIn_eq (ts : List Tree) :
    callsIn ts = ts.flatMap fun t => if isDefinition t.kind = false then t.calls else [] := by
  induction ts with
  | nil => rfl
  | cons t ts ih =>
    rw [callsIn, ih, List.flatMap_cons]
    cases isDefinition t.kind with
    | true => rfl
    | false => rfl

theorem calls_eq (t : Tree) : t.calls = t.target?.toList ++
    t.children.flatMap fun c => if isDefinition c.kind = false then c.calls else [] := by
  obtain ⟨k, l, text, first, last, children⟩ := t
  rw [calls, callsIn_eq, target?]
  by_cases hk : k = .call
  · simp [hk, Tree.kind, Tree.children]
  · simp [hk, Tree.kind, Tree.children]

theorem openCall_nil {t : Tree} {v : String} : t.OpenCall ⟨[], v⟩ ↔ t.target? = some v := by
  constructor
  · exact fun h => h.1
  · intro h
    refine ⟨h, fun q u hq hprefix => ?_⟩
    exact absurd (List.prefix_nil.mp hprefix) hq

theorem openCall_cons {t : Tree} {i : Nat} {p : Position} {v : String} :
    t.OpenCall ⟨i :: p, v⟩ ↔ ∃ c, t.children[i]? = some c ∧
      (isDefinition c.kind = false ∧ c.OpenCall ⟨p, v⟩) := by
  constructor
  · rintro ⟨htarget, hopen⟩
    obtain ⟨u, hu, hv⟩ := Option.bind_eq_some_iff.mp htarget
    obtain ⟨c, hc, hcu⟩ := at?_cons.mp hu
    have hbelow : ∀ q w, q <+: p → c.at? q = some w → isDefinition w.kind = false := by
      intro q w hq hw
      exact hopen (i :: q) w (List.cons_ne_nil i q) (List.cons_prefix_cons.mpr ⟨rfl, hq⟩)
        (at?_cons.mpr ⟨c, hc, hw⟩)
    exact ⟨c, hc, hbelow [] c List.nil_prefix rfl, by rw [hcu, Option.bind_some, hv],
      fun q w _ => hbelow q w⟩
  · rintro ⟨c, hc, hkind, htarget, hopen⟩
    refine ⟨by rw [at?, hc]; exact htarget, fun q w hq hprefix hw => ?_⟩
    obtain ⟨j, q, rfl⟩ := List.exists_cons_of_ne_nil hq
    obtain ⟨rfl, htail⟩ := List.cons_prefix_cons.mp hprefix
    obtain ⟨c', hc', hw'⟩ := at?_cons.mp hw
    obtain rfl : c = c' := Option.some.inj (hc.symm.trans hc')
    by_cases hq' : q = []
    · subst hq'
      obtain rfl := Option.some.inj hw'
      exact hkind
    · exact hopen q w hq' htail hw'

theorem enumerates_calls (t : Tree) :
    Enumerates Found.Before Found.value t.calls t.OpenCall := by
  induction t using forall_of_children with
  | step t ih =>
    rw [calls_eq]
    have hchild : ∀ c ∈ t.children, Enumerates Found.Before Found.value
        (if isDefinition c.kind = false then c.calls else []) fun s =>
          isDefinition c.kind = false ∧ c.OpenCall s := fun c hc => (ih c hc).ite
    exact Found.enumerates_node hchild (fun v => openCall_nil) fun i p v => openCall_cons

theorem decoratorCalls_eq (ts : List Tree) :
    decoratorCalls ts = ts.flatMap fun c => if c.kind = .decorator then c.calls else [] := by
  rw [decoratorCalls]
  induction ts with
  | nil => rfl
  | cons t ts ih =>
    by_cases ht : t.kind = .decorator
    · simp [ht, ih]
    · simp [ht, ih]

section Function

variable {t : Tree} {d : Definition} {s : CallSite}

theorem enumerates_decorators (d : Definition) : Enumerates Found.Before Found.value
    (if d.statement.kind = .decoratedDefinition then decoratorCalls d.statement.children else [])
    (d.PartCall .decorator) := by
  have hchildren := Enumerates.children Found.putsUnder fun c (_ : c ∈ d.statement.children) =>
    (enumerates_calls c).ite (c := c.kind = .decorator)
  rw [decoratorCalls_eq]
  refine hchildren.ite.of_iff fun s => ⟨?_, ?_⟩
  · rintro ⟨hkind, i, c, u, hc, ⟨hdecorator, hu⟩, rfl⟩
    exact ⟨[i], c, u, .decorator hkind hc hdecorator, hu, rfl⟩
  · rintro ⟨r, c, u, ⟨hkind, hc, hdecorator⟩, hu, rfl⟩
    exact ⟨hkind, _, c, u, hc, ⟨hdecorator, hu⟩, rfl⟩

theorem region_body {r : Position} {c : Tree} (h : d.Region .body r c) :
    ∃ k, r = d.position ++ [k] ∧ d.tree.field? .body = some (k, c) := by
  cases h with
  | body hbody => exact ⟨_, rfl, hbody⟩

theorem enumerates_body (d : Definition) : Enumerates Found.Before Found.value
    ((d.tree.child? .body).map calls |>.getD []) (d.PartCall .body) := by
  rw [child?_eq]
  cases hbody : d.tree.field? .body with
  | none =>
    refine Enumerates.nil.of_iff fun s => iff_of_false id ?_
    rintro ⟨r, c, u, hr, -, -⟩
    obtain ⟨k, -, hsome⟩ := region_body hr
    cases hbody.symm.trans hsome
  | some x =>
    obtain ⟨k, block⟩ := x
    refine ((enumerates_calls block).below Found.putsBelow (d.position ++ [k])).of_iff
      fun s => ⟨?_, ?_⟩
    · rintro ⟨u, hu, rfl⟩
      exact ⟨d.position ++ [k], block, u, .body hbody, hu, rfl⟩
    · rintro ⟨r, c, u, hr, hu, rfl⟩
      obtain ⟨k', rfl, hbody'⟩ := region_body hr
      cases hbody.symm.trans hbody'
      exact ⟨u, hu, rfl⟩

/-- A decorator is not where the definition is, and so it is not above the body. -/
theorem decorator_position_ne (ht : t.definition? = some d) {r p q : Position} {c : Tree} {k : Nat}
    (hr : d.Region .decorator r c) : r ++ p ≠ d.position ++ k :: q := by
  obtain ⟨hstatement, htree, hkind, hposition⟩ := definition?_eq_some ht
  obtain ⟨hdecorated, hc, hdecorator⟩ := hr
  rename_i i
  rw [hstatement] at hdecorated hc
  rcases hposition with hposition | ⟨-, j, hposition⟩
  · -- A definition that stands in no child is bare, and has no decorators.
    rw [hposition] at htree
    obtain rfl := Option.some.inj htree
    rw [hdecorated] at hkind
    cases hkind
  · intro heq
    rw [hposition] at heq htree
    obtain ⟨rfl, -⟩ := List.cons.inj heq
    obtain ⟨u, hu, hd⟩ := at?_cons.mp htree
    obtain rfl := Option.some.inj (hc.symm.trans hu)
    obtain rfl := Option.some.inj hd
    rw [hdecorator] at hkind
    cases hkind

/-- A function has the calls in its decorators and then those in its body. -/
theorem enumerates_ownSites (ht : t.definition? = some d) (file : String) (scope : List String) :
    Enumerates CallSite.Apart CallSite.call (d.ownOutline file scope).calls
      (d.IsOwnSite scope) := by
  unfold Definition.ownOutline Tree.ownOutline
  cases hkind : d.kind with
  | classDef =>
    refine Enumerates.nil.of_iff fun s => iff_of_false id fun h => ?_
    cases hkind.symm.trans h.function
  | function =>
    have hpart : ∀ {part : Part} {ys : List String},
        Enumerates Found.Before Found.value ys (d.PartCall part) →
        Enumerates CallSite.Apart CallSite.call (ys.map fun t => ⟨d.qualname scope, t⟩) fun s =>
          ∃ t, d.PartCall part t ∧
            ⟨d.position, part, t.position, ⟨d.qualname scope, t.value⟩⟩ = s := fun h =>
      h.map _ _ (fun _ => rfl) fun s t hst => ⟨hst.position_ne, .inr ⟨rfl, .inr ⟨rfl, hst⟩⟩⟩
    dsimp only
    rw [List.map_append]
    refine ((hpart (enumerates_decorators d)).append (hpart (enumerates_body d)) ?_).of_iff
      fun s => ⟨?_, ?_⟩
    · rintro s s' ⟨u, ⟨r, c, v, hr, -, rfl⟩, rfl⟩ ⟨u', ⟨r', c', v', hr', -, rfl⟩, rfl⟩
      obtain ⟨k, rfl, -⟩ := region_body hr'
      refine ⟨?_, .inr ⟨rfl, .inl ⟨rfl, rfl⟩⟩⟩
      simpa [Found.below] using decorator_position_ne ht hr
    · rintro (⟨t, ht, rfl⟩ | ⟨t, ht, rfl⟩)
      · exact ⟨rfl, hkind, rfl, ht⟩
      · exact ⟨rfl, hkind, rfl, ht⟩
    · obtain ⟨owner, part, position, caller, target⟩ := s
      rintro ⟨rfl, -, rfl, hcall⟩
      have hregion := hcall
      obtain ⟨r, c, v, hr, -, -⟩ := hregion
      cases hr with
      | decorator => exact .inl ⟨_, hcall, rfl⟩
      | body => exact .inr ⟨_, hcall, rfl⟩

end Function

/-- A call of a definition that is found is not open: the definition is on the way to it. -/
theorem Finds.not_openCall {names : List String} {p : Position} {e : Definition}
    (h : root.Finds names p e) (q : Position) (v : String) : ¬root.OpenCall ⟨p ++ q, v⟩ := by
  rintro ⟨-, hopen⟩
  have hposition : p ≠ [] := by
    cases h with
    | top => exact List.cons_ne_nil _ _
    | inside => simp
  have hkind := hopen p e.statement hposition (List.prefix_append p q) h.at?
  rw [isDefinition_of_definition? h.definition?] at hkind
  cases hkind

theorem reports_ownSites (file : String) : Reports file CallSite.Apart CallSite.call CallSite.below
    (·.calls) Definition.IsOwnSite where
  puts := CallSite.putsBelow
  empty := rfl
  append _ _ := rfl
  own scope h := enumerates_ownSites h file scope
  first := by
    intro t d e scope scope' names k block p s u ht hs hbody hfinds hu
    have howner : s.owner < d.position ++ k :: (p ++ u.owner) := by
      rw [hs.owner]
      exact Position.lt_append d.position (List.cons_ne_nil _ _)
    have hposition : s.position ≠ d.position ++ k :: (p ++ u.position) := by
      obtain ⟨r, c, v, hr, hopen, heq⟩ := hs.call
      have hcall : r ++ v.position = s.position := congrArg Found.position heq
      rw [← hcall]
      cases hpart : s.part with
      | decorator =>
        rw [hpart] at hr
        exact decorator_position_ne ht hr
      | body =>
        rw [hpart] at hr
        obtain ⟨k', rfl, hbody'⟩ := region_body hr
        cases hbody.symm.trans hbody'
        intro hequal
        have hv : v.position = p ++ u.position := by simpa using hequal
        exact hfinds.not_openCall u.position v.value (by rw [← hv]; exact hopen)
      | inside => rw [hpart] at hr; cases hr
      | header => rw [hpart] at hr; cases hr
    refine ⟨?_, .inl ?_⟩
    · simpa [CallSite.below] using hposition
    · simpa [CallSite.below] using howner

/-! ## A whole tree -/

/-- **What is found among the statements of a tree.** The declarations are those of the
definitions that are found, each once and in pre-order, with names below those of the module and
of the definitions around. The calls are those at a list of positions, no position twice: the
calls of something with a name that a function that is found has in its decorators or in its body,
with no definition strictly between. The caller is the function; the calls of one function come in
pre-order, those in decorators before those in the body. -/
theorem childrenOutline_finds (t : Tree) (moduleName file : String) :
    let o := t.childrenOutline file (moduleScope moduleName)
    Enumerates Found.Before Found.value o.declarations
        (t.IsDeclared file (moduleScope moduleName)) ∧
      ∃ sites : List CallSite, (sites.map (·.position)).Nodup ∧ sites.Pairwise CallSite.Before ∧
        (∀ s, s ∈ sites ↔ t.IsCallSite (moduleScope moduleName) s) ∧
        o.calls = sites.map (·.call) := by
  refine ⟨(reports_found file).enumerates t _, ?_⟩
  exact ((reports_ownSites file).enumerates t _).callSites

end TestImpact.Source.Tree
