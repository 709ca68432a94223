import TestImpact.Proofs.Text.Ascending
import TestImpact.Proofs.Text.Dotted
import TestImpact.Resolution

/-
  Call targets resolved by components.

  Resolving works with endings of texts and with tables that are keyed by
  simple names. `rules` says the same with lists of components and with all
  declared functions and classes; the first rule that a function satisfies
  decides (`FirstRule`).

  `resolve_by_components` says that the two agree if every symbol has the last
  component of its qualified name as its name, and that a call adds the edges
  to the functions it gives that are not there yet, ascending.
-/

namespace TestImpact

namespace Declared

open TestImpact.Text

/-- The qualified names of the symbols of a kind. -/
def ids (d : Declared) (kind : SymbolKind) : List String :=
  (d.symbols.filter (·.kind = kind)).map (·.qualname)

/-- Every symbol has the last component of its qualified name as its name. -/
def WellNamed (d : Declared) : Prop :=
  ∀ s ∈ d.symbols, (components s.qualname).getLast? = some s.name

/-- The functions of the first rule that a function satisfies. -/
def FirstRule (functions : List String) : List (String → Prop) → String → Prop
  | [], _ => False
  | rule :: rest, q =>
    (q ∈ functions ∧ rule q) ∨ ((∀ f ∈ functions, ¬rule f) ∧ FirstRule functions rest q)

/-- The target is the function itself. -/
def IsWhole (target q : String) : Prop := q = target

/-- The target is `self.m` or `cls.m`, and the function is `m` beside the caller. -/
def IsOwn (caller target q : String) : Prop :=
  ∃ receiver m, components target = [receiver, m] ∧ (receiver = "self" ∨ receiver = "cls") ∧
    components q = (components caller).dropLast ++ [m]

/-- The components of the function end with those of the target, which are two or more. -/
def IsEnding (target q : String) : Prop :=
  2 ≤ (components target).length ∧ components target <:+ components q

/-- The class has the last component of the target as its last one. -/
def IsNamedClass (classes : List String) (target k : String) : Prop :=
  k ∈ classes ∧ (components k).getLast? = (components target).getLast?

/-- The function is the constructor of such a class. -/
def IsConstructor (classes : List String) (target q : String) : Prop :=
  ∃ k, IsNamedClass classes target k ∧ q = k ++ ".__init__"

/-- The function has the last component of the target as its last one, and the target is not a
single component that names a class. -/
def IsNamesake (classes : List String) (target q : String) : Prop :=
  ¬((components target).length = 1 ∧ ∃ k, IsNamedClass classes target k) ∧
    (components q).getLast? = (components target).getLast?

/-- The rules, in the order in which they are tried. -/
def rules (classes : List String) (caller target : String) : List (String → Prop) :=
  [IsWhole target, IsOwn caller target, IsEnding target, IsConstructor classes target,
    IsNamesake classes target]

/-! ## The first rule -/

section FirstRule

variable {functions : List String} {rule : String → Prop} {rest : List (String → Prop)}

theorem firstRule_of_exists {f : String} (hf : f ∈ functions) (hrule : rule f) (q : String) :
    FirstRule functions (rule :: rest) q ↔ q ∈ functions ∧ rule q := by
  constructor
  · intro hgiven
    rcases hgiven with h | ⟨hnone, -⟩
    · exact h
    · exact absurd hrule (hnone f hf)
  · exact .inl

theorem firstRule_of_forall_not (h : ∀ f ∈ functions, ¬rule f) (q : String) :
    FirstRule functions (rule :: rest) q ↔ FirstRule functions rest q := by
  constructor
  · intro hgiven
    rcases hgiven with ⟨hq, hrule⟩ | ⟨-, hrest⟩
    · exact absurd hrule (h q hq)
    · exact hrest
  · exact fun hrest => .inr ⟨h, hrest⟩

theorem firstRule_singleton {q : String} :
    FirstRule functions [rule] q ↔ q ∈ functions ∧ rule q := by
  simp [FirstRule]

/-- A list of all that a rule gives tells what to do: take it, or go on if it is empty. -/
theorem firstRule_of_list {l : List String} (hl : ∀ q, q ∈ l ↔ q ∈ functions ∧ rule q)
    (q : String) :
    FirstRule functions (rule :: rest) q ↔
      if l = [] then FirstRule functions rest q else q ∈ l := by
  split
  · rename_i hnil
    refine firstRule_of_forall_not (fun f hf hrule => ?_) q
    have hmem : f ∈ l := (hl f).mpr ⟨hf, hrule⟩
    simp [hnil] at hmem
  · rename_i hne
    obtain ⟨f, hf⟩ := List.exists_mem_of_ne_nil l hne
    obtain ⟨hfunction, hrule⟩ := (hl f).mp hf
    rw [firstRule_of_exists hfunction hrule, hl]

end FirstRule

/-! ## What the tables give -/

section Tables

variable {d : Declared} {caller target : String}

theorem mem_ids {kind : SymbolKind} {q : String} :
    q ∈ d.ids kind ↔ ∃ s ∈ d.symbols, s.kind = kind ∧ s.qualname = q := by
  simp [ids, and_assoc]

theorem isFunction_iff {q : String} : d.isFunction q = true ↔ q ∈ d.functions := by
  rw [show d.functions = d.ids .function from rfl, mem_ids]
  simp [isFunction]

theorem mem_named (h : d.WellNamed) {kind : SymbolKind} {name q : String} :
    q ∈ d.named kind name ↔ q ∈ d.ids kind ∧ (components q).getLast? = some name := by
  rw [mem_ids]
  simp only [named, List.mem_map, List.mem_filter, decide_eq_true_eq]
  constructor
  · intro hgiven
    obtain ⟨s, ⟨hs, hkind, hname⟩, rfl⟩ := hgiven
    exact ⟨⟨s, hs, hkind, rfl⟩, by rw [h s hs, hname]⟩
  · intro hgiven
    obtain ⟨⟨s, hs, hkind, rfl⟩, hlast⟩ := hgiven
    rw [h s hs] at hlast
    exact ⟨s, ⟨hs, hkind, Option.some.inj hlast⟩, rfl⟩

/-- The candidate for `self.m` has the components of the caller, the last one exchanged for `m`. -/
theorem components_own {m : String} (hcaller : '.' ∈ caller.toList) (hm : '.' ∉ m.toList) :
    components (container caller ++ "." ++ m) = (components caller).dropLast ++ [m] := by
  rw [components_append, components_of_not_mem hm, components_eq_container hcaller,
    List.dropLast_concat]

/-- No component has a dot in it; said of the second of two. -/
theorem not_mem_of_components {receiver m : String} (h : components target = [receiver, m]) :
    '.' ∉ m.toList := by
  have hdot : '.' ∈ target.toList := one_lt_length_components.mp (by simp [h])
  have hlast := getLast?_components target
  obtain rfl : m = simpleName target := by simpa [h] using hlast
  exact (eq_container_append hdot).2

theorem mem_functions_of_ownMethod? {q : String} (h : d.ownMethod? caller target = some q) :
    q ∈ d.functions := by
  unfold ownMethod? at h
  split at h
  · split at h
    · dsimp only at h
      split at h
      · rename_i hfunction
        obtain rfl := Option.some.inj h
        exact isFunction_iff.mp hfunction
      · cases h
    · cases h
  · cases h

theorem ownMethod?_eq_some (hcaller : '.' ∈ caller.toList) {q : String} :
    d.ownMethod? caller target = some q ↔ q ∈ d.functions ∧ IsOwn caller target q := by
  constructor
  · intro h
    unfold ownMethod? at h
    split at h
    · rename_i receiver m htarget
      split at h
      · rename_i hreceiver
        dsimp only at h
        split at h
        · rename_i hfunction
          obtain rfl := Option.some.inj h
          exact ⟨isFunction_iff.mp hfunction, receiver, m, htarget, hreceiver,
            components_own hcaller (not_mem_of_components htarget)⟩
        · cases h
      · cases h
    · cases h
  · intro hgiven
    obtain ⟨hfunction, receiver, m, htarget, hreceiver, hq⟩ := hgiven
    rw [← components_own hcaller (not_mem_of_components htarget), components_inj] at hq
    subst hq
    simp [ownMethod?, htarget, hreceiver, isFunction_iff.mpr hfunction]

theorem mem_endingWith (h : d.WellNamed) (hwhole : target ∉ d.functions) {q : String} :
    (q ∈ if target.toList.contains '.' then d.endingWith target else []) ↔
      q ∈ d.functions ∧ IsEnding target q := by
  have hdotted : target.toList.contains '.' = true ↔ 2 ≤ (components target).length := by
    rw [List.contains_iff_mem, ← one_lt_length_components]
    rfl
  split
  · rename_i hdot
    simp only [endingWith, List.mem_filter, mem_named h, endsWith_iff, IsEnding,
      hdotted.mp hdot, true_and, components_suffix_iff]
    constructor
    · intro hgiven
      obtain ⟨⟨hq, -⟩, front, hfront⟩ := hgiven
      exact ⟨hq, .inr ⟨front, by rw [hfront, String.append_assoc]⟩⟩
    · intro hgiven
      rcases hgiven with ⟨hq, rfl | ⟨front, rfl⟩⟩
      · exact absurd hq hwhole
      · -- The table of the simple name has it: the last component is the target's.
        refine ⟨⟨hq, ?_⟩, front, String.append_assoc ..⟩
        rw [components_append, List.getLast?_append_of_ne_nil _ (components_ne_nil target),
          getLast?_components]
  · rename_i hdot
    simp only [List.not_mem_nil, IsEnding, false_iff, not_and]
    exact fun _ hlength => absurd (hdotted.mpr hlength) hdot

theorem mem_named_classDef (h : d.WellNamed) {k : String} :
    k ∈ d.named .classDef (simpleName target) ↔ IsNamedClass (d.ids .classDef) target k := by
  rw [mem_named h, IsNamedClass, getLast?_components target]

theorem mem_constructors (h : d.WellNamed) {q : String} :
    q ∈ d.constructors (simpleName target) ↔
      q ∈ d.functions ∧ IsConstructor (d.ids .classDef) target q := by
  simp only [constructors, List.mem_filter, List.mem_map, mem_named_classDef h, isFunction_iff,
    IsConstructor]
  constructor
  · intro hgiven
    obtain ⟨⟨k, hk, rfl⟩, hq⟩ := hgiven
    exact ⟨hq, k, hk, rfl⟩
  · intro hgiven
    obtain ⟨hq, k, hk, rfl⟩ := hgiven
    exact ⟨⟨k, hk, rfl⟩, hq⟩

theorem mem_namesakes (h : d.WellNamed) {q : String} :
    (q ∈ if !target.toList.contains '.' && !(d.named .classDef (simpleName target)).isEmpty then []
      else d.named .function (simpleName target)) ↔
      q ∈ d.functions ∧ IsNamesake (d.ids .classDef) target q := by
  have hclass : (!(d.named .classDef (simpleName target)).isEmpty) = true ↔
      ∃ k, IsNamedClass (d.ids .classDef) target k := by
    simp only [Bool.not_eq_true', List.isEmpty_eq_false_iff_exists_mem, mem_named_classDef h]
  have hsingle : (!target.toList.contains '.') = true ↔ (components target).length = 1 := by
    have hpos := List.length_pos_iff.mpr (components_ne_nil target)
    have hdot := one_lt_length_components (s := target)
    rw [Bool.not_eq_true', ← Bool.not_eq_true, List.contains_iff_mem, ← hdot]
    omega
  rw [IsNamesake, ← hclass, ← hsingle, ← Bool.and_eq_true]
  split
  · rename_i hboth
    constructor
    · intro hq
      cases hq
    · intro hgiven
      obtain ⟨-, hnot, -⟩ := hgiven
      exact absurd hboth hnot
  · rename_i hboth
    rw [mem_named h, getLast?_components target]
    constructor
    · intro hgiven
      obtain ⟨hq, hlast⟩ := hgiven
      exact ⟨hq, hboth, hlast⟩
    · intro hgiven
      obtain ⟨hq, -, hlast⟩ := hgiven
      exact ⟨hq, hlast⟩

end Tables

/-! ## Resolving -/

theorem mem_ascending_or {l m : List String} {q : String} :
    (q ∈ if !l.isEmpty then ascending l else m) ↔ if l = [] then q ∈ m else q ∈ l := by
  cases l with
  | nil => simp
  | cons x xs => simp [mem_ascending]

theorem mem_ascending_unless {none : Bool} {l : List String} {q : String} :
    (q ∈ if none then [] else ascending l) ↔ q ∈ if none then [] else l := by
  cases none with
  | true => exact Iff.rfl
  | false => exact mem_ascending

theorem mem_resolve {d : Declared} (h : d.WellNamed) {caller : String}
    (hcaller : '.' ∈ caller.toList) (target q : String) :
    q ∈ d.resolve caller target ↔
      FirstRule d.functions (rules (d.ids .classDef) caller target) q := by
  unfold rules
  by_cases hwhole : target ∈ d.functions
  · rw [firstRule_of_exists hwhole (show IsWhole target target from rfl), resolve,
      if_pos (isFunction_iff.mpr hwhole), List.mem_singleton]
    constructor
    · intro hgiven
      obtain rfl := hgiven
      exact ⟨hwhole, rfl⟩
    · exact fun hq => hq.2
  · have hnot : ∀ f ∈ d.functions, ¬IsWhole target f := by
      intro f hf hgiven
      obtain rfl := hgiven
      exact hwhole hf
    rw [firstRule_of_forall_not hnot, resolve, if_neg (isFunction_iff.not.mpr hwhole)]
    cases hown : d.ownMethod? caller target with
    | some method =>
      obtain ⟨hmethod, hrule⟩ := (ownMethod?_eq_some hcaller).mp hown
      rw [firstRule_of_exists hmethod hrule, ← ownMethod?_eq_some hcaller, hown]
      simp [eq_comm]
    | none =>
      have hnone : ∀ f ∈ d.functions, ¬IsOwn caller target f := by
        intro f hf hrule
        rw [(ownMethod?_eq_some hcaller).mpr ⟨hf, hrule⟩] at hown
        cases hown
      -- From here on each list that is looked at has what one rule gives.
      rw [firstRule_of_forall_not hnone, firstRule_of_list fun q => mem_endingWith h hwhole,
        firstRule_of_list fun q => mem_constructors h, firstRule_singleton, ← mem_namesakes h]
      dsimp only
      rw [mem_ascending_or, mem_ascending_or, mem_ascending_unless]

theorem pairwise_resolve (d : Declared) (caller target : String) :
    (d.resolve caller target).Pairwise (· < ·) := by
  have hone : ∀ q : String, [q].Pairwise (· < ·) := List.pairwise_singleton _
  unfold resolve
  dsimp only
  generalize (if target.toList.contains '.' then d.endingWith target else []) = dotted
  split
  · exact hone _
  · split
    · exact hone _
    · split
      · exact pairwise_ascending _
      · split
        · exact pairwise_ascending _
        · split
          · exact .nil
          · exact pairwise_ascending _

theorem mem_functions_of_mem_resolve {d : Declared} {caller target q : String}
    (h : q ∈ d.resolve caller target) : q ∈ d.functions := by
  have hnamed : ∀ name, q ∈ d.named .function name → q ∈ d.functions := by
    intro name hq
    simp only [named, List.mem_map, List.mem_filter, decide_eq_true_eq] at hq
    obtain ⟨s, ⟨hs, hkind, -⟩, rfl⟩ := hq
    exact mem_ids.mpr ⟨s, hs, hkind, rfl⟩
  have hdotted : (q ∈ if target.toList.contains '.' then d.endingWith target else []) →
      q ∈ d.functions := by
    intro hq
    split at hq
    · exact hnamed _ (List.mem_filter.mp hq).1
    · cases hq
  unfold resolve at h
  dsimp only at h
  split at h
  · rename_i hwhole
    obtain rfl := List.mem_singleton.mp h
    exact isFunction_iff.mp hwhole
  · split at h
    · rename_i method hown
      obtain rfl := List.mem_singleton.mp h
      exact mem_functions_of_ownMethod? hown
    · generalize (if target.toList.contains '.' then d.endingWith target else []) = dotted
        at h hdotted
      rw [mem_ascending_or, mem_ascending_or] at h
      split at h
      · split at h
        · split at h
          · cases h
          · exact hnamed _ (mem_ascending.mp h)
        · exact isFunction_iff.mp (List.mem_filter.mp h).2
      · exact hdotted h

theorem mem_edges {d : Declared} {calls : List RawCall} {e : CallEdge} :
    e ∈ d.edges calls ↔
      ∃ call ∈ calls, call.caller = e.caller ∧ e.callee ∈ d.resolve call.caller call.target := by
  simp only [edges, mem_distinct, List.mem_flatMap, List.mem_map]
  constructor
  · intro hgiven
    obtain ⟨call, hcall, callee, hcallee, rfl⟩ := hgiven
    exact ⟨call, hcall, rfl, hcallee⟩
  · intro hgiven
    obtain ⟨call, hcall, hcaller, hcallee⟩ := hgiven
    exact ⟨call, hcall, e.callee, hcallee, by rw [hcaller]⟩

theorem edges_append_singleton (d : Declared) (calls : List RawCall) (call : RawCall) :
    d.edges (calls ++ [call]) = d.edges calls ++
      ((d.resolve call.caller call.target).map (CallEdge.mk call.caller)).filter
        (· ∉ d.edges calls) := by
  have hnodup : ((d.resolve call.caller call.target).map (CallEdge.mk call.caller)).Nodup := by
    have hlt := pairwise_resolve d call.caller call.target
    refine List.Nodup.map (fun a b hab => (CallEdge.mk.inj hab).2) (hlt.imp fun h => ?_)
    exact ne_of_lt h
  unfold edges
  rw [List.flatMap_append, List.flatMap_singleton, distinct_append, distinct_eq_self hnodup]
  simp only [mem_distinct]

/-- Resolving is by components: a call gives exactly the functions of the first rule that gives
any, ascending, and adds the edges to those that are not there yet. -/
theorem resolve_by_components {d : Declared} (h : d.WellNamed) {caller : String}
    (hcaller : '.' ∈ caller.toList) (target : String) :
    (∀ q, q ∈ d.resolve caller target ↔
      FirstRule d.functions (rules (d.ids .classDef) caller target) q) ∧
    (d.resolve caller target).Pairwise (· < ·) ∧
    ∀ calls, d.edges (calls ++ [⟨caller, target⟩]) = d.edges calls ++
      ((d.resolve caller target).map (CallEdge.mk caller)).filter (· ∉ d.edges calls) :=
  ⟨mem_resolve h hcaller target, pairwise_resolve d caller target,
    fun calls => edges_append_singleton d calls ⟨caller, target⟩⟩

/-- In `m.A.run`, `self.save` means the method of `A` alone, and `save` means both methods. -/
theorem resolve_save :
    let d : Declared := ⟨[⟨.function, "save", "m.B.save"⟩, ⟨.function, "save", "m.A.save"⟩,
      ⟨.classDef, "A", "m.A"⟩, ⟨.function, "run", "m.A.run"⟩]⟩
    d.WellNamed ∧ '.' ∈ "m.A.run".toList ∧
      (∀ q, FirstRule d.functions (rules (d.ids .classDef) "m.A.run" "self.save") q
        ↔ q = "m.A.save") ∧
      FirstRule d.functions (rules (d.ids .classDef) "m.A.run" "save") "m.B.save" ∧
      d.edges [⟨"m.A.run", "self.save"⟩, ⟨"m.A.run", "save"⟩]
        = [⟨"m.A.run", "m.A.save"⟩, ⟨"m.A.run", "m.B.save"⟩] := by
  intro d
  have hnamed : d.WellNamed := by
    intro s hs
    obtain rfl | rfl | rfl | rfl : s = ⟨.function, "save", "m.B.save"⟩ ∨
        s = ⟨.function, "save", "m.A.save"⟩ ∨ s = ⟨.classDef, "A", "m.A"⟩ ∨
        s = ⟨.function, "run", "m.A.run"⟩ := by simpa [d] using hs
    all_goals decide
  have hcaller : '.' ∈ "m.A.run".toList := by decide
  obtain ⟨hown, -, -⟩ := resolve_by_components hnamed hcaller "self.save"
  obtain ⟨hboth, -, hedges⟩ := resolve_by_components hnamed hcaller "save"
  refine ⟨hnamed, hcaller, fun q => ?_, ?_, ?_⟩
  · rw [← hown, show d.resolve "m.A.run" "self.save" = ["m.A.save"] by decide +kernel]
    exact List.mem_singleton
  · exact (hboth "m.B.save").mp (by decide +kernel)
  · exact (hedges [⟨"m.A.run", "self.save"⟩]).trans (by decide +kernel)

end Declared

end TestImpact
