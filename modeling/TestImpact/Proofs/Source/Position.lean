import TestImpact.Resolution

/-
  Positions in trees, and what is found at them.

  A position says which child to go to, from the root on. Positions are ordered
  as lists: a position comes before those below it, and what lies below one
  child comes before what lies below a later one. So the order of positions is
  the pre-order of a tree.

  `Enumerates before value ys P` says that `ys` are the values of exactly the
  things with the property `P`, in the order `before`. There is one rule for
  each way in which a walk puts lists together: nothing, one thing, one list
  after another, and a list for each child.
-/

namespace TestImpact.Source

/-- A position in a tree: the numbers of the children on the way from the root. -/
abbrev Position := List Nat

theorem Position.append_lt_append (p : Position) {q q' : Position} (h : q < q') :
    p ++ q < p ++ q' := by
  induction p with
  | nil => exact h
  | cons i p ih => exact List.cons_lt_cons_iff.mpr (.inr ⟨rfl, ih⟩)

theorem Position.lt_append (p : Position) {q : Position} (h : q ≠ []) : p < p ++ q := by
  obtain ⟨i, q, rfl⟩ := List.exists_cons_of_ne_nil h
  have hlt := Position.append_lt_append p (List.nil_lt_cons i q)
  rwa [List.append_nil] at hlt

/-! ## Enumerations -/

/-- The values are those of the things with a property, in an order; if the order is strict, each
thing is there once. -/
def Enumerates {σ β : Type} (before : σ → σ → Prop) (value : σ → β) (ys : List β) (P : σ → Prop) :
    Prop :=
  ∃ xs : List σ, xs.Pairwise before ∧ (∀ s, s ∈ xs ↔ P s) ∧ ys = xs.map value

/-- Things are put under the children of a node: their values and their order stay, and what is
under an earlier child comes before what is under a later one. -/
structure PutsUnder {σ β : Type} (before : σ → σ → Prop) (value : σ → β) (under : Nat → σ → σ) :
    Prop where
  value : ∀ i s, value (under i s) = value s
  kept : ∀ i {s t}, before s t → before (under i s) (under i t)
  lt : ∀ {i j}, i < j → ∀ s t, before (under i s) (under j t)

/-- Things are put under a node at a position, and so on from further up. -/
structure PutsBelow {σ β : Type} (before : σ → σ → Prop) (value : σ → β)
    (below : Position → σ → σ) : Prop where
  under : PutsUnder before value fun i => below [i]
  value : ∀ p s, value (below p s) = value s
  kept : ∀ p {s t}, before s t → before (below p s) (below p t)
  append : ∀ p q s, below p (below q s) = below (p ++ q) s

namespace Enumerates

variable {σ τ β γ ι : Type} {before : σ → σ → Prop} {value : σ → β} {ys zs : List β}
  {P Q : σ → Prop}

theorem of_iff (h : Enumerates before value ys P) (hPQ : ∀ s, P s ↔ Q s) :
    Enumerates before value ys Q := by
  obtain ⟨xs, hxs, hmem, rfl⟩ := h
  exact ⟨xs, hxs, fun s => (hmem s).trans (hPQ s), rfl⟩

theorem value_mem (h : Enumerates before value ys P) {s : σ} (hs : P s) : value s ∈ ys := by
  obtain ⟨xs, -, hmem, rfl⟩ := h
  exact List.mem_map_of_mem ((hmem s).mpr hs)

theorem nil : Enumerates before value [] fun _ => False :=
  ⟨[], .nil, fun _ => List.mem_nil_iff _, rfl⟩

theorem singleton (s : σ) : Enumerates before value [value s] (· = s) :=
  ⟨[s], List.pairwise_singleton _ _, fun _ => List.mem_singleton, rfl⟩

theorem append (h : Enumerates before value ys P) (h' : Enumerates before value zs Q)
    (hbefore : ∀ s t, P s → Q t → before s t) :
    Enumerates before value (ys ++ zs) fun s => P s ∨ Q s := by
  obtain ⟨xs, hxs, hmem, rfl⟩ := h
  obtain ⟨xs', hxs', hmem', rfl⟩ := h'
  refine ⟨xs ++ xs', ?_, fun s => ?_, (List.map_append ..).symm⟩
  · exact List.pairwise_append.mpr ⟨hxs, hxs', fun s hs t ht =>
      hbefore s t ((hmem s).mp hs) ((hmem' t).mp ht)⟩
  · rw [List.mem_append, hmem, hmem']

theorem ite {c : Prop} [Decidable c] (h : Enumerates before value ys P) :
    Enumerates before value (if c then ys else []) fun s => c ∧ P s := by
  by_cases hc : c
  · rw [if_pos hc]
    exact h.of_iff fun s => (and_iff_right hc).symm
  · rw [if_neg hc]
    exact nil.of_iff fun s => iff_of_false id fun hs => hc hs.1

theorem map {before' : τ → τ → Prop} {value' : τ → γ} (h : Enumerates before value ys P)
    (e : σ → τ) (g : β → γ) (hvalue : ∀ s, value' (e s) = g (value s))
    (hbefore : ∀ s t, before s t → before' (e s) (e t)) :
    Enumerates before' value' (ys.map g) fun t => ∃ s, P s ∧ e s = t := by
  obtain ⟨xs, hxs, hmem, rfl⟩ := h
  refine ⟨xs.map e, List.Pairwise.map e hbefore hxs, fun t => ?_, ?_⟩
  · simp only [List.mem_map, hmem]
  · simp [Function.comp_def, hvalue]

theorem below {below : Position → σ → σ} (hbelow : PutsBelow before value below)
    (h : Enumerates before value ys P) (p : Position) :
    Enumerates before value ys fun t => ∃ s, P s ∧ below p s = t := by
  have hmoved : Enumerates before value (ys.map id) fun t => ∃ s, P s ∧ below p s = t :=
    h.map (below p) id (hbelow.value p) fun s t => hbelow.kept p
  rwa [List.map_id] at hmoved

theorem children {under : Nat → σ → σ} (hunder : PutsUnder before value under) {cs : List ι}
    {f : ι → List β} {P : ι → σ → Prop} (h : ∀ c ∈ cs, Enumerates before value (f c) (P c)) :
    Enumerates before value (cs.flatMap f) fun s =>
      ∃ i c t, cs[i]? = some c ∧ P c t ∧ under i t = s := by
  induction cs generalizing under with
  | nil => exact nil.of_iff (by simp)
  | cons c cs ih =>
    obtain ⟨hc, hcs⟩ := List.forall_mem_cons.mp h
    have hfirst : Enumerates before value (f c) fun s => ∃ t, P c t ∧ under 0 t = s := by
      simpa using hc.map (under 0) id (hunder.value 0) fun s t => hunder.kept 0
    have hlater : PutsUnder before value fun i => under (i + 1) :=
      ⟨fun i => hunder.value (i + 1), fun i => hunder.kept (i + 1),
        fun hij => hunder.lt (Nat.succ_lt_succ hij)⟩
    rw [List.flatMap_cons]
    refine (hfirst.append (ih hlater hcs) ?_).of_iff fun s => ?_
    · rintro s t ⟨s', -, rfl⟩ ⟨i, -, t', -, -, rfl⟩
      exact hunder.lt (Nat.succ_pos i) s' t'
    · constructor
      · rintro (⟨t, ht, rfl⟩ | ⟨i, d, t, hd, ht, rfl⟩)
        · exact ⟨0, c, t, rfl, ht, rfl⟩
        · exact ⟨i + 1, d, t, hd, ht, rfl⟩
      · rintro ⟨i, d, t, hd, ht, rfl⟩
        cases i with
        | zero =>
          obtain rfl : c = d := Option.some.inj hd
          exact .inl ⟨t, ht, rfl⟩
        | succ i => exact .inr ⟨i, d, t, hd, ht, rfl⟩

end Enumerates

/-! ## What is found in a tree -/

/-- Something that is found at a position. -/
structure Found (β : Type) where
  position : Position
  value : β

namespace Found

variable {β : Type}

/-- The positions are in pre-order. -/
def Before (s t : Found β) : Prop := s.position < t.position

theorem Before.position_ne {s t : Found β} (h : s.Before t) : s.position ≠ t.position := by
  intro heq
  rw [Before, heq] at h
  exact List.lt_irrefl t.position h

/-- What is found in a subtree, seen from further up. -/
def below (p : Position) (s : Found β) : Found β := ⟨p ++ s.position, s.value⟩

theorem Before.below {s t : Found β} (h : s.Before t) (p : Position) :
    (s.below p).Before (t.below p) :=
  Position.append_lt_append p h

/-- What is found in a child, seen from its node. -/
def under (i : Nat) (s : Found β) : Found β := ⟨i :: s.position, s.value⟩

theorem putsUnder : PutsUnder (Before (β := β)) value under where
  value _ _ := rfl
  kept i _ _ h := h.below [i]
  lt hij _ _ := List.cons_lt_cons_iff.mpr (.inl hij)

theorem putsBelow : PutsBelow (Before (β := β)) value below where
  under := putsUnder
  value _ _ := rfl
  kept p _ _ h := h.below p
  append p q s := congrArg (mk · s.value) (List.append_assoc p q s.position).symm

theorem enumerates_node {ι : Type} {o : Option β} {cs : List ι} {f : ι → List β}
    {P : ι → Found β → Prop} {Q : Found β → Prop}
    (h : ∀ c ∈ cs, Enumerates Before value (f c) (P c)) (hroot : ∀ v, Q ⟨[], v⟩ ↔ o = some v)
    (hunder : ∀ i p v, Q ⟨i :: p, v⟩ ↔ ∃ c, cs[i]? = some c ∧ P c ⟨p, v⟩) :
    Enumerates Before value (o.toList ++ cs.flatMap f) Q := by
  have hown : Enumerates Before value o.toList fun s => ∃ v, o = some v ∧ s = ⟨[], v⟩ := by
    cases o with
    | none => exact Enumerates.nil.of_iff (by simp)
    | some v =>
      have hone : Enumerates Before value [v] (· = ⟨[], v⟩) :=
        Enumerates.singleton (⟨[], v⟩ : Found β)
      exact hone.of_iff (by simp)
  refine (hown.append (Enumerates.children putsUnder h) ?_).of_iff fun s => ?_
  · rintro s t ⟨v, -, rfl⟩ ⟨i, c, t', -, -, rfl⟩
    exact List.nil_lt_cons i t'.position
  · obtain ⟨position, v⟩ := s
    cases position with
    | nil => simp [hroot, under]
    | cons i p =>
      rw [hunder]
      constructor
      · rintro (⟨v, -, hv⟩ | ⟨j, c, t, hc, ht, heq⟩)
        · cases hv
        · cases heq
          exact ⟨c, hc, ht⟩
      · rintro ⟨c, hc, ht⟩
        exact .inr ⟨i, c, ⟨p, v⟩, hc, ht, rfl⟩

end Found

/-- The part of a definition that a child belongs to; children of other nodes are just inside. -/
inductive Part where
  | inside
  | header
  | decorator
  | body
  deriving DecidableEq

/-- A call that counts for a function: the position of the function, the part of it that
the call stands in, the position of the call, and what is recorded. -/
structure CallSite where
  owner : Position
  part : Part
  position : Position
  call : RawCall

namespace CallSite

/-- Calls come function by function in pre-order; those of one function come from its decorators
first and then from its body, each in pre-order. -/
def Before (s t : CallSite) : Prop :=
  s.owner < t.owner ∨ s.owner = t.owner ∧
    (s.part = .decorator ∧ t.part = .body ∨ s.part = t.part ∧ s.position < t.position)

/-- One call comes before another one, at another position. -/
def Apart (s t : CallSite) : Prop := s.position ≠ t.position ∧ s.Before t

/-- A call in a subtree, seen from further up. -/
def below (p : Position) (s : CallSite) : CallSite :=
  { s with owner := p ++ s.owner, position := p ++ s.position }

theorem Apart.below {s t : CallSite} (h : s.Apart t) (p : Position) :
    (s.below p).Apart (t.below p) := by
  refine ⟨fun heq => h.1 (List.append_cancel_left heq), ?_⟩
  rcases h.2 with howner | ⟨howner, hlater⟩
  · exact .inl (Position.append_lt_append p howner)
  · exact .inr ⟨congrArg (p ++ ·) howner, hlater.imp_right fun ⟨hpart, hlt⟩ =>
      ⟨hpart, Position.append_lt_append p hlt⟩⟩

/-- A call in a child, seen from its node. -/
def under (i : Nat) (s : CallSite) : CallSite :=
  { s with owner := i :: s.owner, position := i :: s.position }

theorem putsUnder : PutsUnder Apart call under where
  value _ _ := rfl
  kept i _ _ h := h.below [i]
  lt hij _ _ := by
    refine ⟨fun heq => ?_, .inl (List.cons_lt_cons_iff.mpr (.inl hij))⟩
    have hhead := (List.cons.inj heq).1
    omega

theorem putsBelow : PutsBelow Apart call below where
  under := putsUnder
  value _ _ := rfl
  kept p _ _ h := h.below p
  append p q s := by simp [below]

end CallSite

theorem Enumerates.callSites {calls : List RawCall} {P : CallSite → Prop}
    (h : Enumerates CallSite.Apart CallSite.call calls P) :
    ∃ sites : List CallSite, (sites.map (·.position)).Nodup ∧ sites.Pairwise CallSite.Before ∧
      (∀ s, s ∈ sites ↔ P s) ∧ calls = sites.map (·.call) := by
  obtain ⟨sites, hapart, hmem, hcalls⟩ := h
  refine ⟨sites, ?_, hapart.imp fun h => h.2, hmem, hcalls⟩
  exact List.pairwise_map.mpr (hapart.imp fun h => h.1)

end TestImpact.Source
