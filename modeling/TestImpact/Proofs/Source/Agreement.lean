import TestImpact.Proofs.Source.Definitions
import TestImpact.Source.Backend

/-
  What the two readers agree on.

  The first reader finds definitions at any depth, the second among the
  statements of the text and of the definitions that it has found. On a tree
  that is written as it is meant, the second therefore finds some of the
  functions that the first finds, in the same order (`AreAllIff.sublist`), and
  it finds all of them if and only if the statements are plain
  (`agreesWhenPlain_of_formed`). So a function that is defined under a condition
  parts the two.
-/

namespace TestImpact.Source

/-! ## Two lists of functions -/

/-- Some things are among others, in their order, and they are all of them under a condition. -/
structure AreAllIff {α : Type} (xs ys : List α) (condition : Prop) : Prop where
  sublist : xs.Sublist ys
  eq_iff : xs = ys ↔ condition

namespace AreAllIff

variable {α : Type} {xs ys xs' ys' : List α} {p q : Prop}

theorem nil : AreAllIff [] ys (ys = []) := ⟨List.nil_sublist ys, eq_comm⟩

theorem of_iff (h : AreAllIff xs ys p) (hpq : p ↔ q) : AreAllIff xs ys q :=
  ⟨h.sublist, h.eq_iff.trans hpq⟩

theorem append_left (zs : List α) (h : AreAllIff xs ys p) : AreAllIff (zs ++ xs) (zs ++ ys) p :=
  ⟨List.Sublist.append_left h.sublist zs, by rw [List.append_cancel_left_eq, h.eq_iff]⟩

theorem append (h : AreAllIff xs ys p) (h' : AreAllIff xs' ys' q) :
    AreAllIff (xs ++ xs') (ys ++ ys') (p ∧ q) := by
  refine ⟨h.sublist.append h'.sublist, ?_⟩
  rw [← h.eq_iff, ← h'.eq_iff]
  constructor
  · intro heq
    -- Neither part is longer than its counterpart, so both are as long.
    have hlength := congrArg List.length heq
    rw [List.length_append, List.length_append] at hlength
    have hle := h.sublist.length_le
    have hle' := h'.sublist.length_le
    exact ⟨h.sublist.eq_of_length (by omega), h'.sublist.eq_of_length (by omega)⟩
  · rintro ⟨rfl, rfl⟩
    rfl

end AreAllIff

/-! ## One tree, read in both ways -/

open TestImpact.Source.Tree Node

variable {file : String} {scope : List String}

/-- The functions that the second reader finds in a statement are among those that the first
finds, and they are all of them if and only if the statement is plain. -/
def Tree.AgreesWhenPlain (file : String) (scope : List String) (t : Tree) : Prop :=
  AreAllIff (definitionOutline file scope none t).functions
    ((ofTree t).outline file scope).functions (ofTree t).Plain

theorem areAllIff_statements {ts : List Tree} (h : ∀ t ∈ ts, t.AgreesWhenPlain file scope) :
    AreAllIff (outlineOf file scope ts).functions
      (allOutlines file scope (ts.map ofTree)).functions (∀ t ∈ ts, (ofTree t).Plain) := by
  induction ts with
  | nil => exact AreAllIff.nil.of_iff (by simp [allOutlines])
  | cons t ts ih =>
    obtain ⟨ht, hts⟩ := List.forall_mem_cons.mp h
    rw [List.map_cons, outlineOf, allOutlines, Outline.functions_append, Outline.functions_append,
      List.forall_mem_cons]
    exact ht.append (ih hts)

theorem agreesWhenPlain_of_kind {t : Tree} (h : isDefinition t.kind = false)
    (hplain : (ofTree t).Plain ↔ (ofTree t).definesFunction = false) :
    t.AgreesWhenPlain file scope := by
  have hnone : (definitionOutline file scope none t).functions = [] := by
    rw [definitionOutline_of_kind h, Outline.functions_empty]
  rw [AgreesWhenPlain, hnone]
  exact AreAllIff.nil.of_iff (by rw [functions_outline_eq_nil, hplain])

theorem agreesWhenPlain_of_ofTree {t : Tree} {row last row' : Nat} {kind : SymbolKind}
    {name : String} {decorators header statements : List Tree}
    (hmeant : ofTree t = .definition row last kind name (decorators.map ofTree)
      (header.map ofTree) [.other row' (statements.map ofTree)])
    (hlines : (ofTree t).lines? = some t.lines)
    (hdecorators : ∀ u ∈ decorators, u.IsExpression) (hheader : ∀ u ∈ header, u.IsExpression)
    (houtline : (definitionOutline file scope none t).functions =
      Outline.ownFunction kind (Text.dotted (scope ++ [name])) t.lines
        ++ (outlineOf file (scope ++ [name]) statements).functions)
    (hstatements : ∀ u ∈ statements, u.AgreesWhenPlain file (scope ++ [name])) :
    t.AgreesWhenPlain file scope := by
  rw [AgreesWhenPlain, hmeant, houtline]
  have hspan : spanOf row last (decorators.map ofTree) = t.lines := by
    rw [hmeant] at hlines
    exact Option.some.inj hlines
  have hbare : ∀ n ∈ decorators.map ofTree ++ header.map ofTree, n.definesFunction = false := by
    intro n hn
    rcases List.mem_append.mp hn with hn | hn
    · exact definesFunction_expressions hdecorators n hn
    · exact definesFunction_expressions hheader n hn
  have hnone : ∀ {us : List Tree}, (∀ u ∈ us, u.IsExpression) →
      (allOutlines file (scope ++ [name]) (us.map ofTree)).functions = [] := fun hus =>
    functions_allOutlines_eq_nil.mpr
      (anyDefinesFunction_eq_false.mpr (definesFunction_expressions hus))
  have hfunctions : ((Node.definition row last kind name (decorators.map ofTree)
        (header.map ofTree) [.other row' (statements.map ofTree)]).outline file scope).functions
      = Outline.ownFunction kind (Text.dotted (scope ++ [name])) t.lines
        ++ (allOutlines file (scope ++ [name]) (statements.map ofTree)).functions := by
    simp [outline, allOutlines, Outline.functions_singleton, hnone hdecorators, hnone hheader,
      hspan]
  rw [hfunctions, plain_definition hbare, List.forall_mem_map]
  exact (areAllIff_statements hstatements).append_left _

theorem agreesWhenPlain_of_formed {t : Tree} (h : t.Formed) :
    t.WrittenAsMeant → ∀ file scope, t.AgreesWhenPlain file scope := by
  -- By the way the tree is formed: only definitions have statements that both readers look into.
  induction h with
  | bare h =>
    intro _ file scope
    exact agreesWhenPlain_of_kind h.kind ⟨fun _ => definesFunction_ofTree h, .other⟩
  | @statements t hkind _ _ =>
    intro _ file scope
    obtain ⟨k, l, text, first, last, children⟩ := t
    obtain rfl | rfl : k = .other ∨ k = .block := hkind
    · exact agreesWhenPlain_of_kind rfl plain_other
    · exact agreesWhenPlain_of_kind rfl plain_other
  | @definition t kind name header block h _ ih =>
    intro hwritten file scope
    have hmeant : ofTree t = .definition t.first t.last kind name.text ([].map ofTree)
        (header.map ofTree) [.other block.first (block.children.map ofTree)] := by
      rw [h.ofTree_eq, h.composedName_eq hwritten, List.map_nil]
    have hlines := hwritten.lines t (self_mem_subtrees t) (isDefinition_of_symbolKind? h.kind)
    exact agreesWhenPlain_of_ofTree hmeant hlines nofun h.header
      (h.functions_definitionOutline none) fun u hu => ih u hu (h.written_of_mem hwritten hu) _ _
  | @decorated t definition decorators kind name header block hkind hchildren hdecorators hlabel h
      _ ih =>
    intro hwritten file scope
    have hinner : definition.WrittenAsMeant := hwritten.of_mem (by simp [hchildren])
    have hmeant : ofTree t = .definition definition.first definition.last kind name.text
        (decorators.map ofTree) (header.map ofTree)
        [.other block.first (block.children.map ofTree)] := by
      rw [ofTree_decorated hkind hchildren, h.ofTree_eq, h.composedName_eq hinner, decorate,
        List.append_nil]
    have hlines := hwritten.lines t (self_mem_subtrees t) (by rw [hkind]; rfl)
    refine agreesWhenPlain_of_ofTree hmeant hlines hdecorators h.header ?_
      fun u hu => ih u hu (h.written_of_mem hinner hu) _ _
    rw [definitionOutline_decorated hkind hchildren hdecorators hlabel]
    exact h.functions_definitionOutline (some t)

/-! ## Comparing trees by evaluation -/

namespace Node

mutual

def same : Node → Node → Bool
  | name row id, name row' id' => row = row' && id = id'
  | member row value attr, member row' value' attr' =>
    row = row' && same value value' && attr = attr'
  | call row callee arguments, call row' callee' arguments' =>
    row = row' && same callee callee' && allSame arguments arguments'
  | definition row last kind id decorators header body,
      definition row' last' kind' id' decorators' header' body' =>
    row = row' && last = last' && kind = kind' && id = id' && allSame decorators decorators'
      && allSame header header' && allSame body body'
  | other row ps, other row' ps' => row = row' && allSame ps ps'
  | _, _ => false

def allSame : List Node → List Node → Bool
  | [], [] => true
  | m :: ms, n :: ns => same m n && allSame ms ns
  | _, _ => false

end

mutual

theorem same_iff : ∀ {m n : Node}, same m n = true ↔ m = n
  | .name _ _, n => by cases n <;> simp [same]
  | .member _ _ _, n => by cases n <;> simp [same, same_iff, and_assoc]
  | .call _ _ _, n => by cases n <;> simp [same, same_iff, allSame_iff, and_assoc]
  | .definition .., n => by cases n <;> simp [same, allSame_iff, and_assoc]
  | .other _ _, n => by cases n <;> simp [same, allSame_iff]

theorem allSame_iff : ∀ {ms ns : List Node}, allSame ms ns = true ↔ ms = ns
  | [], ns => by cases ns <;> simp [allSame]
  | m :: ms, ns => by cases ns <;> simp [allSame, same_iff, allSame_iff]

end

instance : DecidableEq Node := fun _ _ => decidable_of_iff _ same_iff

end Node

instance (t : Tree) : Decidable t.WrittenAsMeant :=
  decidable_of_iff ((∀ u ∈ t.subtrees, u.label = some .name → composedName u.text = u.text) ∧
      ∀ u ∈ t.subtrees, isDefinition u.kind = true → (ofTree u).lines? = some u.lines)
    ⟨fun h => ⟨h.1, h.2⟩, fun h => ⟨h.names, h.lines⟩⟩

/-! ## The two readers -/

/-- **The readers agree on plain texts, and on no others.** If both dialects read a text, their
trees mean the same and definitions are written as they are meant, then the second reader finds
functions only that the first finds, with their names and lines. It finds all of them if and only
if every function stands among the statements of the text or of a definition that is found. -/
theorem read_agree_iff {text : List Char} {strict tolerant : Tree} (hnul : '\x00' ∉ text)
    (hstrict : Tree.ofText? .strict text = some strict)
    (htolerant : Tree.ofText? .tolerant text = some tolerant)
    (hsame : ofTree strict = ofTree tolerant) (hwritten : tolerant.WrittenAsMeant)
    (moduleName file : String) :
    ∃ o o', read .ast text moduleName file = .ok (o, []) ∧
      read .treeSitter text moduleName file
        = .ok (o', if tolerant.isDamaged then [.damaged file] else []) ∧
      o'.functions.Sublist o.functions ∧
      (o'.functions = o.functions ↔ ∀ n ∈ (ofTree strict).parts, n.Plain) := by
  have hread : read .ast text moduleName file
      = .ok ((ofTree tolerant).outline file (moduleScope moduleName), []) := by
    simp [read, readStrict, hnul, hstrict, hsame]
  have hread' : read .treeSitter text moduleName file
      = .ok (tolerant.childrenOutline file (moduleScope moduleName),
        if tolerant.isDamaged then [.damaged file] else []) := by
    simp [read, readTolerant, htolerant]
  refine ⟨_, _, hread, hread', ?_⟩
  rw [hsame]
  obtain ⟨last, statements, rfl, hformed⟩ := Tree.formed_ofText? htolerant
  have hmeant : ofTree (.node .other none "" 0 last statements)
      = .other 0 (statements.map ofTree) := by
    simp [ofTree, ofTrees_eq_map, ofParts]
  have hall := areAllIff_statements fun t ht =>
    agreesWhenPlain_of_formed (hformed t ht) (hwritten.of_mem ht) file (moduleScope moduleName)
  rw [hmeant]
  refine ⟨hall.sublist, hall.eq_iff.trans ?_⟩
  exact List.forall_mem_map.symm

/-- Functions with a decorator, inside a function and inside a class: both readers find all. -/
theorem read_agree_nested :
    let text := "@d\ndef f():\n def g(): 0\nclass C:\n async def m(x): 0".toList
    '\x00' ∉ text ∧ ∃ strict tolerant o o',
      Tree.ofText? .strict text = some strict ∧ Tree.ofText? .tolerant text = some tolerant ∧
      ofTree strict = ofTree tolerant ∧ tolerant.WrittenAsMeant ∧
      read .ast text "m" "m.py" = .ok (o, []) ∧ read .treeSitter text "m" "m.py" = .ok (o', []) ∧
      o'.functions = o.functions ∧ ∀ n ∈ (ofTree strict).parts, n.Plain := by
  intro text
  have hnul : '\x00' ∉ text := by decide +kernel
  have htrees : (Tree.ofText? .strict text).isSome = true ∧
      (Tree.ofText? .tolerant text).isSome = true ∧
      (Tree.ofText? .strict text).map ofTree = (Tree.ofText? .tolerant text).map ofTree ∧
      (∀ t ∈ Tree.ofText? .tolerant text, t.WrittenAsMeant) ∧
      (∀ t ∈ Tree.ofText? .tolerant text, t.isDamaged = false) ∧
      (read .ast text "m" "m.py").map (·.1.functions)
        = (read .treeSitter text "m" "m.py").map (·.1.functions) := by decide +kernel
  obtain ⟨hstrict, htolerant, hsame, hwritten, hsound, hfunctions⟩ := htrees
  obtain ⟨strict, hstrict⟩ := Option.isSome_iff_exists.mp hstrict
  obtain ⟨tolerant, htolerant⟩ := Option.isSome_iff_exists.mp htolerant
  rw [hstrict, htolerant] at hsame
  have hsame : ofTree strict = ofTree tolerant := Option.some.inj hsame
  have hwritten := hwritten tolerant htolerant
  obtain ⟨o, o', hread, hread', -, hplain⟩ :=
    read_agree_iff hnul hstrict htolerant hsame hwritten "m" "m.py"
  rw [hsound tolerant htolerant] at hread'
  rw [hread, hread'] at hfunctions
  have hagree : o'.functions = o.functions := (Except.ok.inj hfunctions).symm
  exact ⟨hnul, strict, tolerant, o, o', hstrict, htolerant, hsame, hwritten, hread, hread',
    hagree, hplain.mp hagree⟩

/-- The first reader finds a function that is defined under a condition, and the second does not,
though the text has no fault for either. -/
theorem read_conditional_definition :
    let text := "if x:\n    def f():\n        pass\n".toList
    ∃ o, read .ast text "m" "m.py" = .ok (o, []) ∧
      o.functions = [("m.f", ⟨2, 3, by decide, by decide⟩)] ∧
      read .treeSitter text "m" "m.py" = .ok (.empty, []) := by
  intro text
  let d : Declaration := ⟨⟨.function, "f", "m.f"⟩, "m.py", ⟨2, 3, by decide, by decide⟩⟩
  exact ⟨⟨[d], []⟩, by decide +kernel, rfl, by decide +kernel⟩

end TestImpact.Source
