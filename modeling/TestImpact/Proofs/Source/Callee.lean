import TestImpact.Proofs.Source.Yields
import TestImpact.Proofs.Text.Composed
import TestImpact.Proofs.Text.Dotted
import TestImpact.Source.Expression
import TestImpact.Source.Node
import TestImpact.Source.TreeOutline

/-
  The names of callees.

  A callee outside of parentheses is a name, an attribute or a call of a
  callee, or something else that has no name (`Callee`). It is written as a tree
  (`Callee.Form`), from which one reader takes the name as it is written and the
  other one as it is meant.

    1. Both names are the names in the callee from left to right, with dots
       between; the second reader spells each as it is written, the first one in
       composed form (`Form.callName?_tree`, `Form.callName?_ofTree`, `answer?_eq`).
    2. So both readers miss the same callees: those which, without the calls at
       their ends, are something else. Otherwise the last component is the name or
       the attribute that is outermost then; and the readers agree if and only if
       every name is in composed form (`callee_name_agree_iff`).
    3. Whatever the rule for primary expressions reads, in either dialect, is such
       a form, or it begins with something in parentheses (`Grammar.yields_callee`).
-/

namespace TestImpact.Source

/-- What is called, outside of parentheses. What is neither a name nor an attribute nor a call is
`other`; arguments do not matter. -/
inductive Callee where
  | name (id : String)
  | member (value : Callee) (attr : String)
  | call (callee : Callee)
  | other
  deriving DecidableEq, Repr

/-- Whether a kind is that of an expression without a name: no name, attribute or call, and
nothing that only stands around another expression. -/
def Kind.isOther (k : Kind) : Bool :=
  !([.identifier, .member, .call, .group, .decorator] : List Kind).contains k

namespace Callee

/-- A callee without the calls at its end. -/
def called : Callee → Callee
  | call c => c.called
  | c => c

/-- The name or the attribute that a callee is. -/
def outermost? : Callee → Option String
  | name id => some id
  | member _ attr => some attr
  | _ => none

/-- The names in a callee, from left to right. -/
def names : Callee → List String
  | name id => [id]
  | member value attr => value.names ++ [attr]
  | call c => c.names
  | other => []

/-- A tree is a written form of a callee, with any arguments and at any place. -/
inductive Form : Callee → Tree → Prop
  | name {l id first last} : Form (.name id) (.node .identifier l id first last [])
  | member {value : Callee} {t : Tree} {attr l text first last first' last'} : value.Form t →
    Form (.member value attr) (.node .member l text first last
      [t.labelled .object, .node .identifier (some .member) attr first' last' []])
  | call {c : Callee} {t arguments : Tree} {l text first last} : c.Form t →
    Form (.call c) (.node .call l text first last [t.labelled .function, arguments])
  | other {t : Tree} : t.kind.isOther = true → Form .other t

end Callee

/-! ## The name that is taken -/

/-- A name with an attribute behind it, or the attribute alone. -/
def extended : Option String → String → Option String
  | some s, attr => some (s ++ "." ++ attr)
  | none, attr => some attr

namespace Tree

theorem label_labelled (t : Tree) (l : Label) : (t.labelled l).label = some l := by
  cases t
  rfl

theorem callName?_labelled (t : Tree) (l : Label) : (t.labelled l).callName? = t.callName? := by
  cases t
  rfl

theorem callName?_member {t : Tree} {attr text l first last first' last'} :
    (node .member l text first last
      [t.labelled .object, .node .identifier (some .member) attr first' last' []]).callName?
        = extended t.callName? attr := by
  have hobject := t.callName?_labelled .object
  have hlabel := t.label_labelled .object
  simp only [callName?, callNameOf?, textOf?, hlabel, hobject]
  cases t.callName? with
  | none => rfl
  | some s => rfl

theorem callName?_call {t arguments : Tree} {l text first last} :
    (node .call l text first last [t.labelled .function, arguments]).callName?
      = unlessEmpty t.callName? := by
  simp only [callName?, callNameOf?, label_labelled, callName?_labelled, if_true]

end Tree

namespace Node

theorem ofTree_labelled (t : Tree) (l : Label) : ofTree (t.labelled l) = ofTree t := by
  cases t
  rfl

theorem ofTree_member {t : Tree} {attr text l first last first' last'} :
    ofTree (.node .member l text first last
      [t.labelled .object, .node .identifier (some .member) attr first' last' []])
        = .member first (ofTree t) (composedName attr) := by
  rw [← ofTree_labelled t .object]
  rfl

theorem ofTree_call {t arguments : Tree} {l text first last} :
    ofTree (.node .call l text first last [t.labelled .function, arguments])
      = .call first (ofTree t) (ofTree arguments).parts := by
  rw [← ofTree_labelled t .function]
  rfl

theorem callName?_member {row : Nat} {value : Node} {attr : String} :
    (member row value attr).callName? = extended value.callName? attr := by
  rw [callName?]
  cases value.callName? with
  | none => rfl
  | some s => rfl

theorem callName?_decorate (ds : List Node) (n : Node) : (decorate ds n).callName? = none := by
  cases n <;> rfl

theorem callName?_ofParts {k : Kind} (hk : k.isOther = true) (text : String) (first last : Nat)
    (ns : List (Kind × Node)) : (ofParts k text first last ns).callName? = none := by
  unfold ofParts
  cases k with
  | identifier | member | call | group | decorator => cases hk
  | decoratedDefinition =>
    dsimp only
    split
    · exact callName?_decorate _ _
    · rfl
  | conditional =>
    dsimp only
    split <;> rfl
  | _ => rfl

end Node

namespace Callee

variable {e : Callee} {t t' : Tree}

/-- What a reader answers for a callee if it spells names in a certain way. -/
def answer? (spell : String → String) : Callee → Option String
  | name id => some (spell id)
  | member value attr => extended (value.answer? spell) (spell attr)
  | call c => unlessEmpty (c.answer? spell)
  | other => none

theorem Form.callName?_tree (h : e.Form t) : t.callName? = e.answer? id := by
  induction h with
  | name => rfl
  | member _ ih => rw [Tree.callName?_member, ih, answer?, id]
  | call _ ih => rw [Tree.callName?_call, ih, answer?]
  | @other t hkind =>
    obtain ⟨k, l, text, first, last, children⟩ := t
    have hk : k.isOther = true := hkind
    cases k with
    | identifier | member | call | group | decorator => cases hk
    | _ => rfl

theorem Form.callName?_ofTree (h : e.Form t) :
    (Node.ofTree t).callName? = e.answer? Node.composedName := by
  induction h with
  | name => rfl
  | member _ ih => rw [Node.ofTree_member, Node.callName?_member, ih, answer?]
  | call _ ih => rw [Node.ofTree_call, Node.callName?, ih, answer?]
  | @other t hkind =>
    cases t
    exact Node.callName?_ofParts hkind _ _ _ _

/-- Some names with dots between, unless there are none. -/
def dotted? (names : List String) : Option String :=
  if names = [] then none else some (Text.dotted names)

theorem dotted?_concat (ns : List String) (n : String) :
    dotted? (ns ++ [n]) = extended (dotted? ns) n := by
  by_cases hns : ns = []
  · subst hns
    rfl
  · have hjoined : Text.dotted (ns ++ [n]) = Text.dotted ns ++ "." ++ n :=
      Text.joined_append hns (List.cons_ne_nil n [])
    simp [dotted?, hns, hjoined, extended]

theorem unlessEmpty_dotted? {ns : List String} (h : ∀ n ∈ ns, n ≠ "") :
    unlessEmpty (dotted? ns) = dotted? ns := by
  by_cases hns : ns = []
  · subst hns
    rfl
  · simp [unlessEmpty, dotted?, hns, Text.dotted_ne_empty hns h]

theorem answer?_eq {spell : String → String} (h : ∀ n ∈ e.names, spell n ≠ "") :
    e.answer? spell = dotted? (e.names.map spell) := by
  induction e with
  | name => rfl
  | member value attr ih =>
    rw [names, List.forall_mem_append] at h
    rw [answer?, names, List.map_append, List.map_singleton, dotted?_concat, ih h.1]
  | call c ih =>
    rw [answer?, names, ih h]
    exact unlessEmpty_dotted? (List.forall_mem_map.mpr h)
  | other => rfl

theorem names_eq_nil_iff : e.names = [] ↔ e.called = .other := by
  induction e with
  | name => simp [names, called]
  | member => simp [names, called]
  | call c ih => exact ih
  | other => simp [names, called]

theorem getLast?_names : e.names.getLast? = e.called.outermost? := by
  induction e with
  | name => rfl
  | member => simp [names, called, outermost?]
  | call c ih => exact ih
  | other => rfl

end Callee

/-! ## Where the readers agree -/

theorem length_le_length_flatMap {α : Type} {f : α → List α} (hf : ∀ a, f a ≠ []) (l : List α) :
    l.length ≤ (l.flatMap f).length := by
  induction l with
  | nil => exact Nat.zero_le 0
  | cons a l ih =>
    have hone := List.length_pos_iff.mpr (hf a)
    rw [List.flatMap_cons, List.length_append, List.length_cons]
    omega

/-- If members are replaced by one or more and the list stays the same, then each stays. -/
theorem eq_singleton_of_flatMap_eq {α : Type} {f : α → List α} (hf : ∀ a, f a ≠ []) {l : List α}
    (h : l.flatMap f = l) : ∀ a ∈ l, f a = [a] := by
  induction l with
  | nil => nofun
  | cons a l ih =>
    obtain ⟨b, bs, hb⟩ := List.exists_cons_of_ne_nil (hf a)
    rw [List.flatMap_cons, hb, List.cons_append] at h
    obtain ⟨rfl, hrest⟩ := List.cons.inj h
    -- What replaces the rest is as long as the rest at least, so nothing is left for `bs`.
    have hlength := congrArg List.length hrest
    rw [List.length_append] at hlength
    have hle := length_le_length_flatMap hf l
    obtain rfl : bs = [] := List.length_eq_zero_iff.mp (by omega)
    exact List.forall_mem_cons.mpr ⟨hb, ih hrest⟩

/-- Names that are spelled in another way make another dotted name. -/
theorem eq_of_dotted_map_eq {spell : String → String} {ns : List String}
    (hns : ∀ n ∈ ns, Text.IsComponent n) (h : Text.dotted (ns.map spell) = Text.dotted ns) :
    ∀ n ∈ ns, spell n = n := by
  intro n hn
  have hne : ns ≠ [] := List.ne_nil_of_mem hn
  have hcomponents : ns.flatMap (fun n => Text.components (spell n)) = ns := by
    rw [← List.flatMap_map, ← Text.components_dotted (by simpa using hne), h,
      Text.components_of_forall hne hns]
  have hone :=
    eq_singleton_of_flatMap_eq (fun n => Text.components_ne_nil (spell n)) hcomponents n hn
  rw [← Text.dotted_components (spell n), hone]
  rfl

theorem Node.composedName_ne_empty {s : String} (h : s ≠ "") : composedName s ≠ "" := by
  have hchars : s.toList ≠ [] := fun hnil => h (String.toList_eq_nil_iff.mp hnil)
  intro hempty
  have hcomposed := congrArg String.toList hempty
  rw [composedName, String.toList_ofList] at hcomposed
  exact Text.composed_ne_nil hchars hcomposed

/-- **Two readers of one callee.** Let a callee be written in two forms. Each reader finds no name
if and only if the callee, without the calls at its end, is something without a name; otherwise the
last component of the name as it is written is the name or the attribute that is outermost then.
The readers find the same if and only if all names in the callee are in composed form. -/
theorem callee_name_agree_iff {e : Callee} (he : ∀ n ∈ e.names, Text.IsComponent n) {t t' : Tree}
    (h : e.Form t) (h' : e.Form t') :
    ((Node.ofTree t).callName? = none ↔ e.called = .other) ∧
      (t'.callName? = none ↔ e.called = .other) ∧
      (∀ s, t'.callName? = some s → e.called.outermost? = some (Text.simpleName s)) ∧
      ((Node.ofTree t).callName? = t'.callName? ↔ ∀ n ∈ e.names, Node.composedName n = n) := by
  have hmeant : (Node.ofTree t).callName? = Callee.dotted? (e.names.map Node.composedName) :=
    h.callName?_ofTree.trans
      (Callee.answer?_eq fun n hn => Node.composedName_ne_empty (he n hn).1)
  have hwritten : t'.callName? = Callee.dotted? e.names := by
    have hanswer : e.answer? id = Callee.dotted? (e.names.map id) :=
      Callee.answer?_eq fun n hn => (he n hn).1
    rw [h'.callName?_tree, hanswer, List.map_id]
  have hnone : ∀ ns : List String, Callee.dotted? ns = none ↔ ns = [] := by
    intro ns
    simp [Callee.dotted?]
  rw [hmeant, hwritten, hnone, hnone, List.map_eq_nil_iff, Callee.names_eq_nil_iff]
  refine ⟨Iff.rfl, Iff.rfl, fun s hs => ?_, fun heq => ?_, fun hcomposed => ?_⟩
  · by_cases hne : e.names = []
    · simp [Callee.dotted?, hne] at hs
    · obtain rfl : Text.dotted e.names = s := by simpa [Callee.dotted?, hne] using hs
      rw [← Callee.getLast?_names, ← Text.getLast?_components, Text.components_of_forall hne he]
  · by_cases hne : e.names = []
    · simp [hne]
    · exact eq_of_dotted_map_eq he (by simpa [Callee.dotted?, hne] using heq)
  · rw [List.map_congr_left hcomposed, List.map_id']

/-- The attribute of what a call gives, `a.b(x).c`: in the second form with other rows and without
the argument. -/
theorem callee_name_agree_chain :
    let e : Callee := .member (.call (.member (.name "a") "b")) "c"
    let a (row : Nat) : Tree := .node .identifier none "a" row row []
    let b (row : Nat) : Tree := .node .member none "" row row
      [(a row).labelled .object, .node .identifier (some .member) "b" row row []]
    let call (row : Nat) (arguments : Tree) : Tree := .node .call none "" row row
      [(b row).labelled .function, arguments]
    let t (row : Nat) (arguments : Tree) : Tree := .node .member none "" row row
      [(call row arguments).labelled .object, .node .identifier (some .member) "c" row row []]
    let first := t 0 (.node .arguments none "" 0 0 [.node .identifier none "x" 0 0 []])
    let second := t 3 (.node .arguments none "" 3 3 [])
    (∀ n ∈ e.names, Text.IsComponent n) ∧ e.Form first ∧ e.Form second ∧
      (Node.ofTree first).callName? = second.callName? ∧ second.callName? = some "a.b.c" ∧
      e.called.outermost? = some "c" := by
  intro e a b call t first second
  have he : ∀ n ∈ e.names, Text.IsComponent n := by decide
  have hform : ∀ row arguments, e.Form (t row arguments) := by
    intro row arguments
    have ha : (Callee.name "a").Form (a row) := .name
    have hb : (Callee.member (.name "a") "b").Form (b row) := .member ha
    have hcall : (Callee.call (.member (.name "a") "b")).Form (call row arguments) := .call hb
    exact .member hcall
  obtain ⟨-, -, hlast, hagree⟩ := callee_name_agree_iff he (hform 0 _) (hform 3 _)
  have hcomposed : ∀ n ∈ e.names, Node.composedName n = n := by decide
  have hname : second.callName? = some "a.b.c" := by decide
  exact ⟨he, hform 0 _, hform 3 _, hagree.mpr hcomposed, hname, hlast "a.b.c" hname⟩

/-- A name of two code points that are one in composed form, a syllable and its last letter: each
reader has its own spelling of it. -/
theorem callee_name_decomposed :
    let t : Tree := .node .identifier none "\uac00\u11a8" 0 0 []
    (Callee.name "\uac00\u11a8").Form t ∧ (Node.ofTree t).callName? = some "\uac01" ∧
      t.callName? = some "\uac00\u11a8" ∧ (Node.ofTree t).callName? ≠ t.callName? := by
  intro t
  have hmeant : (Node.ofTree t).callName? = some "\uac01" := by decide +kernel
  refine ⟨.name, hmeant, rfl, ?_⟩
  rw [hmeant]
  decide +kernel

/-! ## What the grammar reads -/

namespace Tree

/-- A tree of an expression that stands in parentheses, or of attributes and calls behind one. -/
inductive BeginsInParentheses : Tree → Prop
  | group {t : Tree} : t.kind = .group → BeginsInParentheses t
  | trailer {t : Tree} {k l l' text first last ts} : BeginsInParentheses t →
    BeginsInParentheses (.node k l text first last (t.labelled l' :: ts))

/-- A tree of a primary expression: it begins in parentheses, or it is a form of a callee. -/
def IsPrimary (t : Tree) : Prop :=
  t.BeginsInParentheses ∨ ∃ e : Callee, e.Form t

/-- A name as it is read, before it gets a label. -/
def IsLeaf (t : Tree) : Prop :=
  ∃ text first last, t = .node .identifier none text first last []

end Tree

open Parse TestImpact.Source.Tree

theorem yields_leaf : Yields IsLeaf identifier :=
  .skip fun t => .skip fun _ => .pure ⟨t.text, t.first, t.last, rfl⟩

theorem yields_other {first : Nat} {kind : Kind} {children : List Tree}
    (h : kind.isOther = true) : Yields IsPrimary (nodeFrom first kind children) :=
  .nodeFrom fun _ => .inr ⟨.other, .other h⟩

namespace Grammar

variable {g : Grammar}

theorem yields_memberLeaf : Yields IsLeaf g.memberName :=
  .ite (.skip fun t => .pure ⟨t.text, t.first, t.last, rfl⟩) yields_leaf

theorem yields_callee_displayRest {first : Nat} {x : Tree} {item : Parse Tree} {close : String}
    {one several : Kind} (hone : one = .group ∨ one.isOther = true)
    (hseveral : several.isOther = true) :
    Yields IsPrimary (displayRest first x item close one several) := by
  refine .skip fun xs => .skip fun trailing => .skip fun _ => ?_
  split
  · rcases hone with rfl | hone
    · exact .nodeFrom fun _ => .inl (.group rfl)
    · exact yields_other hone
  · exact yields_other hseveral

theorem yields_callee_comprehension {first : Nat} {x : Tree} {close : String} :
    Yields IsPrimary (g.comprehension first x close) :=
  .skip fun _ => .skip fun _ => .skip fun _ => yields_other rfl

theorem yields_callee_parentheses : Yields IsPrimary g.parentheses := by
  refine .skip fun first => .skip fun _ => .skip fun _ => .ite (yields_other rfl) ?_
  refine .skip fun _ => .ite ?_ (.skip fun x => .skip fun _ => .ite yields_callee_comprehension ?_)
  · exact .skip fun _ => .skip fun _ => .nodeFrom fun _ => .inl (.group rfl)
  · refine .bind (yields_callee_displayRest (.inl rfl) rfl) fun t ht => ?_
    exact .skip fun _ => .pure ht

theorem yields_callee_brackets : Yields IsPrimary g.brackets := by
  refine .skip fun first => .skip fun _ => .skip fun _ => .ite (yields_other rfl) ?_
  refine .skip fun x => .skip fun _ => .ite yields_callee_comprehension ?_
  exact yields_callee_displayRest (.inr rfl) rfl

theorem yields_callee_braces : Yields IsPrimary g.braces := by
  refine .skip fun first => .skip fun _ => .skip fun _ => .ite (yields_other rfl) ?_
  refine .skip fun _ => .ite ?_ (.skip fun start => .skip fun x => .skip fun _ => .ite ?_ ?_)
  · exact .skip fun _ => yields_callee_displayRest (.inr rfl) rfl
  · refine .skip fun _ => .skip fun pair => .skip fun _ => .ite yields_callee_comprehension ?_
    exact yields_callee_displayRest (.inr rfl) rfl
  · refine .skip fun _ => .ite yields_callee_comprehension ?_
    exact yields_callee_displayRest (.inr rfl) rfl

theorem yields_callee_atom : Yields IsPrimary g.atom := by
  have hleaf : ∀ t, IsLeaf t → IsPrimary t := by
    rintro - ⟨text, first, last, rfl⟩
    exact .inr ⟨.name text, .name⟩
  refine .skip fun t => ?_
  split
  · exact .ite (.skip fun _ => yields_other rfl) (yields_leaf.mono hleaf)
  · exact .skip fun _ => yields_other rfl
  · refine .skip fun _ => .skip fun _ => .skip fun _ => .skip fun _ => .skip fun _ => ?_
    exact .skip fun _ => .skip fun _ => yields_other rfl
  · refine .ite yields_callee_parentheses (.ite yields_callee_brackets ?_)
    refine .ite yields_callee_braces (.ite (.skip fun _ => yields_other rfl) (.ite ?_ .failure))
    refine .skip fun _ => .skip fun _ => .skip fun _ => .skip fun _ => .skip fun _ => ?_
    exact .skip fun _ => yields_other rfl
  · exact .failure

theorem yields_callee_member {first : Nat} {x : Tree} (hx : x.IsPrimary) :
    Yields IsPrimary (g.member first x) := by
  refine .skip fun _ => .bind yields_memberLeaf fun name hname => .nodeFrom fun last => ?_
  obtain ⟨text, first', last', rfl⟩ := hname
  rcases hx with hparentheses | ⟨e, he⟩
  · exact .inl hparentheses.trailer
  · exact .inr ⟨.member e text, .member he⟩

theorem yields_callee_call {first : Nat} {x : Tree} (hx : x.IsPrimary) :
    Yields IsPrimary (g.call first x) := by
  refine .skip fun arguments => .nodeFrom fun last => ?_
  rcases hx with hparentheses | ⟨e, he⟩
  · exact .inl hparentheses.trailer
  · exact .inr ⟨.call e, .call he⟩

theorem yields_callee_trailers {calls : Bool} {first : Nat} {x : Tree} (hx : x.IsPrimary)
    (n : List Token) : Yields IsPrimary (g.trailers calls first x n) := by
  -- On the tokens that bound the number of trailers: each is one more step of the callee.
  induction n generalizing x with
  | nil => exact .pure hx
  | cons _ n ih =>
    refine .skip fun _ => .ite ?_ (.skip fun _ => .ite ?_ (.skip fun _ => .ite ?_ (.pure hx)))
    · exact .bind (yields_callee_member hx) fun y hy => ih hy
    · have hsubscript : Yields IsPrimary (g.subscript first x) :=
        .skip fun _ => .skip fun _ => .skip fun _ => yields_other rfl
      exact .bind hsubscript fun y hy => ih hy
    · exact .bind (yields_callee_call hx) fun y hy => ih hy

/-- Whatever is read for a primary expression is a callee in a written form, or it begins with
something in parentheses. -/
theorem yields_callee : Yields IsPrimary g.primary :=
  .skip fun _ => .bind yields_callee_atom fun _ hx =>
    .skip fun s => yields_callee_trailers hx s.rest

end Grammar

end TestImpact.Source
