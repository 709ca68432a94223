import TestImpact.Proofs.Source.Yields
import TestImpact.Source.TreeOutline
import TestImpact.Source.Pattern

/-
  Expressions hold no definitions.

  Whatever a rule for expressions or for patterns reads is an expression
  (`Tree.IsExpression`): no definition stands in it, and it has no label before
  its parent gives it one. The rules ask for each other through the grammar; so
  there is one lemma for a rule, under the assumption that what the grammar
  reads for the goals of expressions is one (`Grammar.ReadsExpressions`).
-/

namespace TestImpact.Source

namespace Tree

/-- No definition stands in the tree. -/
inductive Bare : Tree → Prop
  | node {k l text first last} {children : List Tree} :
    isDefinition k = false → (∀ t ∈ children, Bare t) → Bare (.node k l text first last children)

theorem Bare.kind {t : Tree} (h : t.Bare) : isDefinition t.kind = false := by
  cases h with
  | node hkind _ => exact hkind

theorem Bare.labelled {t : Tree} (h : t.Bare) (l : Label) : (t.labelled l).Bare := by
  cases h with
  | node hkind hchildren => exact .node hkind hchildren

/-- A tree without a definition in it and without a label. -/
structure IsExpression (t : Tree) : Prop where
  bare : t.Bare
  label : t.label = none

abbrev AreExpressions : List Tree → Prop := List.Forall IsExpression

theorem isExpression_node {kind : Kind} {text : String} {first last : Nat} {children : List Tree}
    (hkind : isDefinition kind = false) (h : ∀ t ∈ children, t.Bare) :
    (Tree.node kind none text first last children).IsExpression :=
  ⟨.node hkind h, rfl⟩

/-- What is read where a name must stand. -/
structure IsName (t : Tree) : Prop extends t.IsExpression where
  kind : t.kind = .identifier

end Tree

open Parse TestImpact.Source.Tree

/-- The goals that expressions and patterns are read for. -/
def Goal.isExpression : Goal → Bool
  | .statement | .block => false
  | _ => true

/-- What the grammar reads for the goals of expressions is an expression. -/
def Grammar.ReadsExpressions (g : Grammar) : Prop :=
  ∀ goal : Goal, goal.isExpression = true → Yields IsExpression (g.read goal)

theorem yields_nodeFrom {first : Nat} {kind : Kind} {children : List Tree}
    (hkind : isDefinition kind = false) (h : AreExpressions children) :
    Yields IsExpression (nodeFrom first kind children) :=
  .nodeFrom fun _ =>
    isExpression_node hkind fun t ht => (List.forall_iff_forall_mem.mp h t ht).bare

theorem yields_nodeOf {first : Nat} {kind : Kind} {p : Parse Tree}
    (hkind : isDefinition kind = false) (h : Yields IsExpression p) :
    Yields IsExpression (p >>= fun x => nodeFrom first kind [x]) :=
  .bind h fun _ hx => yields_nodeFrom hkind hx

theorem yields_nodeOver {first : Nat} {kind : Kind} {p : Parse (List Tree)}
    (hkind : isDefinition kind = false) (h : Yields AreExpressions p) :
    Yields IsExpression (p >>= fun xs => nodeFrom first kind xs) :=
  .bind h fun _ hxs => yields_nodeFrom hkind hxs

theorem yields_identifier : Yields IsName identifier :=
  .skip fun _ => .skip fun _ => .pure ⟨isExpression_node rfl nofun, rfl⟩

theorem yields_nameAlone : Yields IsExpression identifier :=
  yields_identifier.mono fun _ h => h.toIsExpression

namespace Grammar

theorem yields_memberName (g : Grammar) : Yields IsName g.memberName :=
  .ite (.skip fun _ => .pure ⟨isExpression_node rfl nofun, rfl⟩) yields_identifier

/-! ## Lists and operators -/

theorem yields_chain {operators : List String} {operand : Parse Tree}
    (h : Yields IsExpression operand) : Yields IsExpression (chain operators operand) := by
  have hmore : Yields AreExpressions (many do
      check (← seesAny operators)
      let _ ← take
      operand) := .many (.skip fun _ => .skip fun _ => .skip fun _ => h)
  refine .skip fun first => .bind h fun x hx => .bind hmore fun xs hxs => .ite (.pure hx) ?_
  exact yields_nodeFrom rfl (by simp [hx, hxs])

theorem yields_signed {signs : List String} {operand : Parse Tree}
    (h : Yields IsExpression operand) : Yields IsExpression (signed signs operand) := by
  refine .skip fun first => .skip fun signs => .bind h fun x hx => .ite (.pure hx) ?_
  exact yields_nodeFrom rfl hx

theorem yields_openList {item : Parse Tree} (h : Yields IsExpression item) :
    Yields IsExpression (openList item) := by
  refine .skip fun first => .bind (.commaList h) fun r hr => ?_
  obtain ⟨xs, comma⟩ := r
  dsimp only
  split
  · exact .pure hr
  · exact yields_nodeFrom rfl hr

theorem yields_displayRest {first : Nat} {x : Tree} {item : Parse Tree} {close : String}
    {one several : Kind} (hone : isDefinition one = false) (hseveral : isDefinition several = false)
    (hx : x.IsExpression) (h : Yields IsExpression item) :
    Yields IsExpression (displayRest first x item close one several) := by
  refine .bind (.many (.skip fun _ => h)) fun xs hxs => .skip fun trailing => .skip fun _ => ?_
  refine yields_nodeFrom ?_ (by simp [hx, hxs])
  split
  · exact hone
  · exact hseveral

section Reads

variable {g : Grammar} (hg : g.ReadsExpressions)
include hg

/-! ## Parameters -/

theorem yields_annotations (starred : Bool) : Yields AreExpressions (g.annotation starred) := by
  refine .skip fun _ => .ite (.skip fun first => .skip fun _ => .ite ?_ ?_) (.pure True.intro)
  · refine .bind (hg .operand rfl) fun x hx => ?_
    exact .bind (yields_nodeFrom rfl hx) fun y hy => .pure hy
  · exact .bind (hg .expression rfl) fun x hx => .pure hx

theorem yields_parameter (annotated : Bool) : Yields IsExpression (g.parameter annotated) := by
  have hnote : ∀ starred, Yields AreExpressions
      (if annotated then g.annotation starred else pure []) :=
    fun starred => .ite (yields_annotations hg starred) (.pure True.intro)
  refine .skip fun first => .skip fun _ => .ite ?_ (.skip fun _ => .ite ?_ (.skip fun _ => ?_))
  · exact .skip fun _ => yields_nodeOver rfl (hnote false)
  · refine .skip fun _ => .ite (yields_nodeFrom rfl True.intro) (.skip fun _ => ?_)
    exact yields_nodeOver rfl (hnote true)
  · refine .ite (yields_nodeFrom rfl True.intro) ?_
    refine .skip fun _ => .ite_bind (.trivial _) (.trivial _) fun _ _ => ?_
    refine .bind (hnote false) fun notes hnotes => .skip fun _ => .ite ?_ ?_
    · refine .bind (hg .expression rfl) fun value hvalue => yields_nodeFrom rfl ?_
      exact List.forall_append.mpr ⟨hnotes, hvalue⟩
    · exact yields_nodeFrom rfl hnotes

theorem yields_parameters (annotated : Bool) (close : String) :
    Yields AreExpressions (g.parameters annotated close) := by
  refine .skip fun _ => .ite (.pure True.intro) ?_
  exact .bind (.commaList (yields_parameter hg annotated)) fun r hr => .skip fun _ => .pure hr

/-! ## Displays -/

theorem yields_walrus {expression : Parse Tree} (h : Yields IsExpression expression) :
    Yields IsExpression (g.walrus expression) := by
  refine .skip fun first => .bind h fun x hx => .skip fun _ => .ite ?_ (.pure hx)
  exact .bind (hg .expression rfl) fun value hvalue => yields_nodeFrom rfl ⟨hx, hvalue⟩

theorem yields_starOperand : Yields IsExpression g.starOperand := by
  refine hg _ ?_
  split <;> rfl

theorem yields_displayItem : Yields IsExpression g.displayItem := by
  refine .skip fun first => .skip fun _ => .ite ?_ (hg .named rfl)
  exact yields_nodeOf rfl (yields_starOperand hg)

theorem yields_clauses : Yields AreExpressions g.clauses := by
  have hclause : Yields AreExpressions (do
      let _ ← accept "async"
      expect "for"
      let left ← g.read .targets
      expect "in"
      let right ← g.read .disjunction
      let conditions ← many do
        expect "if"
        g.read .disjunction
      return left :: right :: conditions) := by
    refine .skip fun _ => .skip fun _ => .bind (hg .targets rfl) fun left hleft => .skip fun _ => ?_
    refine .bind (hg .disjunction rfl) fun right hright => ?_
    refine .bind (.many (.skip fun _ => hg .disjunction rfl)) fun xs hxs => .pure ?_
    simp [hleft, hright, hxs]
  refine .bind hclause fun cs hcs => .bind (.many hclause) fun more hmore => .pure ?_
  simp [hcs, forall_flatten hmore]

theorem yields_comprehension {first : Nat} {x : Tree} {close : String} (hx : x.IsExpression) :
    Yields IsExpression (g.comprehension first x close) := by
  refine .skip fun _ => .bind (yields_clauses hg) fun cs hcs => .skip fun _ => ?_
  exact yields_nodeFrom rfl (by simp [hx, hcs])

theorem yields_yieldExpression : Yields IsExpression g.yieldExpression := by
  refine .skip fun first => .skip fun _ => .skip fun _ => .ite ?_ ?_
  · exact yields_nodeOf rfl (hg .expression rfl)
  · exact yields_nodeOver rfl (.optionally (hg .values rfl))

theorem yields_parentheses : Yields IsExpression g.parentheses := by
  refine .skip fun first => .skip fun _ => .skip fun _ => .ite (yields_nodeFrom rfl True.intro) ?_
  refine .skip fun _ => .ite ?_ (.bind (yields_displayItem hg) fun x hx => .skip fun _ => ?_)
  · refine .bind (yields_yieldExpression hg) fun x hx => .skip fun _ => yields_nodeFrom rfl hx
  · refine .ite (yields_comprehension hg hx) ?_
    exact .bind (yields_displayRest rfl rfl hx (yields_displayItem hg)) fun t ht =>
      .skip fun _ => .pure ht

theorem yields_brackets : Yields IsExpression g.brackets := by
  refine .skip fun first => .skip fun _ => .skip fun _ => .ite (yields_nodeFrom rfl True.intro) ?_
  refine .bind (yields_displayItem hg) fun x hx => .skip fun _ => ?_
  exact .ite (yields_comprehension hg hx) (yields_displayRest rfl rfl hx (yields_displayItem hg))

theorem yields_dictionaryMember : Yields IsExpression g.dictionaryMember := by
  refine .skip fun first => .skip fun _ => .ite ?_ ?_
  · exact yields_nodeOf rfl (yields_starOperand hg)
  · refine .bind (hg .expression rfl) fun key hkey => .skip fun _ => ?_
    exact .bind (hg .expression rfl) fun value hvalue => yields_nodeFrom rfl ⟨hkey, hvalue⟩

theorem yields_braces : Yields IsExpression g.braces := by
  have hmember := yields_dictionaryMember hg
  refine .skip fun first => .skip fun _ => .skip fun _ => .ite (yields_nodeFrom rfl True.intro) ?_
  refine .skip fun _ => .ite ?_ (.skip fun start => ?_)
  · exact .bind hmember fun member hfirst => yields_displayRest rfl rfl hfirst hmember
  · refine .bind (yields_displayItem hg) fun x hx => .skip fun _ => .ite ?_ ?_
    · refine .bind (hg .expression rfl) fun value hvalue => ?_
      refine .bind (yields_nodeFrom rfl ⟨hx, hvalue⟩) fun pair hpair => .skip fun _ => ?_
      exact .ite (yields_comprehension hg hpair) (yields_displayRest rfl rfl hpair hmember)
    · refine .skip fun _ => .ite (yields_comprehension hg hx) ?_
      exact yields_displayRest rfl rfl hx (yields_displayItem hg)

theorem yields_strings : Yields IsExpression g.strings := by
  refine .skip fun first => .skip fun x => .skip fun xs => .skip fun _ => .skip fun _ => ?_
  refine .skip fun _ => yields_nodeOver rfl (.mapM fun text => ?_)
  split
  · exact .within _ (hg .expression rfl)
  · exact .failure

/-! ## Primary expressions -/

theorem yields_argument : Yields IsExpression g.argument := by
  refine .skip fun first => .skip fun _ => .ite ?_ (.skip fun _ => .ite ?_ ?_)
  · exact yields_nodeOf rfl (hg .expression rfl)
  · exact yields_nodeOf rfl (hg .expression rfl)
  · refine .bind (hg .named rfl) fun x hx => .skip fun _ => .ite ?_ (.pure hx)
    exact yields_nodeOf rfl (hg .expression rfl)

theorem yields_arguments (isCall : Bool) : Yields IsExpression (g.arguments isCall) := by
  refine .skip fun first => .skip fun _ => .skip fun _ => .ite (yields_nodeFrom rfl True.intro) ?_
  refine .bind (yields_argument hg) fun x hx => .skip fun _ => .ite ?_ ?_
  · exact yields_nodeOf rfl (yields_comprehension hg hx)
  · exact .bind (yields_displayRest rfl rfl hx (yields_argument hg)) fun t ht =>
      .skip fun _ => .pure ht

theorem yields_slice : Yields IsExpression g.slice := by
  -- Behind the colon, the same step reads the upper bound and the width.
  have hbound : Yields AreExpressions (do
      if ← seesAny [":", ",", "]"] then return [] else return [← g.read .expression]) :=
    .skip fun _ => .ite (.pure True.intro) (.bind (hg .expression rfl) fun _ hx => .pure hx)
  refine .skip fun first => .skip fun _ => .ite ?_ (.skip fun _ => ?_)
  · exact yields_nodeOf rfl (hg .expression rfl)
  · have hlower : Yields AreExpressions ((fun x => [x]) <$> g.read .named) :=
      .map (hg .named rfl) fun _ hx => hx
    refine .ite_bind (.pure True.intro) hlower fun lower hlower => .skip fun colon => ?_
    split
    · exact .pure hlower
    · refine .skip fun _ => .skip fun _ => .bind hbound fun upper hupper => .skip fun _ => ?_
      refine .ite_bind hbound (.pure True.intro) fun step hstep => yields_nodeFrom rfl ?_
      simp [hlower, hupper, hstep]

theorem yields_subscript {first : Nat} {x : Tree} (hx : x.IsExpression) :
    Yields IsExpression (g.subscript first x) := by
  refine .skip fun _ => .bind (.commaList (yields_slice hg)) fun r hr => .skip fun _ => ?_
  exact yields_nodeFrom rfl (by simp [hx, hr])

theorem yields_call {first : Nat} {x : Tree} (hx : x.IsExpression) :
    Yields IsExpression (g.call first x) := by
  refine .bind (yields_arguments hg true) fun arguments harguments => .nodeFrom fun last => ?_
  exact isExpression_node rfl (by simp [hx.bare.labelled, harguments.bare])

omit hg in
theorem yields_member {first : Nat} {x : Tree} (hx : x.IsExpression) :
    Yields IsExpression (g.member first x) := by
  refine .skip fun _ => .bind g.yields_memberName fun name hname => .nodeFrom fun last => ?_
  exact isExpression_node rfl (by simp [hx.bare.labelled, hname.bare.labelled])

theorem yields_trailers {calls : Bool} {first : Nat} {x : Tree} (hx : x.IsExpression)
    (n : List Token) : Yields IsExpression (g.trailers calls first x n) := by
  -- On the tokens that bound the number of trailers: each makes a larger expression of `x`.
  induction n generalizing x with
  | nil => exact .pure hx
  | cons _ n ih =>
    refine .skip fun _ => .ite ?_ (.skip fun _ => .ite ?_ (.skip fun _ => .ite ?_ (.pure hx)))
    · exact .bind (yields_member hx) fun y hy => ih hy
    · exact .bind (yields_subscript hg hx) fun y hy => ih hy
    · exact .bind (yields_call hg hx) fun y hy => ih hy

theorem yields_starredName : Yields IsExpression g.starredName := by
  refine .skip fun first => .skip fun _ => .skip fun start => .bind yields_identifier fun x hx => ?_
  refine .skip fun s => .bind (yields_trailers hg hx.toIsExpression s.rest) fun y hy => ?_
  exact yields_nodeFrom rfl hy

theorem yields_atom : Yields IsExpression g.atom := by
  refine .skip fun t => ?_
  split
  · exact .ite (.skip fun _ => yields_nodeFrom rfl True.intro) yields_nameAlone
  · exact .skip fun _ => yields_nodeFrom rfl True.intro
  · exact yields_strings hg
  · refine .ite (yields_parentheses hg) (.ite (yields_brackets hg) (.ite (yields_braces hg) ?_))
    refine .ite (.skip fun _ => yields_nodeFrom rfl True.intro) (.ite (yields_starredName hg) ?_)
    exact .failure
  · exact .failure

theorem yields_primary : Yields IsExpression g.primary :=
  .skip fun _ => .bind (yields_atom hg) fun _ hx => .skip fun s => yields_trailers hg hx s.rest

/-! ## The rules of the goals -/

theorem yields_power : Yields IsExpression g.power := by
  refine .skip fun first => .skip fun awaited => .bind (yields_primary hg) fun x hx => ?_
  refine .ite_bind (yields_nodeFrom rfl hx) (.pure hx) fun base hbase => .skip fun _ => ?_
  refine .ite (.bind (hg .factor rfl) fun y hy => yields_nodeFrom rfl ⟨hbase, hy⟩) (.pure hbase)

theorem yields_factor : Yields IsExpression g.factor := yields_signed (yields_power hg)

theorem yields_operand : Yields IsExpression g.operand :=
  yields_chain <| yields_chain <| yields_chain <| yields_chain <| yields_chain <|
    yields_chain (yields_factor hg)

theorem yields_comparison : Yields IsExpression g.comparison := by
  refine .skip fun first => .bind (yields_operand hg) fun x hx => ?_
  refine .bind (.many (.skip fun _ => yields_operand hg)) fun xs hxs => .ite (.pure hx) ?_
  exact yields_nodeFrom rfl (by simp [hx, hxs])

theorem yields_disjunction : Yields IsExpression g.disjunction :=
  yields_chain (yields_chain (yields_signed (yields_comparison hg)))

theorem yields_lambda : Yields IsExpression g.lambda := by
  refine .skip fun first => .skip fun _ => .bind (yields_parameters hg false ":") fun ps hps => ?_
  refine .skip fun _ => .bind (hg .expression rfl) fun body hbody => .nodeFrom fun last => ?_
  -- The body carries a label here, so it is no expression by itself, but it is still bare.
  refine isExpression_node rfl fun t ht => ?_
  rcases List.mem_append.mp ht with ht | ht
  · exact (List.forall_iff_forall_mem.mp hps t ht).bare
  · exact List.mem_singleton.mp ht ▸ hbody.bare.labelled .body

theorem yields_conditional : Yields IsExpression g.conditional := by
  refine .skip fun _ => .ite (yields_lambda hg) (.skip fun first => ?_)
  refine .bind (yields_disjunction hg) fun x hx => .skip fun _ => .ite ?_ (.pure hx)
  refine .bind (hg .disjunction rfl) fun test htest => .skip fun _ => ?_
  exact .bind (hg .expression rfl) fun y hy => yields_nodeFrom rfl ⟨hx, htest, hy⟩

theorem yields_expression : Yields IsExpression g.expression :=
  .ite (yields_walrus hg (yields_conditional hg)) (yields_conditional hg)

theorem yields_values : Yields IsExpression g.values := by
  refine yields_openList (.skip fun first => .skip fun _ => .ite ?_ (yields_expression hg))
  exact yields_nodeOf rfl (yields_operand hg)

theorem yields_targets : Yields IsExpression g.targets := by
  refine .bind (yields_openList (.skip fun first => .skip fun _ => .ite ?_ (yields_primary hg)))
    fun t ht => .skip fun _ => .pure ht
  exact yields_nodeOf rfl (yields_primary hg)

/-! ## Patterns -/

theorem yields_literalPattern : Yields IsExpression g.literalPattern := by
  refine .skip fun first => .skip fun t => .ite (yields_strings hg) (.ite ?_ ?_)
  · exact .skip fun _ => yields_nodeFrom rfl True.intro
  · exact .skip fun _ => .skip fun _ => yields_nodeFrom rfl True.intro

omit hg in
theorem yields_dottedName : Yields IsExpression dottedName := by
  refine .skip fun first => .bind yields_nameAlone fun x hx => ?_
  refine .bind (.many (.skip fun _ => yields_nameAlone)) fun names hnames => yields_nodeFrom ?_ ?_
  · split <;> rfl
  · simp [hx, hnames]

omit hg in
theorem yields_starPattern : Yields IsExpression starPattern :=
  .skip fun _ => .skip fun _ => .skip fun _ => yields_nodeFrom rfl True.intro

theorem yields_sequenceItem : Yields IsExpression g.sequenceItem :=
  .skip fun _ => .ite yields_starPattern (hg .pattern rfl)

theorem yields_keyPattern : Yields IsExpression g.keyPattern := by
  have hkey : Yields IsExpression (g.literalPattern <|> do
      let x ← dottedName
      check (x.kind = .member)
      return x) :=
    .orElse (yields_literalPattern hg) (.bind yields_dottedName fun x hx => .skip fun _ => .pure hx)
  refine .skip fun first => .bind hkey fun key hkey => .skip fun _ => ?_
  exact .bind (hg .pattern rfl) fun value hvalue => yields_nodeFrom rfl ⟨hkey, hvalue⟩

omit hg in
theorem yields_restPattern : Yields IsExpression restPattern :=
  .skip fun _ => .skip fun _ => .skip fun _ => yields_nodeFrom rfl True.intro

theorem yields_mappingPattern : Yields IsExpression g.mappingPattern := by
  refine .skip fun first => .skip fun _ => ?_
  refine .bind (.optionally (.separated "," (yields_keyPattern hg))) fun items hitems => ?_
  have hrest : Yields IsExpression (do
      if !items.isEmpty then expect ","
      restPattern) := .ite (.skip fun _ => yields_restPattern) yields_restPattern
  refine .bind (.optionally hrest) fun rest hrest => ?_
  have hall := List.forall_append.mpr ⟨forall_flatten hitems, hrest⟩
  exact .ite (.skip fun _ => .skip fun _ => yields_nodeFrom rfl hall)
    (.skip fun _ => yields_nodeFrom rfl hall)

theorem yields_classArgument : Yields IsExpression g.classArgument := by
  refine .skip fun first => .orElse ?_ (hg .pattern rfl)
  refine .skip fun _ => .skip fun _ => yields_nodeOf rfl (hg .pattern rfl)

theorem yields_bracketedPattern (open_ close : String) (isGroup : Bool) :
    Yields IsExpression (g.bracketedPattern open_ close isGroup) := by
  refine .skip fun first => .skip fun _ => .skip fun _ => .ite (yields_nodeFrom rfl True.intro) ?_
  refine .bind (.commaList (yields_sequenceItem hg)) fun r hr => ?_
  exact .skip fun _ => .skip fun _ => yields_nodeFrom rfl hr

theorem yields_namePattern : Yields IsExpression g.namePattern := by
  refine .skip fun first => .skip fun _ => .ite ?_ (.skip fun x => .skip fun _ => .ite ?_ ?_)
  · exact .skip fun _ => yields_nodeFrom rfl True.intro
  · refine .skip fun _ => .ite (yields_nodeFrom rfl True.intro) ?_
    refine .bind (.commaList (yields_classArgument hg)) fun r hr => ?_
    exact .skip fun _ => .skip fun _ => yields_nodeFrom rfl hr
  · exact .skip fun _ => .skip fun _ => yields_nodeFrom rfl True.intro

theorem yields_closedPattern : Yields IsExpression g.closedPattern := by
  refine .skip fun _ => .ite (yields_bracketedPattern hg _ _ _) (.skip fun _ => .ite ?_ ?_)
  · exact yields_bracketedPattern hg _ _ _
  · refine .skip fun _ => .ite (yields_mappingPattern hg) ?_
    exact .orElse (yields_literalPattern hg) (yields_namePattern hg)

theorem yields_pattern : Yields IsExpression g.pattern := by
  refine .bind (yields_chain (yields_closedPattern hg)) fun x hx => .skip fun _ => ?_
  exact .ite (.skip fun _ => .pure hx) (.pure hx)

theorem yields_openPattern : Yields IsExpression g.openPattern := by
  have hitem : Yields IsExpression (do if ← sees "*" then starPattern else g.pattern) :=
    .skip fun _ => .ite yields_starPattern (yields_pattern hg)
  refine .skip fun first => .bind (.commaList hitem) fun r hr => ?_
  exact .skip fun _ => yields_nodeFrom rfl hr

end Reads

end Grammar

end TestImpact.Source
