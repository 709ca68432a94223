import TestImpact.Proofs.Source.Expression
import TestImpact.Source.Statement

/-
  Where definitions stand in what is read.

  The trees of statements are formed (`Tree.Formed`): a definition is made of
  its name, a header of expressions and a block of statements, the decorators
  of a definition are expressions, and other statements hold definitions in
  their blocks only. This is so for every text in either dialect
  (`Tree.formed_ofText?`).
-/

namespace TestImpact.Source

namespace Tree

/-- The tree is a definition without decorators: its name, a header of expressions and a block. -/
structure IsDefinitionOf (t : Tree) (kind : SymbolKind) (name : Tree) (header : List Tree)
    (block : Tree) : Prop where
  kind : symbolKind? t.kind = some kind
  children : t.children = name :: header ++ [block]
  name_kind : name.kind = .identifier
  name_label : name.label = some .name
  header : ∀ u ∈ header, u.IsExpression
  block_kind : block.kind = .block
  block_label : block.label = some .body

/-- The trees of statements, and of what they are made of. -/
inductive Formed : Tree → Prop
  | bare {t : Tree} : t.Bare → Formed t
  | statements {t : Tree} :
    t.kind = .other ∨ t.kind = .block → (∀ u ∈ t.children, Formed u) → Formed t
  | definition {t : Tree} {kind name header block} :
    t.IsDefinitionOf kind name header block → (∀ u ∈ block.children, Formed u) → Formed t
  | decorated {t definition : Tree} {decorators kind name header block} :
    t.kind = .decoratedDefinition → t.children = decorators ++ [definition] →
    (∀ d ∈ decorators, d.IsExpression) → definition.label = some .definition →
    definition.IsDefinitionOf kind name header block → (∀ u ∈ block.children, Formed u) → Formed t

structure IsBlock (t : Tree) : Prop where
  kind : t.kind = .block
  formed : ∀ u ∈ t.children, u.Formed

/-- A definition without decorators whose block is one of formed statements. -/
def IsFormedDefinition (t : Tree) : Prop :=
  ∃ kind name header block, t.IsDefinitionOf kind name header block ∧
    ∀ u ∈ block.children, u.Formed

theorem IsFormedDefinition.formed {t : Tree} (h : t.IsFormedDefinition) : t.Formed := by
  obtain ⟨kind, name, header, block, hdefinition, hblock⟩ := h
  exact .definition hdefinition hblock

theorem IsExpression.formed {t : Tree} (h : t.IsExpression) : t.Formed := .bare h.bare

theorem AreExpressions.formed {ts : List Tree} (h : AreExpressions ts) : ts.Forall Formed :=
  h.imp fun _ => IsExpression.formed

theorem IsBlock.isFormed {t : Tree} (h : t.IsBlock) : t.Formed :=
  .statements (.inr h.kind) h.formed

theorem isFormedDefinition_node {k : Kind} {kind : SymbolKind} {text : String} {first last : Nat}
    {name block : Tree} {header : List Tree} (hkind : symbolKind? k = some kind)
    (hname : name.IsName) (hheader : AreExpressions header) (hblock : block.IsBlock) :
    (Tree.node k none text first last
      (name.labelled .name :: header ++ [block.labelled .body])).IsFormedDefinition := by
  refine ⟨kind, name.labelled .name, header, block.labelled .body, ?_, ?_⟩
  · cases name
    cases block
    exact ⟨hkind, rfl, hname.kind, rfl, List.forall_iff_forall_mem.mp hheader, hblock.kind, rfl⟩
  · cases block
    exact hblock.formed

end Tree

open Parse TestImpact.Source.Tree

/-- What the grammar reads is what its goals name. -/
structure Grammar.ReadsSource (g : Grammar) : Prop where
  expressions : g.ReadsExpressions
  statement : Yields Formed (g.read .statement)
  block : Yields IsBlock (g.read .block)

theorem yields_statementFrom {first : Nat} {children : List Tree} (h : children.Forall Formed) :
    Yields Formed (nodeFrom first .other children) :=
  .nodeFrom fun _ => .statements (.inl rfl) (List.forall_iff_forall_mem.mp h)

namespace Grammar

variable {g : Grammar}

/-! ## Simple statements -/

section Simple

variable (hg : g.ReadsExpressions)
include hg

theorem yields_assigned : Yields IsExpression g.assigned :=
  .skip fun _ => .ite (yields_yieldExpression hg) (hg .values rfl)

theorem yields_assignments {x : Tree} (hx : x.IsExpression) (n : List Token) :
    Yields AreExpressions (g.assignments x n) := by
  induction n generalizing x with
  | nil => exact .pure hx
  | cons _ n ih =>
    refine .skip fun _ => .ite (.skip fun _ => .skip fun _ => ?_) (.pure hx)
    refine .bind (yields_assigned hg) fun y hy => .bind (ih hy) fun ys hys => ?_
    exact .pure (by simp [hx, hys])

theorem yields_expressionStatement : Yields IsExpression g.expressionStatement := by
  have hassigned := yields_assigned hg
  refine .skip fun first => .skip fun _ => .ite ?_ ?_
  · exact yields_nodeOf rfl (yields_yieldExpression hg)
  · refine .bind (yields_values hg) fun x hx => .skip fun _ => .ite ?_ ?_
    · refine .skip fun s => .bind (yields_assignments hg hx s.rest) fun xs hxs => ?_
      exact yields_nodeFrom rfl hxs
    · refine .skip fun _ => .ite ?_ (.skip fun _ => .ite ?_ (.pure hx))
      · refine .skip fun _ => .skip fun _ => ?_
        exact .bind hassigned fun y hy => yields_nodeFrom rfl ⟨hx, hy⟩
      · refine .skip fun _ => .skip fun _ => .bind (hg .expression rfl) fun note hnote => ?_
        refine .skip fun _ => .ite ?_ (yields_nodeFrom rfl ⟨hx, hnote⟩)
        exact .bind hassigned fun y hy => yields_nodeFrom rfl ⟨hx, hnote, hy⟩

omit hg in
theorem yields_keywordStatement {keyword : String} {parts : Parse (List Tree)}
    (h : Yields AreExpressions parts) : Yields IsExpression (keywordStatement keyword parts) :=
  .skip fun _ => .skip fun _ => .bind h fun _ hxs => yields_nodeFrom rfl hxs

theorem yields_raised : Yields AreExpressions g.raised := by
  have hwhat : Yields IsExpression (if g.isTolerant then g.read .values else g.read .expression) :=
    .ite (hg .values rfl) (hg .expression rfl)
  refine .bind (.optionally hwhat) fun what hwhat => .skip fun _ => .ite ?_ (.pure hwhat)
  exact .bind (hg .expression rfl) fun x hx => .pure (List.forall_append.mpr ⟨hwhat, hx⟩)

theorem yields_asserted : Yields AreExpressions g.asserted := by
  refine .bind (hg .expression rfl) fun test htest => .skip fun _ => .ite ?_ (.pure htest)
  exact .bind (hg .expression rfl) fun x hx => .pure ⟨htest, hx⟩

theorem yields_deleted : Yields AreExpressions g.deleted :=
  .bind (hg .values rfl) fun _ hx => .skip fun _ => .pure hx

omit hg in
theorem yields_names : Yields AreExpressions names := .skip fun _ => .pure True.intro

omit hg in
theorem yields_importStatement : Yields IsExpression importStatement :=
  .skip fun _ => .skip fun _ => .skip fun _ => yields_nodeFrom rfl True.intro

omit hg in
theorem yields_importFromStatement : Yields IsExpression importFromStatement := by
  refine .skip fun first => .skip fun _ => .skip fun dots => ?_
  have hend : Yields IsExpression (nodeFrom first .other []) := yields_nodeFrom rfl True.intro
  -- Only how many tokens are taken differs between the ways; the node is the same.
  refine .ite (.skip fun _ => .skip fun _ => .skip fun _ => ?_)
    (.skip fun _ => .skip fun _ => .skip fun _ => ?_)
  all_goals
    exact .ite hend (.skip fun _ => .ite (.skip fun _ => .skip fun _ => hend) (.skip fun _ => hend))

theorem yields_olderStatement : Yields IsExpression g.olderStatement := by
  refine .skip fun _ => .skip fun first => .skip fun _ => .ite ?_ (.skip fun _ => .ite ?_ ?_)
  · exact .skip fun _ => yields_nodeOf rfl (hg .values rfl)
  · refine .bind (hg .operand rfl) fun code hcode => .skip fun _ => .ite ?_ ?_
    · exact .bind (hg .values rfl) fun x hx => yields_nodeFrom rfl ⟨hcode, hx⟩
    · exact yields_nodeFrom rfl hcode
  · refine .skip fun _ => .bind (hg .expression rfl) fun name hname => .skip fun _ => ?_
    exact .bind (hg .expression rfl) fun x hx => yields_nodeFrom rfl ⟨hname, hx⟩

theorem yields_simpleStatement : Yields IsExpression g.simpleStatement := by
  have hexpression := yields_expressionStatement hg
  refine .skip fun t => .ite ?_ hexpression
  split
  · exact yields_keywordStatement (.pure True.intro)
  · exact yields_keywordStatement (.pure True.intro)
  · exact yields_keywordStatement (.pure True.intro)
  · exact yields_keywordStatement (.optionally (hg .values rfl))
  · exact yields_keywordStatement (yields_raised hg)
  · exact yields_keywordStatement (yields_asserted hg)
  · exact yields_keywordStatement (yields_deleted hg)
  · exact yields_keywordStatement yields_names
  · exact yields_keywordStatement yields_names
  · exact yields_importStatement
  · exact yields_importFromStatement
  · exact .orElse (.seqLeft _ hexpression) (yields_olderStatement hg)

theorem yields_simpleStatements : Yields AreExpressions g.simpleStatements := by
  have hsimple := yields_simpleStatement hg
  refine .bind hsimple fun x hx => .bind (.many (.skip fun _ => hsimple)) fun xs hxs => ?_
  exact .skip fun _ => .skip fun _ => .pure (by simp [hx, hxs])

end Simple

/-! ## Blocks -/

theorem yields_damagedPlace : Yields Formed g.damagedPlace := by
  refine .skip fun _ => .skip fun first => .skip fun s => .skip fun _ => .skip fun _ => ?_
  have hend : Yields Formed (nodeFrom first .damaged []) :=
    .nodeFrom fun _ => .bare (.node rfl nofun)
  refine .skip fun _ => .skip fun _ => .skip fun _ => ?_
  exact .ite (.skip fun _ => .skip fun _ => hend) hend

section Source

variable (hg : g.ReadsSource)
include hg

theorem yields_block : Yields IsBlock g.block := by
  have hblock : ∀ first children, List.Forall Formed children →
      Yields IsBlock (nodeFrom first .block children) := fun first children h =>
    .nodeFrom fun _ => ⟨rfl, List.forall_iff_forall_mem.mp h⟩
  refine .skip fun first => .skip fun _ => .ite (.skip fun _ => .skip fun _ => .ite ?_ ?_) ?_
  · refine .skip fun _ => .bind (.many hg.statement) fun xs hxs => ?_
    exact .skip fun _ => .skip fun _ => hblock first xs hxs
  · exact .skip fun _ => hblock first [] True.intro
  · exact .bind (yields_simpleStatements hg.expressions) fun xs hxs => hblock first xs hxs.formed

theorem yields_colonBlock : Yields IsBlock g.colonBlock := .skip fun _ => hg.block

theorem yields_clause? {keyword : String} {parts : Parse (List Tree)}
    (h : Yields AreExpressions parts) : Yields (List.Forall Formed) (g.clause? keyword parts) := by
  refine .skip fun _ => .ite (.bind h fun xs hxs => ?_) (.pure True.intro)
  exact .bind (yields_colonBlock hg) fun b hb =>
    .pure (List.forall_append.mpr ⟨hxs.formed, hb.isFormed⟩)

theorem yields_elseClause : Yields (List.Forall Formed) g.elseClause :=
  yields_clause? hg (.pure True.intro)

/-! ## Compound statements -/

theorem yields_condition : Yields AreExpressions g.condition :=
  .bind (hg.expressions .named rfl) fun _ hx => .pure hx

theorem yields_ifStatement : Yields Formed g.ifStatement := by
  refine .skip fun first => .skip fun _ => .bind (yields_condition hg) fun test htest => ?_
  refine .bind (yields_colonBlock hg) fun body hbody => ?_
  refine .bind (.many (.skip fun _ => .skip fun _ => yields_clause? hg (yields_condition hg)))
    fun others hothers => ?_
  refine .bind (yields_elseClause hg) fun last hlast => yields_statementFrom ?_
  simp [AreExpressions.formed htest, hbody.isFormed, forall_flatten hothers, hlast]

theorem yields_whileStatement : Yields Formed g.whileStatement := by
  refine .skip fun first => .skip fun _ => .bind (yields_condition hg) fun test htest => ?_
  refine .bind (yields_colonBlock hg) fun body hbody => ?_
  refine .bind (yields_elseClause hg) fun last hlast => yields_statementFrom ?_
  simp [AreExpressions.formed htest, hbody.isFormed, hlast]

theorem yields_forStatement (first : Nat) : Yields Formed (g.forStatement first) := by
  refine .skip fun _ => .bind (hg.expressions .targets rfl) fun left hleft => .skip fun _ => ?_
  refine .bind (hg.expressions .values rfl) fun right hright => ?_
  refine .bind (yields_colonBlock hg) fun body hbody => ?_
  refine .bind (yields_elseClause hg) fun last hlast => yields_statementFrom ?_
  simp [hleft.formed, hright.formed, hbody.isFormed, hlast]

theorem yields_withItem : Yields AreExpressions g.withItem := by
  have hprimary := yields_primary hg.expressions
  refine .bind (hg.expressions .expression rfl) fun x hx => .skip fun _ => .ite ?_ (.pure hx)
  refine .skip fun first => .skip fun _ => ?_
  have hend : ∀ y : Tree, y.IsExpression → Yields AreExpressions (do
      check (y.isTarget true)
      return [x, y]) := fun y hy => .skip fun _ => .pure ⟨hx, hy⟩
  exact .ite (.bind hprimary fun y hy => .bind (yields_nodeFrom rfl hy) hend) (.bind hprimary hend)

theorem yields_withItems : Yields AreExpressions g.withItems := by
  have hitem := yields_withItem hg
  refine .orElse (.skip fun _ => .bind (.commaList hitem) fun r hr => ?_) ?_
  · exact .skip fun _ => .skip fun _ => .skip fun _ => .pure (forall_flatten hr)
  · exact .bind (.separated "," hitem) fun items hitems => .pure (forall_flatten hitems)

theorem yields_withStatement (first : Nat) : Yields Formed (g.withStatement first) := by
  refine .skip fun _ => .bind (yields_withItems hg) fun items hitems => ?_
  refine .bind (yields_colonBlock hg) fun body hbody => yields_statementFrom ?_
  exact List.forall_append.mpr ⟨AreExpressions.formed hitems, hbody.isFormed⟩

theorem yields_caught : Yields AreExpressions g.caught := by
  refine .bind (hg.expressions .expression rfl) fun x hx => .skip fun _ => .ite ?_ ?_
  · exact .skip fun _ => .pure hx
  · refine .skip fun _ => .ite ?_ (.pure hx)
    exact .bind (hg.expressions .expression rfl) fun y hy => .pure ⟨hx, hy⟩

theorem yields_exceptClause : Yields (fun r => r.2.Forall Formed) g.exceptClause := by
  refine .skip fun _ => .skip fun starred => .skip fun _ => .ite ?_ ?_
  · exact .skip fun _ => .bind (yields_colonBlock hg) fun b hb => .pure hb.isFormed
  · refine .bind (yields_caught hg) fun xs hxs => .bind (yields_colonBlock hg) fun b hb => .pure ?_
    exact List.forall_append.mpr ⟨AreExpressions.formed hxs, hb.isFormed⟩

theorem yields_tryStatement : Yields Formed g.tryStatement := by
  refine .skip fun first => .skip fun _ => .bind (yields_colonBlock hg) fun body hbody => ?_
  refine .bind (.many (yields_exceptClause hg)) fun handlers hhandlers => ?_
  refine .ite_bind (.pure True.intro) (yields_elseClause hg) fun others hothers => ?_
  refine .bind (yields_clause? hg (.pure True.intro)) fun last hlast => ?_
  refine .skip fun _ => .skip fun _ => yields_statementFrom ?_
  have hall : List.Forall Formed (handlers.flatMap (·.2)) :=
    forall_flatten (List.forall_map_iff _ |>.mpr hhandlers)
  simp [hbody.isFormed, hall, hothers, hlast]

theorem yields_caseClause : Yields (List.Forall Formed) g.caseClause := by
  refine .skip fun _ => .bind (yields_openPattern hg.expressions) fun what hwhat => ?_
  refine .skip fun _ => .ite_bind (yields_condition hg) (.pure True.intro) fun guard hguard => ?_
  refine .bind (yields_colonBlock hg) fun b hb => .pure ?_
  simp [hwhat.formed, AreExpressions.formed hguard, hb.isFormed]

theorem yields_matchHeader : Yields IsExpression g.matchHeader := by
  refine .skip fun _ => .skip fun first => .bind (.commaList (yields_displayItem hg.expressions))
    fun r hr => .skip fun _ => .skip fun _ => .skip fun _ => .skip fun _ => ?_
  exact yields_nodeFrom rfl hr

theorem yields_matchStatement : Yields Formed g.matchStatement := by
  refine .skip fun first => .bind (yields_matchHeader hg) fun subject hsubject => ?_
  refine .bind (.many (yields_caseClause hg)) fun cases hcases => .skip fun _ => .skip fun _ => ?_
  exact yields_statementFrom (by simp [hsubject.formed, forall_flatten hcases])

/-! ## Definitions -/

theorem yields_functionDefinition (first : Nat) :
    Yields IsFormedDefinition (g.functionDefinition first) := by
  refine .skip fun _ => .bind g.yields_memberName fun name hname => .skip fun _ => .skip fun _ => ?_
  refine .bind (yields_parameters hg.expressions true ")") fun ps hps => .skip fun _ => ?_
  have hresult : Yields AreExpressions ((fun x => [x]) <$> g.read .expression) :=
    .map (hg.expressions .expression rfl) fun _ hx => hx
  refine .skip fun _ => .ite_bind hresult (.pure True.intro) fun result hresult => ?_
  refine .bind (yields_colonBlock hg) fun body hbody => .nodeFrom fun last => ?_
  exact isFormedDefinition_node rfl hname (List.forall_append.mpr ⟨hps, hresult⟩) hbody

theorem yields_classDefinition : Yields IsFormedDefinition g.classDefinition := by
  refine .skip fun first => .skip fun _ => .bind g.yields_memberName fun name hname => ?_
  have hbases : Yields AreExpressions ((fun x => [x]) <$> g.arguments false) :=
    .map (yields_arguments hg.expressions false) fun _ hx => hx
  refine .skip fun _ => .skip fun _ => .ite_bind hbases (.pure True.intro) fun bases hbases => ?_
  refine .bind (yields_colonBlock hg) fun body hbody => .nodeFrom fun last => ?_
  exact isFormedDefinition_node rfl hname hbases hbody

theorem yields_definition : Yields IsFormedDefinition g.definition :=
  .skip fun first => .skip fun _ => .ite (yields_classDefinition hg) <|
    .skip fun _ => yields_functionDefinition hg first

theorem yields_decorator : Yields IsExpression g.decorator := by
  refine .skip fun first => .skip fun _ => .bind (hg.expressions .named rfl) fun x hx => ?_
  exact .skip fun _ => yields_nodeFrom rfl hx

theorem yields_decorated : Yields Formed g.decorated := by
  have hdecorator := yields_decorator hg
  refine .skip fun first => .bind hdecorator fun d hd => .bind (.many hdecorator) fun ds hds => ?_
  refine .bind (yields_definition hg) fun definition hdefinition => .nodeFrom fun last => ?_
  have hall : AreExpressions (d :: ds) := by simp [hd, hds]
  obtain ⟨kind, name, header, block, hdefinition, hblock⟩ := hdefinition
  obtain ⟨k, l, text, f, e, children⟩ := definition
  exact .decorated rfl rfl (List.forall_iff_forall_mem.mp hall) rfl
    { hdefinition with } hblock

theorem yields_asyncStatement : Yields Formed g.asyncStatement := by
  refine .skip fun first => .skip fun _ => .skip fun _ => .ite (yields_forStatement hg first) ?_
  refine .skip fun _ => .ite (yields_withStatement hg first) ?_
  exact (yields_functionDefinition hg first).mono fun _ h => h.formed

theorem yields_simpleLine : Yields Formed g.simpleLine := by
  refine .skip fun first => .bind (yields_simpleStatements hg.expressions) fun xs hxs => ?_
  split
  · exact .pure (IsExpression.formed hxs)
  · exact yields_statementFrom hxs.formed

theorem yields_soundStatement : Yields Formed g.soundStatement := by
  have hdefinition := (yields_definition hg).mono fun _ h => h.formed
  have hline := yields_simpleLine hg
  refine .skip fun first => .skip fun t => .ite ?_ (.ite (yields_decorated hg) hline)
  split
  · exact yields_ifStatement hg
  · exact yields_whileStatement hg
  · exact yields_forStatement hg first
  · exact yields_tryStatement hg
  · exact yields_withStatement hg first
  · exact hdefinition
  · exact hdefinition
  · exact yields_asyncStatement hg
  · exact .orElse (yields_matchStatement hg) hline
  · exact hline

theorem yields_statement : Yields Formed g.statement :=
  .orElse (yields_soundStatement hg) yields_damagedPlace

/-! ## The circle of the rules -/

theorem readsSource_rule (d : Dialect) : (Grammar.mk d g.rule).ReadsSource := by
  refine ⟨fun goal hgoal => ?_, yields_statement hg, yields_block hg⟩
  have he := hg.expressions
  cases goal with
  | expression => exact yields_expression he
  | named => exact yields_walrus he (yields_conditional he)
  | values => exact yields_values he
  | disjunction => exact yields_disjunction he
  | operand => exact yields_operand he
  | factor => exact yields_factor he
  | targets => exact yields_targets he
  | pattern => exact yields_pattern he
  | statement => cases hgoal
  | block => cases hgoal

end Source

theorem readsSource_ofDepth (d : Dialect) (n : Nat) : (ofDepth d n).ReadsSource := by
  -- No goal is read at depth zero, so nothing wrong is read there.
  induction n with
  | zero => exact ⟨fun _ _ => .failure, .failure, .failure⟩
  | succ n ih => exact readsSource_rule ih d

end Grammar

/-- The tree of a text is a list of formed statements, whatever the text is. -/
theorem Tree.formed_ofText? {d : Dialect} {text : List Char} {t : Tree}
    (h : Tree.ofText? d text = some t) :
    ∃ last statements, t = .node .other none "" 0 last statements ∧ ∀ u ∈ statements, u.Formed := by
  unfold ofText? at h
  obtain ⟨ts, -, h⟩ := Option.bind_eq_some_iff.mp h
  obtain ⟨⟨statements, rest⟩, hrun, h⟩ := Option.bind_eq_some_iff.mp h
  dsimp only at h
  split at h
  · have hstatements := Yields.many (Grammar.readsSource_ofDepth d _).statement _ _ _ hrun
    exact ⟨rest.row, statements, (Option.some.inj h).symm,
      List.forall_iff_forall_mem.mp hstatements⟩
  · cases h

end TestImpact.Source
