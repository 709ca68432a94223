import TestImpact.CallGraph.Dot
import TestImpact.Proofs.CallGraph.Focus

/-
  Reading DOT files.

  In a quoted string a backslash directly before a quotation mark stands for
  that mark, any other mark ends the string, and every other character stands
  for itself (`tokens`). A string that an arrow leads from to the next one is
  the caller of an edge, and any other string is a function (`statements`).

  A name is read back from its string unless it ends in a backslash: this one
  stands directly before the mark that should end the string, which goes on
  behind it (`first_name_of_backslash`). So what a DOT file says is exactly the
  functions and edges shown if and only if no function shown has a name that
  ends in a backslash (`read_dot_iff`).
-/

namespace TestImpact.CallGraph

/-- What a DOT file says of a graph. -/
inductive DotStatement where
  | node (name : String)
  | edge (e : CallEdge)
  deriving DecidableEq, Repr

namespace DotStatement

/-- A quoted string with the characters it stands for, or a character outside of quotes. -/
inductive Token where
  | quoted (name : List Char)
  | outside (c : Char)
  deriving DecidableEq, Repr

/-- Cuts a text into tokens, from outside of quotes or from behind some characters in quotes, the
last one first. No string may be left open. -/
def tokens : Option (List Char) → List Char → Option (List Token)
  | none, [] => some []
  | none, c :: cs => if c = '"' then tokens (some []) cs else (tokens none cs).map (.outside c :: ·)
  | some _, [] => none
  | some passed, '\\' :: '"' :: cs => tokens (some ('"' :: passed)) cs
  | some passed, c :: cs =>
    if c = '"' then (tokens none cs).map (.quoted passed.reverse :: ·)
    else tokens (some (c :: passed)) cs

/-- Two strings with an arrow between them are an edge, any other string is a function. -/
def statements : List Token → List DotStatement
  | [] => []
  | .outside _ :: ts => statements ts
  | .quoted caller :: .outside ' ' :: .outside '-' :: .outside '>' :: .outside ' ' ::
      .quoted callee :: ts =>
    .edge ⟨String.ofList caller, String.ofList callee⟩ :: statements ts
  | .quoted name :: ts => .node (String.ofList name) :: statements ts

/-- What the characters of a DOT file say, from outside of quotes. -/
def readFrom (cs : List Char) : Option (List DotStatement) := (tokens none cs).map statements

def read (text : String) : Option (List DotStatement) := readFrom text.toList

/-! ## Quoted names -/

/-- A name whose string is closed too late. -/
def EndsInBackslash (name : String) : Prop := name.toList.getLast? = some '\\'

theorem escaped_cons (c : Char) (cs : List Char) :
    escaped (c :: cs) = (if c = '"' then ['\\', '"'] else [c]) ++ escaped cs := List.flatMap_cons

theorem tokens_quote (passed cs : List Char) :
    tokens (some passed) ('\\' :: '"' :: cs) = tokens (some ('"' :: passed)) cs := rfl

theorem tokens_plain {c : Char} (hc : c ≠ '"') {passed cs : List Char}
    (hpair : c = '\\' → cs.head? ≠ some '"') :
    tokens (some passed) (c :: cs) = tokens (some (c :: passed)) cs := by
  rw [tokens.eq_def]
  split
  all_goals simp_all

theorem head?_escaped {cs rest : List Char} (hne : cs ≠ []) :
    (escaped cs ++ rest).head? ≠ some '"' := by
  obtain ⟨c, cs, rfl⟩ := List.exists_cons_of_ne_nil hne
  rw [escaped_cons]
  split <;> simp_all

/-- All of a name but a backslash at its end is read back from the quoted name. -/
theorem tokens_escaped {cs rest : List Char}
    (hend : cs.getLast? = some '\\' → rest.head? ≠ some '"') (passed : List Char) :
    tokens (some passed) (escaped cs ++ rest) = tokens (some (cs.reverse ++ passed)) rest := by
  induction cs generalizing passed with
  | nil => rfl
  | cons c cs ih =>
    have hmore : cs.getLast? = some '\\' → rest.head? ≠ some '"' := fun hlast =>
      hend (by rw [List.getLast?_cons, hlast]; rfl)
    rw [escaped_cons, List.append_assoc]
    by_cases hc : c = '"'
    · rw [if_pos hc, hc]
      show tokens (some passed) ('\\' :: '"' :: (escaped cs ++ rest)) = _
      rw [tokens_quote, ih hmore]
      simp
    · have hpair : c = '\\' → (escaped cs ++ rest).head? ≠ some '"' := by
        rintro rfl
        by_cases hcs : cs = []
        · subst hcs
          exact hend rfl
        · exact head?_escaped hcs
      rw [if_neg hc, List.singleton_append, tokens_plain hc hpair, ih hmore]
      simp

theorem tokens_open {passed cs : List Char} {ts : List Token}
    (h : tokens (some passed) cs = some ts) :
    ∃ more ts', ts = .quoted (passed.reverse ++ more) :: ts' := by
  generalize hpart : some passed = part at h
  fun_induction tokens part cs generalizing passed ts with
  | case1 => cases hpart
  | case2 => cases hpart
  | case3 => cases hpart
  | case4 => cases h
  | case5 _ cs ih =>
    obtain rfl := Option.some.inj hpart
    obtain ⟨more, ts', rfl⟩ := ih rfl h
    exact ⟨'"' :: more, ts', by simp⟩
  | case6 _ cs =>
    obtain rfl := Option.some.inj hpart
    obtain ⟨ts', -, rfl⟩ := Option.map_eq_some_iff.mp h
    exact ⟨[], ts', by simp⟩
  | case7 _ c cs _ _ ih =>
    obtain rfl := Option.some.inj hpart
    obtain ⟨more, ts', rfl⟩ := ih rfl h
    exact ⟨c :: more, ts', by simp⟩

theorem toList_dotName (name : String) :
    (dotName name).toList = '"' :: (escaped name.toList ++ ['"']) := by
  simp [dotName]

theorem tokens_dotName {name : String} (hend : ¬EndsInBackslash name) (rest : List Char) :
    tokens none ((dotName name).toList ++ rest)
      = (tokens none rest).map (.quoted name.toList :: ·) := by
  have hopen : tokens none ((dotName name).toList ++ rest)
      = tokens (some []) (escaped name.toList ++ '"' :: rest) := by
    simp [toList_dotName, tokens]
  rw [hopen, tokens_escaped fun hlast => absurd hlast hend, List.append_nil, tokens.eq_def]
  simp

/-- The string of a name that ends in a backslash is read on beyond its end. -/
theorem first_name_of_backslash {name : String} (hend : EndsInBackslash name) {rest : List Char}
    {ts : List Token} (h : tokens none ((dotName name).toList ++ rest) = some ts) :
    ∃ read ts', read ≠ name.toList ∧ ts = .quoted read :: ts' := by
  obtain ⟨front, hfront⟩ : ∃ front, name.toList = front ++ ['\\'] :=
    List.getLast?_eq_some_iff.mp hend
  have hescaped : escaped name.toList = escaped front ++ ['\\'] := by
    rw [hfront, escaped, List.flatMap_append]
    rfl
  have hopen : tokens none ((dotName name).toList ++ rest)
      = tokens (some []) (escaped front ++ '\\' :: '"' :: rest) := by
    simp [toList_dotName, tokens, hescaped]
  rw [hopen, tokens_escaped (by simp), List.append_nil, tokens_quote] at h
  obtain ⟨more, ts', rfl⟩ := tokens_open h
  refine ⟨_, ts', fun heq => ?_, rfl⟩
  rw [hfront] at heq
  simp at heq

/-! ## Lines -/

theorem tokens_outside {cs : List Char} (h : '"' ∉ cs) (rest : List Char) :
    tokens none (cs ++ rest) = (tokens none rest).map (cs.map .outside ++ ·) := by
  induction cs with
  | nil => simp
  | cons c cs ih =>
    obtain ⟨hc, hcs⟩ : '"' ≠ c ∧ '"' ∉ cs := by simpa using h
    rw [List.cons_append, tokens, if_neg (Ne.symm hc), ih hcs, Option.map_map]
    rfl

theorem statements_outside (cs : List Char) (ts : List Token) :
    statements (cs.map .outside ++ ts) = statements ts := by
  induction cs with
  | nil => rfl
  | cons c cs ih => rw [List.map_cons, List.cons_append, statements, ih]

theorem readFrom_outside {cs : List Char} (h : '"' ∉ cs) (rest : List Char) :
    readFrom (cs ++ rest) = readFrom rest := by
  rw [readFrom, tokens_outside h, Option.map_map]
  congr 1
  funext ts
  exact statements_outside cs ts

theorem readFrom_name {name : String} (hend : ¬EndsInBackslash name) (rest : List Char) :
    readFrom ((dotName name).toList ++ ' ' :: '[' :: rest)
      = (readFrom rest).map (.node name :: ·) := by
  have hplain : '"' ∉ [' ', '['] := by decide
  have hmarks : tokens none (' ' :: '[' :: rest)
      = (tokens none rest).map ([' ', '['].map .outside ++ ·) := tokens_outside hplain rest
  rw [readFrom, tokens_dotName hend, hmarks, readFrom, Option.map_map, Option.map_map,
    Option.map_map]
  congr 1
  funext ts
  simp [statements]

theorem readFrom_arrow {e : CallEdge} (hcaller : ¬EndsInBackslash e.caller)
    (hcallee : ¬EndsInBackslash e.callee) (rest : List Char) :
    readFrom ((dotName e.caller).toList ++ (" -> ".toList ++ ((dotName e.callee).toList ++ rest)))
      = (readFrom rest).map (.edge e :: ·) := by
  have harrow : tokens none (" -> ".toList ++ ((dotName e.callee).toList ++ rest))
      = (tokens none rest).map fun ts =>
          " -> ".toList.map .outside ++ .quoted e.callee.toList :: ts := by
    have hplain : '"' ∉ " -> ".toList := by decide
    rw [tokens_outside hplain, tokens_dotName hcallee, Option.map_map]
    rfl
  rw [readFrom, tokens_dotName hcaller, harrow, readFrom, Option.map_map, Option.map_map,
    Option.map_map]
  apply Option.map_congr
  intro ts _
  simp [statements]

/-- From the string of a name that ends in a backslash this name is not read. -/
theorem readFrom_ne_of_backslash {name : String} (hend : EndsInBackslash name) (rest : List Char)
    (said : List DotStatement) :
    readFrom ((dotName name).toList ++ rest) ≠ some (.node name :: said) := by
  intro hread
  obtain ⟨ts, hts, hsaid⟩ := Option.map_eq_some_iff.mp hread
  obtain ⟨found, ts', hfound, rfl⟩ := first_name_of_backslash hend hts
  rw [statements.eq_def] at hsaid
  split at hsaid
  · rename_i hnil
    cases hnil
  · rename_i houtside
    cases houtside
  · cases hsaid
  · rename_i heq
    obtain ⟨hquoted, -⟩ := List.cons.inj heq
    obtain rfl := Token.quoted.inj hquoted
    have hname := DotStatement.node.inj (List.cons.inj hsaid).1
    exact hfound (by rw [← hname, String.toList_ofList])

/-! ## Files -/

section File

variable (isTest : String → Bool)

/-- The line of a function is its name with a bracket behind it, and nothing else in quotes. -/
theorem exists_shape (name : String) :
    ∃ shape, '"' ∉ shape ∧ ∀ rest,
      readFrom ("\n".toList ++ (dotNode isTest name).toList ++ rest)
        = readFrom ((dotName name).toList ++ ' ' :: '[' :: (shape ++ rest)) := by
  let shape := ("shape=" ++ (if isTest name then "box" else "ellipse") ++ "];").toList
  have hline : (dotNode isTest name).toList
      = "  ".toList ++ ((dotName name).toList ++ ' ' :: '[' :: shape) := by
    simp [dotNode, shape]
  have hfront : '"' ∉ "\n".toList ++ "  ".toList := by decide
  refine ⟨shape, ?_, fun rest => ?_⟩
  · unfold shape
    split <;> decide
  · calc readFrom ("\n".toList ++ (dotNode isTest name).toList ++ rest)
        = readFrom (("\n".toList ++ "  ".toList)
            ++ ((dotName name).toList ++ ' ' :: '[' :: (shape ++ rest))) := by
          rw [hline]
          simp only [List.append_assoc, List.cons_append]
      _ = readFrom ((dotName name).toList ++ ' ' :: '[' :: (shape ++ rest)) :=
          readFrom_outside hfront _

theorem readFrom_dotNode {name : String} (hend : ¬EndsInBackslash name) (rest : List Char) :
    readFrom ("\n".toList ++ (dotNode isTest name).toList ++ rest)
      = (readFrom rest).map (.node name :: ·) := by
  obtain ⟨shape, hshape, hline⟩ := exists_shape isTest name
  rw [hline, readFrom_name hend, readFrom_outside hshape]

theorem readFrom_dotNode_ne {name : String} (hend : EndsInBackslash name) (rest : List Char)
    (said : List DotStatement) :
    readFrom ("\n".toList ++ (dotNode isTest name).toList ++ rest) ≠ some (.node name :: said) := by
  obtain ⟨shape, -, hline⟩ := exists_shape isTest name
  rw [hline]
  exact readFrom_ne_of_backslash hend _ said

theorem readFrom_dotEdge {e : CallEdge} (hends : ∀ name ∈ e.ends, ¬EndsInBackslash name)
    (rest : List Char) :
    readFrom ("\n".toList ++ (dotEdge e).toList ++ rest) = (readFrom rest).map (.edge e :: ·) := by
  have hfront : '"' ∉ "\n".toList ++ "  ".toList := by decide
  have hstop : '"' ∉ ";".toList := by decide
  calc readFrom ("\n".toList ++ (dotEdge e).toList ++ rest)
      = readFrom (("\n".toList ++ "  ".toList) ++ ((dotName e.caller).toList
          ++ (" -> ".toList ++ ((dotName e.callee).toList ++ (";".toList ++ rest))))) := by
        simp only [dotEdge, String.toList_append, List.append_assoc]
    _ = (readFrom rest).map (.edge e :: ·) := by
        rw [readFrom_outside hfront, readFrom_arrow (hends e.caller (by simp [CallEdge.ends]))
          (hends e.callee (by simp [CallEdge.ends])), readFrom_outside hstop]

/-- The lines of functions are read as they are meant if and only if no name ends in a backslash. -/
theorem readFrom_nodes (names : List String) (rest : List Char) (said : List DotStatement) :
    readFrom (names.flatMap (fun name => "\n".toList ++ (dotNode isTest name).toList) ++ rest)
        = some (names.map .node ++ said) ↔
      (∀ name ∈ names, ¬EndsInBackslash name) ∧ readFrom rest = some said := by
  induction names with
  | nil => simp
  | cons name names ih =>
    rw [List.flatMap_cons, List.append_assoc, List.map_cons, List.cons_append, List.forall_mem_cons]
    by_cases hend : EndsInBackslash name
    · simp only [hend, not_true_eq_false, false_and, iff_false]
      exact readFrom_dotNode_ne isTest hend _ _
    · rw [readFrom_dotNode isTest hend, and_assoc, ← ih]
      simp [hend, Option.map_eq_some_iff]

theorem readFrom_edges {es : List CallEdge}
    (hends : ∀ e ∈ es, ∀ name ∈ e.ends, ¬EndsInBackslash name) (rest : List Char) :
    readFrom (es.flatMap (fun e => "\n".toList ++ (dotEdge e).toList) ++ rest)
      = (readFrom rest).map (es.map .edge ++ ·) := by
  induction es with
  | nil => simp
  | cons e es ih =>
    obtain ⟨he, hes⟩ := List.forall_mem_cons.mp hends
    rw [List.flatMap_cons, List.append_assoc, readFrom_dotEdge he, ih hes, Option.map_map]
    rfl

theorem toList_dot (g : CallGraph) (focus : String) :
    (g.dot focus isTest).toList = "digraph TestGraph \x7b\n  rankdir=LR;".toList
      ++ ((g.shownNodes focus).flatMap (fun name => "\n".toList ++ (dotNode isTest name).toList)
      ++ ((g.shownEdges focus).flatMap (fun e => "\n".toList ++ (dotEdge e).toList)
      ++ "\n\x7d".toList)) := by
  rw [dot, List.append_assoc, List.append_assoc, List.cons_append, Text.toList_joined_cons]
  simp [List.flatMap_append, List.flatMap_map]

/-- **When a DOT file can be read back.** The quoted strings of the file are exactly the names of
the functions shown and of the callers and callees of the edges shown, each where it belongs, if
and only if no function shown has a name that ends in a backslash. -/
theorem read_dot_iff (g : CallGraph) (focus : String) :
    read (g.dot focus isTest)
        = some ((g.shownNodes focus).map .node ++ (g.shownEdges focus).map .edge) ↔
      ∀ name ∈ g.shownNodes focus, ¬∃ front, name = front ++ "\\" := by
  have hend : ∀ name : String, (∃ front, name = front ++ "\\") ↔ EndsInBackslash name := by
    intro name
    rw [EndsInBackslash, List.getLast?_eq_some_iff]
    constructor
    · intro hgiven
      obtain ⟨front, rfl⟩ := hgiven
      exact ⟨front.toList, by simp⟩
    · intro hgiven
      obtain ⟨front, hfront⟩ := hgiven
      exact ⟨String.ofList front, String.toList_inj.mp (by simp [hfront])⟩
  have hfront : '"' ∉ "digraph TestGraph \x7b\n  rankdir=LR;".toList := by decide
  have hback : readFrom "\n\x7d".toList = some [] := rfl
  simp only [hend]
  rw [read, toList_dot, readFrom_outside hfront, readFrom_nodes]
  refine and_iff_left_of_imp fun hnodes => ?_
  -- The ends of the edges shown are functions shown.
  rw [readFrom_edges fun e he name hname => hnodes name (mem_shownNodes.mpr ⟨e, he, hname⟩), hback]
  simp

/-- With a caller whose name ends in a backslash, the first string of the file ends where the second
one should begin, and the last string does not end at all. -/
theorem read_dot_backslash :
    let g := ofEdges [⟨"a\\", "b"⟩]
    g.shownNodes "" = ["a\\", "b"] ∧ g.shownEdges "" = [⟨"a\\", "b"⟩] ∧
      read (g.dot "" fun _ => false) = none := by
  intro g
  exact ⟨by decide +kernel, by decide +kernel, by decide +kernel⟩

end File

end DotStatement

end TestImpact.CallGraph
