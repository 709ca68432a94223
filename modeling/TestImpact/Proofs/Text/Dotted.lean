import TestImpact.Text.Dotted
import TestImpact.Text.Identifier

/-
  Dotted names and their components.

  Cutting a name at its dots and joining the components gives the name back
  (`dotted_components`), so a name is told by its components. The simple name
  is the last component and the container has the others
  (`components_eq_container`). One name ends with the components of another if
  and only if it is that name, or ends with a dot and that name
  (`components_suffix_iff`): no component is ever cut in two. And if a name is
  two names with a dot between in two ways, then the two dots are the same or
  there is a name between them (`append_dot_eq_iff`).
-/

namespace TestImpact.Text

/-! ## Beginnings and endings of texts -/

theorem endsWith_iff {s back : String} :
    endsWith s back = true ↔ ∃ front, s = front ++ back := by
  rw [endsWith, List.isSuffixOf_iff_suffix]
  constructor
  · intro hgiven
    obtain ⟨front, h⟩ := hgiven
    refine ⟨String.ofList front, String.toList_inj.mp ?_⟩
    rw [String.toList_append, String.toList_ofList, h]
  · intro hgiven
    obtain ⟨front, rfl⟩ := hgiven
    exact ⟨front.toList, (String.toList_append).symm⟩

theorem occursIn_iff {part cs : List Char} : occursIn part cs = true ↔ part <:+: cs := by
  induction cs with
  | nil => simp [occursIn]
  | cons c cs ih =>
    rw [occursIn, Bool.or_eq_true, ih, List.isPrefixOf_iff_prefix, List.infix_cons_iff]

theorem holds_iff {s part : String} :
    holds s part = true ↔ ∃ front back, s = front ++ part ++ back := by
  rw [holds, occursIn_iff]
  constructor
  · intro hgiven
    obtain ⟨front, back, h⟩ := hgiven
    refine ⟨String.ofList front, String.ofList back, String.toList_inj.mp ?_⟩
    simp [← h]
  · intro hgiven
    obtain ⟨front, back, rfl⟩ := hgiven
    exact ⟨front.toList, back.toList, by simp⟩

/-! ## Cutting and joining -/

theorem splitAt_eq_splitOn (sep : Char) (cs : List Char) : splitAt sep cs = cs.splitOn sep := by
  induction cs with
  | nil => rfl
  | cons c rest ih =>
    rw [splitAt, List.splitOn_cons_eq_if_modifyHead, ih]
    by_cases h : c = sep
    · simp [h]
    · rw [if_neg h, if_neg (by simpa using h)]
      cases hsplit : rest.splitOn sep with
      | nil => exact absurd hsplit (List.splitOn_ne_nil sep rest)
      | cons p ps => rfl

theorem components_eq_splitOn (s : String) :
    components s = (s.toList.splitOn '.').map String.ofList := by
  rw [components, splitAt_eq_splitOn]

theorem components_ne_nil (s : String) : components s ≠ [] := by
  rw [components_eq_splitOn]
  simp

theorem components_of_not_mem {s : String} (h : '.' ∉ s.toList) : components s = [s] := by
  rw [components_eq_splitOn, List.splitOn_eq_singleton h]
  simp

theorem components_append (a b : String) :
    components (a ++ "." ++ b) = components a ++ components b := by
  have hlist : (a ++ "." ++ b).toList = a.toList ++ '.' :: b.toList := by simp
  rw [components_eq_splitOn, hlist, List.splitOn_append_cons_self, List.map_append,
    ← components_eq_splitOn, ← components_eq_splitOn]

theorem joined_append {sep : String} {ss ts : List String} (hs : ss ≠ []) (ht : ts ≠ []) :
    joined sep (ss ++ ts) = joined sep ss ++ sep ++ joined sep ts := by
  induction ss with
  | nil => exact absurd rfl hs
  | cons s rest ih =>
    cases rest with
    | nil =>
      obtain ⟨t, ts, rfl⟩ := List.exists_cons_of_ne_nil ht
      rfl
    | cons r rest =>
      simp only [List.cons_append] at ih
      simp only [List.cons_append, joined]
      rw [ih (List.cons_ne_nil r rest)]
      simp only [String.append_assoc]

theorem toList_joined_cons (sep s : String) (ss : List String) :
    (joined sep (s :: ss)).toList = s.toList ++ ss.flatMap fun t => sep.toList ++ t.toList := by
  induction ss generalizing s with
  | nil => simp [joined]
  | cons t ss ih =>
    rw [joined, String.toList_append, String.toList_append, ih, List.flatMap_cons]
    simp only [List.append_assoc]

theorem mem_toList_joined {sep : String} {ss : List String} {c : Char}
    (h : c ∈ (joined sep ss).toList) : c ∈ sep.toList ∨ ∃ s ∈ ss, c ∈ s.toList := by
  fun_induction joined sep ss with
  | case1 => simp at h
  | case2 s => exact .inr ⟨s, List.mem_singleton_self s, h⟩
  | case3 s t rest ih =>
    simp only [String.toList_append, List.mem_append] at h
    rcases h with (hs | hsep) | hrest
    · exact .inr ⟨s, List.mem_cons_self, hs⟩
    · exact .inl hsep
    · rcases ih hrest with hsep | ⟨u, hu, hc⟩
      · exact .inl hsep
      · exact .inr ⟨u, List.mem_cons_of_mem s hu, hc⟩

theorem toList_joined (sep : String) (ss : List String) :
    (joined sep ss).toList = sep.toList.intercalate (ss.map String.toList) := by
  induction ss with
  | nil => rfl
  | cons s ss ih =>
    cases ss with
    | nil => simp [joined]
    | cons t ss =>
      simp only [List.map_cons] at ih
      simp [joined, List.intercalate_cons_cons, ih]

/-- What is joined at a character is cut at it again, if it is in none of the pieces. -/
theorem splitAt_joined {sep : String} {c : Char} (hsep : sep.toList = [c]) {ss : List String}
    (hne : ss ≠ []) (h : ∀ s ∈ ss, c ∉ s.toList) :
    (splitAt c (joined sep ss).toList).map String.ofList = ss := by
  have hpieces : ∀ piece ∈ ss.map String.toList, c ∉ piece := by
    intro piece hpiece
    obtain ⟨s, hs, rfl⟩ := List.mem_map.mp hpiece
    exact h s hs
  rw [splitAt_eq_splitOn, toList_joined, hsep,
    List.splitOn_intercalate c hpieces (by simpa using hne), List.map_map]
  simp [Function.comp_def]

theorem dotted_ne_empty {ss : List String} (hne : ss ≠ []) (h : ∀ s ∈ ss, s ≠ "") :
    dotted ss ≠ "" := by
  obtain ⟨s, ss, rfl⟩ := List.exists_cons_of_ne_nil hne
  intro hempty
  have hchars := congrArg String.toList hempty
  rw [dotted, toList_joined_cons, String.toList_empty, List.append_eq_nil_iff] at hchars
  exact h s List.mem_cons_self (String.toList_eq_nil_iff.mp hchars.1)

theorem dotted_components (s : String) : dotted (components s) = s := by
  apply String.toList_inj.mp
  rw [dotted, toList_joined, components_eq_splitOn, List.map_map]
  simp only [Function.comp_def, String.toList_ofList, List.map_id']
  exact List.intercalate_splitOn '.'

theorem components_dotted {ss : List String} (hne : ss ≠ []) :
    components (dotted ss) = ss.flatMap components := by
  induction ss with
  | nil => exact absurd rfl hne
  | cons s ss ih =>
    cases ss with
    | nil => simp [dotted, joined]
    | cons t ss =>
      have hjoined : dotted (s :: t :: ss) = s ++ "." ++ dotted (t :: ss) := rfl
      rw [hjoined, components_append, ih (List.cons_ne_nil t ss)]
      exact List.flatMap_cons.symm

theorem components_inj {s t : String} : components s = components t ↔ s = t := by
  constructor
  · intro h
    rw [← dotted_components s, h, dotted_components]
  · intro hgiven
    obtain rfl := hgiven
    rfl

/-! ## What stands between dots -/

/-- A text that may stand between the dots of a name: it is not empty and has no dot. -/
def IsComponent (s : String) : Prop := s ≠ "" ∧ '.' ∉ s.toList

instance (s : String) : Decidable (IsComponent s) :=
  inferInstanceAs (Decidable (s ≠ "" ∧ '.' ∉ s.toList))

theorem isComponent_of_isIdentifier {s : String} (h : isIdentifier s.toList = true) :
    IsComponent s := by
  constructor
  · rintro rfl
    cases h
  · intro hdot
    cases hs : s.toList with
    | nil => simp [hs] at hdot
    | cons c cs =>
      rw [hs, isIdentifier, Bool.and_eq_true, List.all_eq_true] at h
      rcases List.mem_cons.mp (hs ▸ hdot) with rfl | hrest
      · cases h.1
      · cases h.2 _ hrest

theorem components_of_forall {ss : List String} (hne : ss ≠ []) (h : ∀ s ∈ ss, IsComponent s) :
    components (dotted ss) = ss :=
  splitAt_joined rfl hne fun s hs => (h s hs).2

/-! ## The last component -/

theorem splitAtLastDot_eq_none {cs : List Char} : splitAtLastDot cs = none ↔ '.' ∉ cs := by
  induction cs with
  | nil => simp [splitAtLastDot]
  | cons c rest ih =>
    unfold splitAtLastDot
    cases hrest : splitAtLastDot rest with
    | some parts =>
      have hdot : '.' ∈ rest := by
        refine Decidable.byContradiction fun h => ?_
        rw [ih.mpr h] at hrest
        cases hrest
      simp [hdot]
    | none =>
      have hdot : '.' ∉ rest := ih.mp hrest
      by_cases hc : c = '.'
      · simp [hc]
      · simp [hc, hdot, Ne.symm hc]

theorem splitAtLastDot_eq_some {cs front back : List Char}
    (h : splitAtLastDot cs = some (front, back)) : cs = front ++ '.' :: back ∧ '.' ∉ back := by
  induction cs generalizing front with
  | nil => simp [splitAtLastDot] at h
  | cons c rest ih =>
    unfold splitAtLastDot at h
    cases hrest : splitAtLastDot rest with
    | some parts =>
      rw [hrest] at h
      obtain ⟨rfl, rfl⟩ : c :: parts.1 = front ∧ parts.2 = back := by simpa using h
      obtain ⟨hcut, hback⟩ := ih hrest
      exact ⟨by rw [hcut]; rfl, hback⟩
    | none =>
      have hdot := splitAtLastDot_eq_none.mp hrest
      rw [hrest] at h
      by_cases hc : c = '.'
      · obtain ⟨rfl, rfl⟩ : [] = front ∧ rest = back := by simpa [hc] using h
        exact ⟨by rw [hc]; rfl, hdot⟩
      · simp [hc] at h

theorem splitAtLastDot_append {front back : List Char} (h : '.' ∉ back) :
    splitAtLastDot (front ++ '.' :: back) = some (front, back) := by
  induction front with
  | nil => simp [splitAtLastDot, splitAtLastDot_eq_none.mpr h]
  | cons c front ih => simp [splitAtLastDot, ih]

theorem simpleName_of_not_mem {s : String} (h : '.' ∉ s.toList) : simpleName s = s := by
  rw [simpleName, splitAtLastDot_eq_none.mpr h]

theorem eq_container_append {s : String} (h : '.' ∈ s.toList) :
    s = container s ++ "." ++ simpleName s ∧ '.' ∉ (simpleName s).toList := by
  cases hs : splitAtLastDot s.toList with
  | none => exact absurd h (splitAtLastDot_eq_none.mp hs)
  | some parts =>
    obtain ⟨front, back⟩ := parts
    obtain ⟨hcut, hback⟩ := splitAtLastDot_eq_some hs
    simp only [container, simpleName, hs]
    refine ⟨String.toList_inj.mp ?_, by simpa using hback⟩
    simpa using hcut

theorem components_eq_container {s : String} (h : '.' ∈ s.toList) :
    components s = components (container s) ++ [simpleName s] := by
  obtain ⟨hs, hname⟩ := eq_container_append h
  conv => lhs; rw [hs]
  rw [components_append, components_of_not_mem hname]

theorem getLast?_components (s : String) : (components s).getLast? = some (simpleName s) := by
  by_cases h : '.' ∈ s.toList
  · rw [components_eq_container h, List.getLast?_concat]
  · rw [components_of_not_mem h, simpleName_of_not_mem h]
    rfl

theorem one_lt_length_components {s : String} : 1 < (components s).length ↔ '.' ∈ s.toList := by
  constructor
  · intro hlength
    refine Decidable.byContradiction fun h => ?_
    rw [components_of_not_mem h] at hlength
    simp at hlength
  · intro h
    have hne := List.length_pos_iff.mpr (components_ne_nil (container s))
    rw [components_eq_container h, List.length_append, List.length_singleton]
    omega

/-! ## Endings by components -/

/-- A name is the name of its first components, a dot and the name of the others. -/
theorem eq_of_components_append {s : String} {front back : List String} (hfront : front ≠ [])
    (hback : back ≠ []) (h : components s = front ++ back) :
    s = dotted front ++ "." ++ dotted back := by
  rw [← dotted_components s, h]
  exact joined_append hfront hback

theorem components_suffix_iff {s t : String} :
    components t <:+ components s ↔ s = t ∨ ∃ front, s = front ++ "." ++ t := by
  constructor
  · intro hgiven
    obtain ⟨front, h⟩ := hgiven
    by_cases hfront : front = []
    · left
      rw [hfront, List.nil_append] at h
      exact (components_inj.mp h).symm
    · right
      refine ⟨dotted front, ?_⟩
      have hcut := eq_of_components_append hfront (components_ne_nil t) h.symm
      rwa [dotted_components] at hcut
  · intro hgiven
    rcases hgiven with rfl | ⟨front, rfl⟩
    · exact List.suffix_refl _
    · rw [components_append]
      exact List.suffix_append _ _

/-! ## One name, cut at two dots -/

/-- If the second cut is not before the first one, what is between them is nothing or a name. -/
theorem cut_of_components {a b a' b' : String} {between : List String}
    (h : components a' = components a ++ between) (h' : components b = between ++ components b') :
    a = a' ∧ b = b' ∨ ∃ e, a' = a ++ "." ++ e ∧ b = e ++ "." ++ b' := by
  by_cases hbetween : between = []
  · subst hbetween
    rw [List.append_nil] at h
    exact .inl ⟨components_inj.mp h.symm, components_inj.mp h'⟩
  · have hfront := eq_of_components_append (components_ne_nil a) hbetween h
    have hback := eq_of_components_append hbetween (components_ne_nil b') h'
    rw [dotted_components] at hfront hback
    exact .inr ⟨dotted between, hfront, hback⟩

/-- Two names with a dot between make the same name as two others if and only if they are the same,
or some name stands behind one first name and in front of the other second one. -/
theorem append_dot_eq_iff {a b a' b' : String} : a ++ "." ++ b = a' ++ "." ++ b' ↔
    a = a' ∧ b = b' ∨ (∃ e, a' = a ++ "." ++ e ∧ b = e ++ "." ++ b') ∨
      ∃ e, a = a' ++ "." ++ e ∧ b' = e ++ "." ++ b := by
  constructor
  · intro h
    have hcomponents := congrArg components h
    rw [components_append, components_append] at hcomponents
    rcases List.append_eq_append_iff.mp hcomponents with ⟨between, hleft, hright⟩
      | ⟨between, hleft, hright⟩
    · exact (cut_of_components hleft hright).imp_right .inl
    · rcases cut_of_components hleft hright with ⟨rfl, rfl⟩ | hlater
      · exact .inl ⟨rfl, rfl⟩
      · exact .inr (.inr hlater)
  · rintro (⟨rfl, rfl⟩ | ⟨e, rfl, rfl⟩ | ⟨e, rfl, rfl⟩)
    · rfl
    · simp only [String.append_assoc]
    · simp only [String.append_assoc]

end TestImpact.Text
