import TestImpact.Proofs.Text.Utf8
import TestImpact.Toml.Write

/-
  A written document holds no carriage return.

  A text file gives a line feed for every carriage return in it, so only what
  holds none comes back from a file as it was written. Texts and names spell
  their carriage returns as escapes; numbers, moments and the marks between
  them have none. The tables of a document are written by three functions that
  call each other with one level of lists less, so what is known of all three
  at one level is carried to the next (`Levels.step`).
-/

namespace TestImpact.Toml

/-- Holds no carriage return. -/
def NoReturn (s : String) : Prop := '\r' ∉ s.toList

instance (s : String) : Decidable (NoReturn s) := inferInstanceAs (Decidable ('\r' ∉ s.toList))

theorem NoReturn.append {s t : String} (hs : NoReturn s) (ht : NoReturn t) :
    NoReturn (s ++ t) := by
  simp only [NoReturn, String.toList_append, List.mem_append, not_or]
  exact ⟨hs, ht⟩

theorem noReturn_ofList {cs : List Char} : NoReturn (String.ofList cs) ↔ '\r' ∉ cs := by
  rw [NoReturn, String.toList_ofList]

/-! Quoted texts -/

theorem notMem_hexDigits (count n : Nat) : '\r' ∉ Text.hexDigits count n := by
  have hdigit : ∀ n < 16, '\r' ≠ Text.hexDigit n := by decide
  induction count generalizing n with
  | zero => simp [Text.hexDigits]
  | succ count ih =>
    simp only [Text.hexDigits, List.mem_append, List.mem_singleton, not_or]
    exact ⟨ih (n / 16), hdigit _ (Nat.mod_lt n (by decide))⟩

theorem notMem_quotedChar {quote : Char} (h : quote ≠ '\r') (c : Char) :
    '\r' ∉ Text.quotedChar quote c := by
  unfold Text.quotedChar
  split_ifs with hmark _ _ hreturn
  · have hc : '\r' ≠ c := by
      rintro rfl
      simp [h.symm] at hmark
    simp [hc]
  · simp
  · simp
  · simp
  · intro hmem
    rw [← List.mem_singleton.mp hmem] at hreturn
    exact hreturn rfl
  · have hescape : ∀ (letter : Char) (count : Nat), '\r' ≠ letter →
        '\r' ∉ '\\' :: letter :: Text.hexDigits count c.toNat := fun letter count hletter =>
      List.not_mem_cons_of_ne_of_not_mem (by decide)
        (List.not_mem_cons_of_ne_of_not_mem hletter (notMem_hexDigits count c.toNat))
    unfold Text.escapeByCodePoint
    split
    · exact hescape 'x' 2 (by decide)
    · split
      · exact hescape 'u' 4 (by decide)
      · exact hescape 'U' 8 (by decide)

theorem notMem_body (s : String) : '\r' ∉ Quoted.body s := by
  have hquote : Text.quoteFor s.toList ≠ '\r' := by
    unfold Text.quoteFor
    split_ifs <;> decide
  unfold Quoted.body
  simp only [List.mem_flatMap, not_exists, not_and]
  intro c _
  split_ifs
  · simp
  · simp
  · exact notMem_quotedChar hquote c
  · exact notMem_quotedChar hquote c

theorem notMem_splitAtPair {a b : Char} {cs : List Char} (h : '\r' ∉ cs) :
    ∀ piece ∈ splitAtPair a b cs, '\r' ∉ piece := by
  have hfirst : ∀ {c : Char} {pieces : List (List Char)}, '\r' ≠ c →
      (∀ piece ∈ pieces, '\r' ∉ piece) → ∀ piece ∈ Text.consToFirst c pieces, '\r' ∉ piece := by
    intro c pieces hc hpieces
    cases pieces with
    | nil => simpa [Text.consToFirst] using hc
    | cons first more =>
      rw [List.forall_mem_cons] at hpieces
      rw [Text.consToFirst, List.forall_mem_cons]
      exact ⟨List.not_mem_cons_of_ne_of_not_mem hc hpieces.1, hpieces.2⟩
  fun_induction splitAtPair a b cs with
  | case1 c d cs hpair ih =>
    simp only [List.mem_cons, not_or] at h
    simpa using ih h.2.2
  | case2 c d cs hpair ih =>
    rw [List.mem_cons, not_or] at h
    exact hfirst h.1 (ih h.2)
  | case3 cs hshort => simpa using h

theorem notMem_halved {cs : List Char} (h : '\r' ∉ cs) : '\r' ∉ Quoted.halved cs := by
  fun_induction Quoted.halved cs with
  | case1 cs ih =>
    simp only [List.mem_cons, not_or] at h ⊢
    exact ⟨h.1, ih h.2.2⟩
  | case2 c cs hpair ih =>
    simp only [List.mem_cons, not_or] at h ⊢
    exact ⟨h.1, ih h.2⟩
  | case3 => exact h

theorem notMem_link (front : List Char) : '\r' ∉ Quoted.link front := by
  unfold Quoted.link
  split
  · simp
  · dsimp only
    split_ifs <;> simp

theorem notMem_linked {front cs : List Char} {pieces : List (List Char)} (hfront : '\r' ∉ front)
    (hpieces : ∀ piece ∈ pieces, '\r' ∉ piece) (h : Quoted.linked front pieces = some cs) :
    '\r' ∉ cs := by
  fun_induction Quoted.linked front pieces with
  | case1 front => exact Option.some.inj h ▸ hfront
  | case2 => cases h
  | case3 front piece _ next more halved ih =>
    simp only [List.forall_mem_cons] at hpieces
    refine ih ?_ hpieces.2.2 h
    simp [halved, notMem_halved hpieces.1, notMem_link, hpieces.2.1]
  | case4 front piece pieces _ halved ih =>
    simp only [List.forall_mem_cons] at hpieces
    refine ih ?_ hpieces.2 h
    simp [halved, notMem_halved hfront, notMem_link, hpieces.1]

theorem noReturn_quotedText {s q : String} (h : quotedText s = .ok q) : NoReturn q := by
  have hpieces := notMem_splitAtPair (a := '\\') (b := 'x') (notMem_body s)
  unfold quotedText Quoted.write? at h
  split at h
  · rename_i written hwritten
    obtain rfl := Except.ok.inj h
    split at hwritten
    · exact Option.some.inj hwritten ▸ by decide
    · rename_i front pieces hsplit
      rw [hsplit, List.forall_mem_cons] at hpieces
      obtain ⟨cs, hcs, rfl⟩ := Option.map_eq_some_iff.mp hwritten
      have hinner := noReturn_ofList.mpr (notMem_linked hpieces.1 hpieces.2 hcs)
      exact ((by decide : NoReturn "\"").append hinner).append (by decide)
  · cases h

theorem noReturn_nameText {name text : String} (h : nameText name = .ok text) : NoReturn text := by
  unfold nameText at h
  split_ifs at h with hbare
  · obtain rfl := Except.ok.inj h
    unfold isBareName at hbare
    simp only [Bool.and_eq_true, List.all_eq_true] at hbare
    intro hmem
    split_ifs at hbare with hend
    · obtain ⟨front, hfront⟩ := List.getLast?_eq_some_iff.mp hend
      rw [hfront] at hbare hmem
      rcases List.mem_append.mp hmem with hmem | hmem
      · have := hbare.2 '\r' (by simpa using hmem)
        revert this
        decide
      · revert hmem
        decide
    · have := hbare.2 '\r' hmem
      revert this
      decide
  · exact noReturn_quotedText h

/-! Numbers and moments -/

theorem noReturn_of_digits {s : String} (h : ∀ c ∈ s.toList, c.isDigit = true) : NoReturn s := by
  intro hmem
  have := h _ hmem
  revert this
  decide

theorem isDigit_of_mem_toString {n : Nat} : ∀ c ∈ (toString n).toList, c.isDigit = true := by
  intro c hc
  have htext : (toString n).toList = Nat.toDigits 10 n := by
    change (Nat.repr n).toList = _
    rw [Nat.repr, String.toList_ofList]
  rw [htext] at hc
  exact Nat.isDigit_of_mem_toDigits (by decide) (by decide) hc

theorem noReturn_toString (n : Nat) : NoReturn (toString n) :=
  noReturn_of_digits isDigit_of_mem_toString

theorem noReturn_int (n : Int) : NoReturn (toString n) := by
  cases n with
  | ofNat n => exact noReturn_toString n
  | negSucc n => exact (by decide : NoReturn "-").append (noReturn_toString (n + 1))

theorem noReturn_zeros (n : Nat) : NoReturn (Binary64.zeros n) := by
  refine noReturn_ofList.mpr fun hmem => ?_
  have := List.eq_of_mem_replicate hmem
  revert this
  decide

theorem noReturn_padded (count n : Nat) : NoReturn (padded count n) :=
  (noReturn_zeros _).append (noReturn_toString n)

theorem noReturn_decimal (l : Binary64.Layout) (d : Decimal) : NoReturn (l.decimal d) := by
  have hpart : ∀ {cs : List Char} {n : Nat}, cs ⊆ (toString n).toList →
      NoReturn (String.ofList cs) := fun hpart =>
    noReturn_ofList.mpr fun hmem => noReturn_toString _ (hpart hmem)
  have hdigits := noReturn_toString d.digits
  have hpoint : NoReturn "." := by decide
  unfold Binary64.Layout.decimal
  dsimp only
  split_ifs
  · exact ((by decide : NoReturn "0.").append (noReturn_zeros _)).append hdigits
  · exact (hdigits.append (noReturn_zeros _)).append (by decide)
  · exact ((hpart (List.take_subset _ _)).append hpoint).append (hpart (List.drop_subset _ _))
  all_goals
    refine .append (.append (.append (.append (hpart (List.take_subset _ _)) ?_) (by decide))
      (noReturn_zeros _)) (noReturn_toString _)
  · decide
  · decide
  · exact hpoint.append (hpart (List.drop_subset _ _))
  · exact hpoint.append (hpart (List.drop_subset _ _))

theorem noReturn_float (x : Binary64) : NoReturn x.text := by
  cases x with
  | finite s m e => exact .append (by cases s <;> decide) (noReturn_decimal _ _)
  | infinite s => cases s <;> decide
  | notANumber => decide

theorem notMem_shortExponent {cs : List Char} (h : '\r' ∉ cs) : '\r' ∉ shortExponent cs := by
  fun_induction shortExponent cs with
  | case1 cs ih =>
    simp only [List.mem_cons, not_or] at h ⊢
    exact ⟨h.1, h.2.1, ih h.2.2.2⟩
  | case2 cs ih =>
    simp only [List.mem_cons, not_or] at h ⊢
    exact ⟨h.1, h.2.1, ih h.2.2.2⟩
  | case3 c cs _ _ ih =>
    simp only [List.mem_cons, not_or] at h ⊢
    exact ⟨h.1, ih h.2⟩
  | case4 => exact h

theorem noReturn_date (d : Date) : NoReturn d.text :=
  ((((noReturn_padded 4 d.year).append (by decide)).append (noReturn_padded 2 d.month)).append
    (by decide)).append (noReturn_padded 2 d.day)

theorem noReturn_time (t : ClockTime) : NoReturn t.text := by
  refine .append (.append (.append (.append (.append (noReturn_padded _ _) (by decide))
    (noReturn_padded _ _)) (by decide)) (noReturn_padded _ _)) ?_
  split_ifs
  · decide
  · exact (by decide : NoReturn ".").append (noReturn_padded _ _)

theorem noReturn_offset {minutes : Int} {text : String} (h : offsetText? minutes = some text) :
    NoReturn text := by
  unfold offsetText? at h
  dsimp only at h
  split_ifs at h
  all_goals
    obtain rfl := Option.some.inj h
    exact .append (.append (.append (by decide) (noReturn_padded _ _)) (by decide))
      (noReturn_padded _ _)

theorem noReturn_moment {m : Moment} {text : String} (h : m.text? = some text) :
    NoReturn text := by
  have hboth : ∀ d t, NoReturn (Date.text d ++ "T" ++ ClockTime.text t) := fun d t =>
    ((noReturn_date d).append (by decide)).append (noReturn_time t)
  cases m with
  | date d => exact Option.some.inj h ▸ noReturn_date d
  | time t => exact Option.some.inj h ▸ noReturn_time t
  | dateTime d t offset =>
    cases offset with
    | none => exact Option.some.inj h ▸ hboth d t
    | some minutes =>
      obtain ⟨o, ho, rfl⟩ := Option.map_eq_some_iff.mp h
      exact (hboth d t).append (noReturn_offset ho)

theorem noReturn_shortOffset {text : String} (h : NoReturn text) : NoReturn (shortOffset text) := by
  unfold shortOffset
  split_ifs
  · refine (noReturn_ofList.mpr fun hmem => h ?_).append (by decide)
    exact List.take_subset _ _ hmem
  · exact h

/-! Values -/

theorem bind_eq_ok {ε α β : Type} {x : Except ε α} {f : α → Except ε β} {b : β}
    (h : x >>= f = .ok b) : ∃ a, x = .ok a ∧ f a = .ok b := by
  cases x with
  | error e => cases h
  | ok a => exact ⟨a, rfl, h⟩

theorem map_eq_ok {ε α β : Type} {x : Except ε α} {f : α → β} {b : β}
    (h : x.map f = .ok b) : ∃ a, x = .ok a ∧ f a = b := by
  cases x with
  | error e => cases h
  | ok a => exact ⟨a, rfl, Except.ok.inj h⟩

theorem noReturn_fieldNameTexts {fields : Table} {text : String}
    (h : fieldNameTexts fields = .ok text) : NoReturn text := by
  induction fields generalizing text with
  | nil => exact Except.ok.inj h ▸ by decide
  | cons field fields ih =>
    rw [fieldNameTexts] at h
    obtain ⟨name, hname, h⟩ := bind_eq_ok h
    obtain ⟨rest, hrest, h⟩ := bind_eq_ok h
    obtain rfl := Except.ok.inj h
    exact (((by decide : NoReturn " ").append (noReturn_quotedText hname)).append
      (by decide)).append (ih hrest)

mutual

theorem noReturn_inlineText : ∀ {v : Value} {text : String}, inlineText v = .ok text →
    NoReturn text
  | .bool b, _, h => Except.ok.inj h ▸ by cases b <;> decide
  | .int n, _, h => Except.ok.inj h ▸ noReturn_int n
  | .float x, _, h =>
    Except.ok.inj h ▸ noReturn_ofList.mpr (notMem_shortExponent (noReturn_float x))
  | .text s, _, h => noReturn_quotedText h
  | .moment m, _, h => by
    rw [inlineText] at h
    split at h
    · rename_i text htext
      exact Except.ok.inj h ▸ noReturn_shortOffset (noReturn_moment htext)
    · cases h
  | .array items, _, h => by
    rw [inlineText] at h
    obtain ⟨texts, htexts, rfl⟩ := map_eq_ok h
    exact ((by decide : NoReturn "[").append (noReturn_itemTexts htexts)).append (by decide)
  | .table fields, _, h => by
    rw [inlineText] at h
    obtain ⟨texts, htexts, rfl⟩ := map_eq_ok h
    exact ((by decide : NoReturn "[").append (noReturn_fieldNameTexts htexts)).append (by decide)

theorem noReturn_itemTexts : ∀ {items : List Value} {text : String},
    itemTexts items = .ok text → NoReturn text
  | [], _, h => Except.ok.inj h ▸ by decide
  | v :: vs, _, h => by
    rw [itemTexts] at h
    obtain ⟨first, hfirst, h⟩ := bind_eq_ok h
    obtain ⟨rest, hrest, h⟩ := bind_eq_ok h
    obtain rfl := Except.ok.inj h
    exact (((by decide : NoReturn " ").append (noReturn_inlineText hfirst)).append
      (by decide)).append (noReturn_itemTexts hrest)

end

/-! Tables -/

theorem foldlM_keeps {ε α β : Type} {f : β → α → Except ε β} {xs : List α} {P : β → Prop}
    (hstep : ∀ x ∈ xs, ∀ {b b'}, P b → f b x = .ok b' → P b') {first last : β} (hfirst : P first)
    (h : xs.foldlM f first = .ok last) : P last := by
  induction xs generalizing first with
  | nil => exact Except.ok.inj h ▸ hfirst
  | cons x xs ih =>
    rw [List.foldlM_cons] at h
    obtain ⟨next, hnext, h⟩ := bind_eq_ok h
    exact ih (fun y hy => hstep y (List.mem_cons_of_mem x hy))
      (hstep x List.mem_cons_self hfirst hnext) h

/-- No header holds a carriage return. -/
def Sections.Clean (sections : Sections) : Prop := ∀ entry ∈ sections, NoReturn entry.1

theorem Sections.clean_nil : Sections.Clean [] := by simp [Clean]

/-- Nothing that is written, and no header, holds a carriage return. -/
structure Written.Clean (w : Written) : Prop where
  plain : NoReturn w.plain
  lists : NoReturn w.lists
  sections : w.sections.Clean

theorem Written.Clean.text {w : Written} (h : w.Clean) : NoReturn w.text := h.plain.append h.lists

theorem Sections.Clean.set {sections : Sections} (h : sections.Clean) {name : String}
    (hname : NoReturn name) (t : Table) : Sections.Clean (Table.set sections name t) := by
  induction sections with
  | nil => simpa [Clean, Table.set] using hname
  | cons first sections ih =>
    obtain ⟨hfirst, hothers⟩ := List.forall_mem_cons.mp h
    rw [Table.set]
    split_ifs
    · exact List.forall_mem_cons.mpr ⟨hfirst, hothers⟩
    · exact List.forall_mem_cons.mpr ⟨hfirst, ih hothers⟩

theorem Sections.Clean.add {sections more : Sections} (h : sections.Clean) (hmore : more.Clean) :
    Sections.Clean (sections.add more) := by
  unfold Sections.add
  induction more generalizing sections with
  | nil => exact h
  | cons first more ih =>
    obtain ⟨hfirst, hothers⟩ := List.forall_mem_cons.mp hmore
    exact ih (h.set hfirst first.2) hothers

theorem Sections.Clean.below {sections : Sections} (h : sections.Clean) {front : String}
    (hfront : NoReturn front) : Sections.Clean (sections.below front) := by
  intro entry hmem
  obtain ⟨inner, hinner, rfl⟩ := List.mem_map.mp hmem
  exact (hfront.append (by decide)).append (h inner hinner)

theorem noReturn_headerOf {front name : String} (hfront : NoReturn front) (hname : NoReturn name) :
    NoReturn (headerOf front name) := by
  unfold headerOf
  split_ifs
  · exact hname
  · exact (hfront.append (by decide)).append hname

/-- What is known of the three writers at one level of lists. -/
structure Levels (depth : Nat) : Prop where
  fields : ∀ {front fields w}, NoReturn front → writeFields depth front fields = .ok w → w.Clean
  item : ∀ {header item text}, NoReturn header → writeItem depth header item = .ok text →
    NoReturn text
  below : ∀ {header sections text}, NoReturn header → Sections.Clean sections →
    writeBelow depth header sections = .ok text → NoReturn text

theorem clean_empty : Written.Clean {} := ⟨by decide, by decide, Sections.clean_nil⟩

theorem levels_zero : Levels 0 where
  fields _ h := by
    rw [writeFields] at h
    exact Except.ok.inj h ▸ clean_empty
  item _ h := by
    rw [writeItem] at h
    exact Except.ok.inj h ▸ by decide
  below _ _ h := by
    rw [writeBelow] at h
    exact Except.ok.inj h ▸ by decide

theorem Written.Clean.line {w : Written} (h : w.Clean) {name text : String} (hname : NoReturn name)
    (htext : NoReturn text) :
    Written.Clean { w with plain := w.plain ++ name ++ " = " ++ text ++ "\n" } :=
  ⟨(((h.plain.append hname).append (by decide)).append htext).append (by decide), h.lists,
    h.sections⟩

theorem Levels.writeFields_step {depth : Nat} (h : Levels depth) {front : String} {fields : Table}
    {w : Written} (hfront : NoReturn front) (hw : writeFields (depth + 1) front fields = .ok w) :
    w.Clean := by
  rw [writeFields] at hw
  refine foldlM_keeps (fun field _ {w w'} hw hstep => ?_) clean_empty hw
  obtain ⟨name, v⟩ := field
  obtain ⟨quoted, hquoted, hstep⟩ := bind_eq_ok hstep
  have hname := noReturn_nameText hquoted
  split at hstep
  · obtain rfl := Except.ok.inj hstep
    exact ⟨hw.plain, hw.lists, hw.sections.set hname _⟩
  · split_ifs at hstep
    · obtain ⟨text, htext, hstep⟩ := bind_eq_ok hstep
      obtain rfl := Except.ok.inj hstep
      refine ⟨hw.plain, hw.lists.append ?_, hw.sections⟩
      refine foldlM_keeps (fun item _ {text text'} hwritten hitem => ?_)
        (by decide : NoReturn "") htext
      obtain ⟨more, hmore, hitem⟩ := bind_eq_ok hitem
      exact Except.ok.inj hitem ▸ hwritten.append (h.item (noReturn_headerOf hfront hname) hmore)
    · obtain ⟨text, htext, hstep⟩ := bind_eq_ok hstep
      exact Except.ok.inj hstep ▸ hw.line hname (noReturn_inlineText htext)
  · obtain ⟨text, htext, hstep⟩ := bind_eq_ok hstep
    exact Except.ok.inj hstep ▸ hw.line hname (noReturn_inlineText htext)

theorem Levels.writeItem_step {depth : Nat} (h : Levels depth) {header : String} {item : Value}
    {text : String} (hheader : NoReturn header)
    (htext : writeItem (depth + 1) header item = .ok text) : NoReturn text := by
  -- Whatever is written of the item, it stands between the header and what is below it.
  have hput : ∀ {w : Written}, w.Clean → (do
      let below ← writeBelow depth header w.sections
      let own := if Text.startsWith w.text "[" then "\n" ++ w.text else w.text ++ "\n"
      return "[[" ++ header ++ "]]\n" ++ own ++ below) = Except.ok text → NoReturn text := by
    intro w hw htext
    obtain ⟨below, hbelow, htext⟩ := bind_eq_ok htext
    obtain rfl := Except.ok.inj htext
    refine .append (.append (.append (.append (by decide) hheader) (by decide)) ?_)
      (h.below hheader hw.sections hbelow)
    split_ifs
    · exact (by decide : NoReturn "\n").append hw.text
    · exact hw.text.append (by decide)
  by_cases htable : ∃ t, item = .table t
  · obtain ⟨t, rfl⟩ := htable
    rw [writeItem] at htext
    obtain ⟨w, hw, htext⟩ := bind_eq_ok htext
    exact hput (h.fields hheader hw) htext
  · rw [writeItem] at htext
    · split at htext
      · cases htext
      · exact hput clean_empty htext
    · exact fun t ht => htable ⟨t, ht⟩

theorem Levels.writeBelow_step {depth : Nat} (h : Levels depth) {header : String}
    {sections : Sections} {text : String} (hheader : NoReturn header)
    (hsections : sections.Clean) (htext : writeBelow (depth + 1) header sections = .ok text) :
    NoReturn text := by
  rw [writeBelow] at htext
  split_ifs at htext
  · exact Except.ok.inj htext ▸ by decide
  obtain ⟨⟨front, deeper⟩, hlevel, htext⟩ := bind_eq_ok htext
  obtain ⟨below, hbelow, htext⟩ := bind_eq_ok htext
  obtain rfl := Except.ok.inj htext
  have hboth : NoReturn front ∧ Sections.Clean deeper := by
    refine foldlM_keeps (P := fun r => NoReturn r.1 ∧ Sections.Clean r.2)
      (fun entry hmem {r r'} hr hstep => ?_) ⟨by decide, Sections.clean_nil⟩ hlevel
    obtain ⟨w, hw, hstep⟩ := bind_eq_ok hstep
    have hname := hsections entry hmem
    have hclean := h.fields (noReturn_headerOf hheader hname) hw
    obtain rfl := Except.ok.inj hstep
    refine ⟨hr.1.append ?_, hr.2.add (hclean.sections.below hname)⟩
    split_ifs
    · decide
    · exact .append (.append (.append (by decide) (noReturn_headerOf hheader hname)) (by decide))
        hclean.text
  exact hboth.1.append (h.below hheader hboth.2 hbelow)

theorem Levels.step {depth : Nat} (h : Levels depth) : Levels (depth + 1) where
  fields hfront hw := h.writeFields_step hfront hw
  item hheader htext := h.writeItem_step hheader htext
  below hheader hsections htext := h.writeBelow_step hheader hsections htext

theorem levels (depth : Nat) : Levels depth := by
  induction depth with
  | zero => exact levels_zero
  | succ depth ih => exact ih.step

/-! Documents -/

theorem noReturn_appendSection {written header : String} {w : Written} (h : NoReturn written)
    (hheader : NoReturn header) (hw : w.Clean) : NoReturn (appendSection written header w) := by
  unfold appendSection
  split_ifs
  · exact h
  · exact .append (.append (.append (.append h (by decide)) hheader) (by decide)) hw.text
  · exact .append (.append (.append (.append (.append h (by decide)) (by decide)) hheader)
      (by decide)) hw.text

theorem noReturn_writeSections {depth : Nat} {written text : String} {sections : Sections}
    (hwritten : NoReturn written) (hsections : sections.Clean)
    (h : writeSections depth written sections = .ok text) : NoReturn text := by
  induction depth generalizing written sections with
  | zero => exact Except.ok.inj h ▸ hwritten
  | succ depth ih =>
    rw [writeSections] at h
    obtain ⟨⟨written', deeper⟩, hlevel, h⟩ := bind_eq_ok h
    have hboth : NoReturn written' ∧ Sections.Clean deeper := by
      refine foldlM_keeps (P := fun r => NoReturn r.1 ∧ Sections.Clean r.2)
        (fun entry hmem {r r'} hr hstep => ?_) ⟨hwritten, Sections.clean_nil⟩ hlevel
      obtain ⟨w, hw, hstep⟩ := bind_eq_ok hstep
      have hname := hsections entry hmem
      have hclean := (levels (depth + 1)).fields hname hw
      obtain rfl := Except.ok.inj hstep
      exact ⟨noReturn_appendSection hr.1 hname hclean, hr.2.add (hclean.sections.below hname)⟩
    exact ih hboth.1 hboth.2 h

theorem noReturn_writeDocument {document : Table} {text : String}
    (h : writeDocument document = .ok text) : NoReturn text := by
  unfold writeDocument at h
  obtain ⟨w, hw, h⟩ := bind_eq_ok h
  have hclean := (levels _).fields (by decide) hw
  exact noReturn_writeSections hclean.text hclean.sections h

end TestImpact.Toml
