import TestImpact.Text.Lines

/-
  The lines of two texts, one after the other.

  If the first text is empty or ends in a line boundary, and the second one does
  not begin with a line feed, the lines of the whole are the lines of the two
  (`lines_append`). The line feed is left out because it would make one
  boundary with a carriage return before it.

  A line feed ends a line whatever stands before it, so texts that are ended by
  line feeds are cut one by one (`lines_flatMap_feed`). Those without boundaries
  are the lines of the whole (`lines_ended`).

  If each line is ended in a way of its own, two ends can make one boundary: a
  carriage return, and the line feed that ends the empty line behind it. So the
  lines of the whole are not always those that were written, but the filled ones
  among them are (`filled_lines`).
-/

namespace TestImpact.Text

/-- A text whose last line is ended, or which has none. -/
def IsEnded (cs : List Char) : Prop := ∀ c ∈ cs.getLast?, isLineBoundary c = true

instance (cs : List Char) : Decidable (IsEnded cs) :=
  decidable_of_iff (cs.getLast?.all isLineBoundary = true) (Option.all_eq_true _ _)

theorem IsEnded.of_cons {c : Char} {rest : List Char} (h : IsEnded (c :: rest)) :
    IsEnded rest := by
  intro last hlast
  refine h last ?_
  rw [List.getLast?_cons, show rest.getLast? = some last from hlast]
  rfl

theorem lines_pair (rest : List Char) : lines ('\r' :: '\n' :: rest) = [] :: lines rest := rfl

theorem lines_cons {c : Char} {rest : List Char} (h : ¬(c = '\r' ∧ rest.head? = some '\n')) :
    lines (c :: rest)
      = if isLineBoundary c then [] :: lines rest else consToFirst c (lines rest) := by
  rw [lines.eq_def]
  split
  · rename_i hnil
    cases hnil
  · rename_i hpair
    obtain ⟨rfl, rfl⟩ := List.cons.inj hpair
    exact absurd ⟨rfl, rfl⟩ h
  · rename_i hcons
    obtain ⟨rfl, rfl⟩ := List.cons.inj hcons
    rfl

theorem lines_cons_plain {c : Char} (h : isLineBoundary c = false) (rest : List Char) :
    lines (c :: rest) = consToFirst c (lines rest) := by
  have hreturn : c ≠ '\r' := by
    rintro rfl
    cases h
  rw [lines_cons (fun hpair => hreturn hpair.1), h]
  rfl

theorem lines_ne_nil {c : Char} {rest : List Char} : lines (c :: rest) ≠ [] := by
  by_cases hpair : c = '\r' ∧ rest.head? = some '\n'
  · obtain ⟨rfl, hhead⟩ := hpair
    obtain ⟨rest', rfl⟩ := List.head?_eq_some_iff.mp hhead
    simp [lines_pair]
  · rw [lines_cons hpair]
    split
    · simp
    · cases lines rest <;> simp [consToFirst]

theorem consToFirst_append {c : Char} {ls : List (List Char)} (h : ls ≠ [])
    (ms : List (List Char)) : consToFirst c (ls ++ ms) = consToFirst c ls ++ ms := by
  cases ls with
  | nil => exact absurd rfl h
  | cons l ls => rfl

/-- No boundary is made at a seam if none is there before it and none begins behind it. -/
theorem not_pair_append {c : Char} {front back : List Char}
    (hpair : ∀ rest, c = '\r' → front = '\n' :: rest → False)
    (hback : front = [] → ¬(c = '\r' ∧ back.head? = some '\n')) :
    ¬(c = '\r' ∧ (front ++ back).head? = some '\n') := by
  intro hgiven
  cases front with
  | nil => exact hback rfl hgiven
  | cons next rest =>
    obtain ⟨hc, hhead⟩ := hgiven
    obtain rfl : next = '\n' := by simpa using hhead
    exact hpair rest hc rfl

theorem lines_append {front : List Char} (hended : IsEnded front) {back : List Char}
    (hback : back.head? ≠ some '\n') : lines (front ++ back) = lines front ++ lines back := by
  -- The seam makes no boundary that was not there, wherever it comes in a recursive call.
  have hseam : ∀ {c : Char} {rest : List Char},
      (∀ rest', c = '\r' → rest = '\n' :: rest' → False) →
      ¬(c = '\r' ∧ (rest ++ back).head? = some '\n') :=
    fun hpair => not_pair_append hpair fun _ hgiven => hback hgiven.2
  fun_induction lines front with
  | case1 => rfl
  | case2 rest ih =>
    show lines ('\r' :: '\n' :: (rest ++ back)) = [] :: lines rest ++ lines back
    rw [lines_pair, ih hended.of_cons.of_cons, List.cons_append]
  | case3 c rest hpair hboundary ih =>
    rw [List.cons_append, lines_cons (hseam hpair), if_pos hboundary, ih hended.of_cons,
      List.cons_append]
  | case4 c rest hpair hboundary ih =>
    -- The last character is a boundary, so something follows this one.
    cases rest with
    | nil => exact absurd (hended c rfl) hboundary
    | cons next rest =>
      rw [List.cons_append, lines_cons (hseam hpair), if_neg hboundary, ih hended.of_cons,
        consToFirst_append lines_ne_nil]

/-- A line feed ends a line wherever it stands, also behind a carriage return. -/
theorem lines_append_feed (front rest : List Char) :
    lines (front ++ '\n' :: rest) = lines (front ++ ['\n']) ++ lines rest := by
  have hsingle : ∀ rest, lines ('\n' :: rest) = [] :: lines rest := by
    intro rest
    rw [lines_cons (by simp)]
    rfl
  fun_induction lines front with
  | case1 => rw [List.nil_append, List.nil_append, hsingle, hsingle]; rfl
  | case2 front ih =>
    show lines ('\r' :: '\n' :: (front ++ '\n' :: rest))
      = lines ('\r' :: '\n' :: (front ++ ['\n'])) ++ lines rest
    rw [lines_pair, lines_pair, ih, List.cons_append]
  | case3 c front hpair hboundary ih =>
    rw [List.cons_append, List.cons_append]
    -- A carriage return at the end makes one boundary with the line feed.
    by_cases hlast : c = '\r' ∧ front = []
    · obtain ⟨rfl, rfl⟩ := hlast
      rfl
    · have hseam : ∀ back, ¬(c = '\r' ∧ (front ++ '\n' :: back).head? = some '\n') :=
        fun back => not_pair_append hpair fun hnil hgiven => hlast ⟨hgiven.1, hnil⟩
      rw [lines_cons (hseam rest), lines_cons (hseam []), if_pos hboundary, if_pos hboundary, ih,
        List.cons_append]
  | case4 c front hpair hboundary ih =>
    have hseam : ∀ back, ¬(c = '\r' ∧ (front ++ '\n' :: back).head? = some '\n') := by
      intro back hgiven
      obtain ⟨rfl, -⟩ := hgiven
      exact hboundary rfl
    obtain ⟨first, more, hfront⟩ : ∃ first more, front ++ ['\n'] = first :: more :=
      List.exists_cons_of_ne_nil (by simp)
    rw [List.cons_append, List.cons_append, lines_cons (hseam rest), lines_cons (hseam []),
      if_neg hboundary, if_neg hboundary, ih, consToFirst_append (hfront ▸ lines_ne_nil)]

/-- Lines of any kind, each with a line feed, are cut apart at the line feeds. -/
theorem lines_flatMap_feed (ls : List (List Char)) :
    lines (ls.flatMap (· ++ ['\n'])) = ls.flatMap fun line => lines (line ++ ['\n']) := by
  induction ls with
  | nil => rfl
  | cons line ls ih =>
    rw [List.flatMap_cons, List.flatMap_cons, List.append_assoc, List.singleton_append,
      lines_append_feed, ih]

theorem flatten_consToFirst (c : Char) (ls : List (List Char)) :
    (consToFirst c ls).flatten = c :: ls.flatten := by
  cases ls with
  | nil => rfl
  | cons l ls => rfl

/-- The lines of a text are the text without its boundaries. -/
theorem flatten_lines_sublist (cs : List Char) : (lines cs).flatten.Sublist cs := by
  fun_induction lines cs with
  | case1 => exact List.Sublist.refl _
  | case2 rest ih => exact (ih.cons _).cons _
  | case3 c rest hpair hboundary ih => exact ih.cons _
  | case4 c rest hpair hboundary ih =>
    rw [flatten_consToFirst]
    exact ih.cons_cons c

theorem mem_of_mem_lines {cs line : List Char} (hline : line ∈ lines cs) {c : Char}
    (hc : c ∈ line) : c ∈ cs :=
  (flatten_lines_sublist cs).subset (List.mem_flatten.mpr ⟨line, hline, hc⟩)

/-! ## Lines that are ended one by one -/

/-- A text that can stand in one line. -/
def IsLine (cs : List Char) : Prop := ∀ c ∈ cs, isLineBoundary c = false

instance (cs : List Char) : Decidable (IsLine cs) :=
  decidable_of_iff (cs.all (!isLineBoundary ·) = true) (by simp [IsLine])

theorem IsLine.append {front back : List Char} (hfront : IsLine front) (hback : IsLine back) :
    IsLine (front ++ back) := by
  intro c hc
  rcases List.mem_append.mp hc with hc | hc
  · exact hfront c hc
  · exact hback c hc

theorem lines_line_front {line : List Char} (h : IsLine line) {rest : List Char}
    {more : List (List Char)} (hrest : lines rest = [] :: more) :
    lines (line ++ rest) = line :: more := by
  induction line with
  | nil => exact hrest
  | cons c line ih =>
    obtain ⟨hc, hline⟩ := List.forall_mem_cons.mp h
    rw [List.cons_append, lines_cons_plain hc, ih hline]
    rfl

theorem lines_line_append {line : List Char} (h : IsLine line) (rest : List Char) :
    lines (line ++ '\n' :: rest) = line :: lines rest := by
  apply lines_line_front h
  rw [lines_cons (by simp)]
  rfl

theorem lines_ended {ls : List (List Char)} (h : ∀ line ∈ ls, IsLine line) :
    lines (ls.flatMap (· ++ ['\n'])) = ls := by
  induction ls with
  | nil => rfl
  | cons line ls ih =>
    have hls : ∀ line ∈ ls, IsLine line := fun l hl => h l (List.mem_cons_of_mem line hl)
    rw [List.flatMap_cons, List.append_assoc, List.singleton_append,
      lines_line_append (h line List.mem_cons_self), ih hls]

/-! ## Lines that are ended in different ways -/

/-- What can end a line. -/
def lineEnds : List (List Char) :=
  [['\n'], ['\r'], ['\r', '\n'], ['\x0b'], ['\x0c'], ['\x1c'], ['\x1d'], ['\x1e'], ['\u0085'],
    ['\u2028'], ['\u2029']]

theorem mem_lineEnds {ending : List Char} :
    ending ∈ lineEnds ↔ ending = ['\r', '\n'] ∨ ∃ c, isLineBoundary c = true ∧ ending = [c] := by
  simp only [lineEnds, isLineBoundary, Bool.or_eq_true, beq_iff_eq, List.mem_cons,
    List.not_mem_nil, or_false, or_and_right, exists_or, exists_eq_left]
  grind

/-- A line and what ends it. -/
structure EndedLine where
  line : List Char
  ending : List Char
  isLine : IsLine line
  mem_ends : ending ∈ lineEnds

def EndedLine.fed (l : EndedLine) : EndedLine := { l with ending := ['\n'], mem_ends := by decide }

/-- The text of some lines, and of a last one that nothing ends. -/
def endedText (ls : List EndedLine) (last : List Char) : List Char :=
  ls.flatMap (fun l => l.line ++ l.ending) ++ last

/-- The lines that have something in them. -/
def filled (ls : List (List Char)) : List (List Char) := ls.filter (· ≠ [])

theorem filled_nil_cons (ls : List (List Char)) : filled ([] :: ls) = filled ls :=
  List.filter_cons_of_neg (by simp)

theorem filled_cons (c : Char) (line : List Char) (ls : List (List Char)) :
    filled ((c :: line) :: ls) = (c :: line) :: filled ls :=
  List.filter_cons_of_pos (by simp)

theorem filled_cons_congr {ls ms : List (List Char)} (h : filled ls = filled ms)
    (line : List Char) : filled (line :: ls) = filled (line :: ms) := by
  unfold filled at h ⊢
  rw [List.filter_cons, List.filter_cons, h]

/-- What ends a line leaves the filled lines behind it as they are. If it makes one boundary with
what follows, it is an empty line that is lost. -/
theorem exists_lines_ending {ending : List Char} (h : ending ∈ lineEnds) (rest : List Char) :
    ∃ more, lines (ending ++ rest) = [] :: more ∧ filled more = filled (lines rest) := by
  rcases mem_lineEnds.mp h with rfl | ⟨c, hc, rfl⟩
  · exact ⟨lines rest, lines_pair rest, rfl⟩
  · rw [List.singleton_append]
    by_cases hpair : c = '\r' ∧ rest.head? = some '\n'
    · obtain ⟨rfl, hhead⟩ := hpair
      obtain ⟨rest', rfl⟩ := List.head?_eq_some_iff.mp hhead
      refine ⟨lines rest', lines_pair rest', ?_⟩
      rw [lines_cons (by simp), if_pos (by rfl), filled_nil_cons]
    · refine ⟨lines rest, ?_, rfl⟩
      rw [lines_cons hpair, if_pos hc]

theorem lines_of_isLine {line : List Char} (h : IsLine line) : lines line = filled [line] := by
  induction line with
  | nil => rfl
  | cons c rest ih =>
    obtain ⟨hc, hrest⟩ := List.forall_mem_cons.mp h
    rw [lines_cons_plain hc, ih hrest]
    cases rest with
    | nil => rfl
    | cons d rest => rfl

/-- In whatever way each line is ended, the filled lines are read as they were written. -/
theorem filled_lines (ls : List EndedLine) {last : List Char} (hlast : IsLine last) :
    filled (lines (endedText ls last)) = filled (ls.map (·.line) ++ [last]) := by
  unfold endedText
  induction ls with
  | nil => simp [lines_of_isLine hlast, filled]
  | cons l ls ih =>
    obtain ⟨more, hmore, hfilled⟩ :=
      exists_lines_ending l.mem_ends (ls.flatMap (fun l => l.line ++ l.ending) ++ last)
    rw [List.flatMap_cons, List.append_assoc, List.append_assoc, lines_line_front l.isLine hmore]
    exact filled_cons_congr (hfilled.trans ih) l.line

end TestImpact.Text
