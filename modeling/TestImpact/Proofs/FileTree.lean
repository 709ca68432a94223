import Mathlib.Data.List.Infix
import Mathlib.Tactic.SplitIfs
import TestImpact.FileTree

/-
  What is there.

  Something is at a place if the place is on the way to the current directory
  or to an entry, or is one of these (`there_iff`). A listing of a directory
  gives exactly what is there below it (`mem_inside`).

  Where a way to a place could be made, a path along it leads to its place, and
  goes on doing so when a file is put at the end of the way (`locate_put`).
-/

namespace TestImpact.FileTree

variable {t : FileTree} {place outer : List String}

theorem isInside_iff : isInside place outer = true ↔ outer <+: place ∧ outer ≠ place := by
  simp only [isInside, Bool.and_eq_true, decide_eq_true_eq, List.isPrefixOf_iff_prefix]
  constructor
  · intro hgiven
    obtain ⟨hlength, hpre⟩ := hgiven
    refine ⟨hpre, fun heq => ?_⟩
    rw [heq] at hlength
    exact Nat.lt_irrefl _ hlength
  · intro hgiven
    obtain ⟨hpre, hne⟩ := hgiven
    refine ⟨Nat.lt_of_le_of_ne hpre.length_le fun hlength => ?_, hpre⟩
    exact hne (hpre.eq_of_length hlength)

/-- A file or a directory is at a place. -/
def There (t : FileTree) (place : List String) : Prop :=
  t.isFile place = true ∨ t.isDirectory place = true

theorem isSome_entry : (t.entry? place).isSome = true ↔ ∃ e ∈ t.entries, e.1 = place := by
  unfold entry?
  simp

theorem find?_replaced {entries : List (List String × Entry)} (h : ∃ x ∈ entries, x.1 = place)
    (e : Entry) :
    (entries.map fun x => if x.1 = place then (place, e) else x).find? (·.1 = place)
      = some (place, e) := by
  induction entries with
  | nil => simp at h
  | cons x entries ih =>
    by_cases hx : x.1 = place
    · simp [hx]
    · obtain ⟨known, hknown, hplace⟩ := h
      rcases List.mem_cons.mp hknown with rfl | hknown
      · exact absurd hplace hx
      · simpa [hx] using ih ⟨known, hknown, hplace⟩

theorem entry?_put (t : FileTree) (place : List String) (e : Entry) :
    FileTree.entry? (t.put place e) place = some e := by
  unfold put
  split
  · rename_i hsome
    unfold entry?
    rw [find?_replaced (isSome_entry.mp hsome)]
    rfl
  · rename_i hsome
    have hnone : t.entry? place = none := by simpa using hsome
    unfold entry? at hnone ⊢
    rw [List.find?_append, Option.map_eq_none_iff.mp hnone]
    simp

theorem content?_put (t : FileTree) (place : List String) (content : List UInt8) :
    FileTree.content? (t.put place (.file content)) place = some content := by
  rw [content?, entry?_put]

theorem content?_write {p : Path} {text : String} {t' : FileTree} (h : t.write p text = .ok t') :
    t'.content? (t.place p) = some (Text.encode text) := by
  unfold write at h
  dsimp only at h
  split at h
  · cases h
  · split at h
    · cases h
    · obtain rfl := Except.ok.inj h
      exact content?_put t _ _

theorem isSome_entry_of_isFile (h : t.isFile place = true) : (t.entry? place).isSome = true := by
  unfold isFile content? at h
  split at h
  · rename_i content hcontent
    simp [hcontent]
  · cases h

/-- Every place above a file is a directory. -/
theorem isDirectory_of_isFile (hfile : t.isFile place = true) (habove : outer <+: place)
    (hne : outer ≠ place) : t.isDirectory outer = true := by
  obtain ⟨e, he, rfl⟩ := isSome_entry.mp (isSome_entry_of_isFile hfile)
  have hinside : t.entries.any (isInside ·.1 outer) = true :=
    List.any_eq_true.mpr ⟨e, he, isInside_iff.mpr ⟨habove, hne⟩⟩
  simp [isDirectory, hinside]

theorem there_iff :
    t.There place ↔ ∃ known ∈ t.current :: t.entries.map (·.1), place <+: known := by
  have hdirectory : t.isDirectory place = true ↔ place <+: t.current ∨
      t.entry? place = some .directory ∨ ∃ e ∈ t.entries, place <+: e.1 ∧ place ≠ e.1 := by
    simp [isDirectory, isInside_iff, or_assoc]
  have hknown : (∃ known ∈ t.current :: t.entries.map (·.1), place <+: known) ↔
      place <+: t.current ∨ ∃ e ∈ t.entries, place <+: e.1 := by
    simp
  rw [There, hdirectory, hknown]
  constructor
  · intro hgiven
    have hentry : (t.entry? place).isSome = true → ∃ e ∈ t.entries, place <+: e.1 := by
      intro h
      obtain ⟨e, he, rfl⟩ := isSome_entry.mp h
      exact ⟨e, he, List.prefix_rfl⟩
    rcases hgiven with hfile | hcurrent | hlisted | ⟨e, he, hpre, -⟩
    · exact .inr (hentry (isSome_entry_of_isFile hfile))
    · exact .inl hcurrent
    · exact .inr (hentry (by simp [hlisted]))
    · exact .inr ⟨e, he, hpre⟩
  · intro hgiven
    rcases hgiven with hcurrent | ⟨e, he, hpre⟩
    · exact .inr (.inl hcurrent)
    · by_cases heq : place = e.1
      · -- Something is listed here: it is a file or a directory.
        have hsome : (t.entry? place).isSome = true := isSome_entry.mpr ⟨e, he, heq.symm⟩
        obtain ⟨entry, hentry⟩ := Option.isSome_iff_exists.mp hsome
        cases entry with
        | file content => exact .inl (by simp [isFile, content?, hentry])
        | directory => exact .inr (.inr (.inl hentry))
      · exact .inr (.inr (.inr ⟨e, he, hpre, heq⟩))

theorem mem_waysInto {names : List String} :
    place ∈ waysInto outer names ↔
      ∃ front, front ≠ [] ∧ front <+: names ∧ place = outer ++ front := by
  induction names generalizing outer with
  | nil => simp [waysInto]
  | cons name names ih =>
    rw [waysInto, List.mem_cons, ih]
    constructor
    · intro hgiven
      rcases hgiven with rfl | ⟨front, -, hfront, rfl⟩
      · exact ⟨[name], by simp, ⟨names, rfl⟩, rfl⟩
      · exact ⟨name :: front, by simp, List.cons_prefix_cons.mpr ⟨rfl, hfront⟩, by simp⟩
    · intro hgiven
      obtain ⟨front, hne, hfront, rfl⟩ := hgiven
      obtain ⟨first, more, rfl⟩ := List.exists_cons_of_ne_nil hne
      obtain ⟨rfl, hmore⟩ := List.cons_prefix_cons.mp hfront
      by_cases hnil : more = []
      · exact .inl (by rw [hnil])
      · exact .inr ⟨more, hnil, hmore, by simp⟩

/-- The ways from a directory to a place below it are the places between, the last one included. -/
theorem mem_waysInto_drop {known : List String} (h : outer <+: known) :
    place ∈ waysInto outer (known.drop outer.length) ↔
      isInside place outer = true ∧ place <+: known := by
  obtain ⟨names, rfl⟩ := h
  rw [List.drop_left, mem_waysInto, isInside_iff]
  constructor
  · intro hgiven
    obtain ⟨front, hne, hfront, rfl⟩ := hgiven
    refine ⟨⟨⟨front, rfl⟩, fun heq => hne ?_⟩, (List.prefix_append_right_inj outer).mpr hfront⟩
    simpa using heq
  · intro hgiven
    obtain ⟨⟨⟨front, rfl⟩, hne⟩, hpre⟩ := hgiven
    refine ⟨front, fun hnil => hne (by simp [hnil]), ?_, rfl⟩
    exact (List.prefix_append_right_inj outer).mp hpre

theorem mem_inside : place ∈ t.inside outer ↔ isInside place outer = true ∧ t.There place := by
  rw [there_iff, inside, List.mem_flatMap]
  constructor
  · intro hgiven
    obtain ⟨known, hknown, hplace⟩ := hgiven
    split at hplace
    · rename_i hinside
      obtain ⟨hplace, hpre⟩ := (mem_waysInto_drop (isInside_iff.mp hinside).1).mp hplace
      exact ⟨hplace, known, hknown, hpre⟩
    · cases hplace
  · intro hgiven
    obtain ⟨hplace, known, hknown, hpre⟩ := hgiven
    have hlength : outer.length < known.length := by
      have hle : place.length ≤ known.length := hpre.length_le
      simp only [isInside, Bool.and_eq_true, decide_eq_true_eq] at hplace
      omega
    have houter : outer <+: known := (isInside_iff.mp hplace).1.trans hpre
    have hinside : isInside known outer = true :=
      isInside_iff.mpr ⟨houter, fun heq => by simp [heq] at hlength⟩
    refine ⟨known, hknown, ?_⟩
    rw [if_pos hinside]
    exact (mem_waysInto_drop houter).mpr ⟨hplace, hpre⟩

/-! ## Ways that are made -/

variable {other : List String} {e : Entry}

theorem find?_replaced_of_ne {entries : List (List String × Entry)} (h : place ≠ other) :
    (entries.map fun x => if x.1 = place then (place, e) else x).find? (·.1 = other)
      = entries.find? (·.1 = other) := by
  induction entries with
  | nil => rfl
  | cons x entries ih =>
    by_cases hx : x.1 = place
    · have hother : x.1 ≠ other := fun heq => h (hx.symm.trans heq)
      simpa [hx, h, hother] using ih
    · simp only [List.map_cons, hx, if_false, List.find?_cons, ih]

theorem entry?_put_of_ne (h : place ≠ other) :
    FileTree.entry? (t.put place e) other = t.entry? other := by
  unfold put entry?
  split
  · rw [find?_replaced_of_ne h]
  · simp [List.find?_append, h]

theorem content?_put_of_ne (h : place ≠ other) :
    FileTree.content? (t.put place e) other = t.content? other := by
  rw [content?, content?, entry?_put_of_ne h]

theorem current_put (t : FileTree) (place : List String) (e : Entry) :
    (t.put place e).current = t.current := by
  unfold put
  split <;> rfl

theorem any_put {p : List String → Bool} (h : t.entries.any (p ·.1) = true) :
    (t.put place e).entries.any (p ·.1) = true := by
  obtain ⟨x, hx, hpx⟩ := List.any_eq_true.mp h
  refine List.any_eq_true.mpr ?_
  unfold put
  split
  · refine ⟨_, List.mem_map_of_mem hx, ?_⟩
    split
    · rename_i heq
      exact heq ▸ hpx
    · exact hpx
  · exact ⟨x, List.mem_append_left _ hx, hpx⟩

theorem isDirectory_put (h : t.isDirectory other = true) (hkept : place ≠ other ∨ e = .directory) :
    (t.put place e).isDirectory other = true := by
  simp only [isDirectory, Bool.or_eq_true, decide_eq_true_eq, current_put] at h ⊢
  rcases h with (h | h) | h
  · exact .inl (.inl h)
  · refine .inl (.inr ?_)
    by_cases heq : place = other
    · rw [← heq, entry?_put, hkept.resolve_left (fun hne => hne heq)]
    · rw [ entry?_put_of_ne heq, h]
  · exact .inr (any_put (p := (isInside · other)) h)

theorem isDirectory_start (t : FileTree) (p : Path) : t.isDirectory (t.start p) = true := by
  unfold start
  split <;> simp [isDirectory]

theorem locateFrom_append {names more : List String} :
    t.locateFrom place (names ++ more)
      = (t.locateFrom place names).bind fun next => t.locateFrom next more := by
  induction names generalizing place with
  | nil => rfl
  | cons name names ih =>
    rw [List.cons_append, locateFrom, locateFrom]
    split
    · exact ih
    · rfl

/-- More directories lead no path elsewhere. -/
theorem locateFrom_mono {t' : FileTree} {names found : List String}
    (hkept : ∀ outer, t.isDirectory outer = true → t'.isDirectory outer = true)
    (h : t.locateFrom place names = some found) : t'.locateFrom place names = some found := by
  induction names generalizing place with
  | nil => exact h
  | cons name names ih =>
    rw [locateFrom] at h ⊢
    split at h
    · rename_i hplace
      rw [if_pos (hkept place hplace)]
      exact ih h
    · cases h

theorem current_makeWay (t : FileTree) (place names : List String) :
    (t.makeWay place names).1.current = t.current := by
  induction names generalizing t place with
  | nil => rfl
  | cons name names ih =>
    rw [makeWay]
    split_ifs
    · exact ih t _
    · rfl
    · rw [ih, current_put]

/-- Directories are made where no file is, so no file is changed, however far the way gets. -/
theorem content?_makeWay (t : FileTree) (place names other : List String) :
    (t.makeWay place names).1.content? other = t.content? other := by
  induction names generalizing t place with
  | nil => rfl
  | cons name names ih =>
    rw [makeWay]
    split_ifs with hdirectory hfile
    · exact ih t _
    · rfl
    · rw [ih]
      by_cases hother : stepTo place name = other
      · subst hother
        have hnone : t.content? (stepTo place name) = none := by
          simpa [isFile] using hfile
        rw [hnone, content?, entry?_put]
      · exact content?_put_of_ne hother

/-- A way that could be made leads along its names, ends in a directory and left all directories
as they were. -/
theorem makeWay_spec {t' : FileTree} {names : List String} (hplace : t.isDirectory place = true)
    (h : t.makeWay place names = (t', true)) :
    t'.locateFrom place names = some (names.foldl stepTo place) ∧
    t'.isDirectory (names.foldl stepTo place) = true ∧
    ∀ outer, t.isDirectory outer = true → t'.isDirectory outer = true := by
  induction names generalizing t place with
  | nil =>
    obtain ⟨rfl, -⟩ := Prod.mk.inj h
    exact ⟨rfl, hplace, fun _ h => h⟩
  | cons name names ih =>
    -- One step leads into a directory that was there or was made.
    have hstep : ∀ {u : FileTree}, u.isDirectory (stepTo place name) = true →
        (∀ outer, t.isDirectory outer = true → u.isDirectory outer = true) →
        u.makeWay (stepTo place name) names = (t', true) →
        t'.locateFrom place (name :: names) = some ((name :: names).foldl stepTo place) ∧
        t'.isDirectory ((name :: names).foldl stepTo place) = true ∧
        ∀ outer, t.isDirectory outer = true → t'.isDirectory outer = true := by
      intro u hnext hkept hu
      obtain ⟨hleads, hend, hall⟩ := ih hnext hu
      refine ⟨?_, hend, fun outer houter => hall outer (hkept outer houter)⟩
      rw [locateFrom, if_pos (hall place (hkept place hplace))]
      exact hleads
    rw [makeWay] at h
    split_ifs at h with hnext
    · exact hstep hnext (fun _ h => h) h
    · cases h
    · refine hstep ?_ (fun outer houter => isDirectory_put houter (.inr rfl)) h
      simp [isDirectory, entry?_put]

/-- A path along a made way leads to the file that is put at its end. -/
theorem locate_put {t' : FileTree} {p : Path} {content : List UInt8}
    (hway : t.makeWay (t.start p) p.names.dropLast = (t', true))
    (hfree : t'.isDirectory (t.place p) = false) :
    (t'.put (t.place p) (.file content)).locate p = some (t.place p) := by
  obtain ⟨hleads, hend, -⟩ := makeWay_spec (isDirectory_start t p) hway
  have hkept : ∀ outer, t'.isDirectory outer = true →
      (t'.put (t.place p) (.file content)).isDirectory outer = true := by
    intro outer houter
    refine isDirectory_put houter (.inl ?_)
    rintro rfl
    exact absurd houter (by simp [hfree])
  have hstart : (t'.put (t.place p) (.file content)).start p = t.start p := by
    have hcurrent := current_makeWay t (t.start p) p.names.dropLast
    rw [hway] at hcurrent
    rw [start, start, current_put, hcurrent]
  rw [locate, hstart]
  rcases List.eq_nil_or_concat p.names with hnames | ⟨front, last, hnames⟩
  · -- A path without names leads to a directory.
    rw [place, hnames] at hfree
    rw [hnames] at hend
    exact absurd hend (by simpa using hfree)
  · rw [List.concat_eq_append] at hnames
    rw [hnames, List.dropLast_concat] at hleads hend
    rw [hnames, locateFrom_append, locateFrom_mono hkept hleads, Option.bind_some, locateFrom,
      if_pos (hkept _ hend), locateFrom, place, hnames, List.foldl_append]
    rfl

end TestImpact.FileTree
