import TestImpact.Listing
import TestImpact.Proofs.Text.Ascending
import TestImpact.Proofs.Text.Dotted

/-
  What the listing of a set tells.

  A name fits on a line if it is not empty and has no line feed. A listing of
  such names, cut at its line feeds, gives the strictly ascending list of its
  names back (`cut_listing`), and it is empty only for no names at all
  (`listing_eq_empty_iff`). So the listing tells the set, and neither the order
  nor the repetitions of what was put in (`listing_tells`).
-/

namespace TestImpact

/-- A name that fits on a line of its own. -/
def FitsOnLine (s : String) : Prop := s ≠ "" ∧ '\n' ∉ s.toList

instance (s : String) : Decidable (FitsOnLine s) :=
  inferInstanceAs (Decidable (s ≠ "" ∧ '\n' ∉ s.toList))

/-- What is left of a text if it is cut at its line feeds. An empty text is one empty piece. -/
def piecesOf (text : String) : List String :=
  (Text.splitAt '\n' text.toList).map String.ofList

variable {ids others : List String}

theorem ascending_eq_nil_iff : Text.ascending ids = [] ↔ ids = [] := by
  simp only [List.eq_nil_iff_forall_not_mem, Text.mem_ascending]

theorem cut_listing (h : ∀ s ∈ ids, FitsOnLine s) (hne : ids ≠ []) :
    piecesOf (listing ids) = Text.ascending ids := by
  have hascending : Text.ascending ids ≠ [] := mt ascending_eq_nil_iff.mp hne
  exact Text.splitAt_joined rfl hascending fun s hs => (h s (Text.mem_ascending.mp hs)).2

theorem listing_eq_empty_iff (h : ∀ s ∈ ids, FitsOnLine s) : listing ids = "" ↔ ids = [] := by
  constructor
  · intro hempty
    by_contra hne
    -- The only piece of the empty text is empty, and no name is.
    have hpieces : [""] = Text.ascending ids := by
      rw [← cut_listing h hne, hempty]
      rfl
    have hmem : "" ∈ ids := Text.mem_ascending.mp (hpieces ▸ List.mem_singleton_self "")
    exact (h "" hmem).1 rfl
  · rintro rfl
    rfl

theorem listing_eq_iff (h : ∀ s ∈ ids, FitsOnLine s) (h' : ∀ s ∈ others, FitsOnLine s) :
    listing ids = listing others ↔ ∀ s, s ∈ ids ↔ s ∈ others := by
  constructor
  · intro hsame
    by_cases hne : ids = []
    · subst hne
      obtain rfl : others = [] := (listing_eq_empty_iff h').mp hsame.symm
      exact fun _ => Iff.rfl
    · have hne' : others ≠ [] := by
        intro hnil
        exact hne ((listing_eq_empty_iff h).mp (hsame.trans ((listing_eq_empty_iff h').mpr hnil)))
      have hascending : Text.ascending ids = Text.ascending others := by
        rw [← cut_listing h hne, hsame, cut_listing h' hne']
      intro s
      rw [← Text.mem_ascending, hascending, Text.mem_ascending]
  · exact fun hmem => congrArg (Text.joined "\n") (Text.ascending_congr hmem)

/-- **A listing tells the set of its names.** For any names that fit on lines, the pieces between
the line feeds of the listing are the strictly ascending list of the distinct names; for no names
at all the listing is empty, and only then. The listings of two collections of such names are the
same if and only if every name is in both or in neither. -/
theorem listing_tells (h : ∀ s ∈ ids, FitsOnLine s) :
    (∃ names : List String, names.Pairwise (· < ·) ∧ (∀ s, s ∈ names ↔ s ∈ ids) ∧
        piecesOf (listing ids) = if ids = [] then [""] else names) ∧
      (listing ids = "" ↔ ids = []) ∧
      ∀ others : List String, (∀ s ∈ others, FitsOnLine s) →
        (listing ids = listing others ↔ ∀ s, s ∈ ids ↔ s ∈ others) := by
  refine ⟨⟨Text.ascending ids, Text.pairwise_ascending ids, fun _ => Text.mem_ascending, ?_⟩,
    listing_eq_empty_iff h, fun others h' => listing_eq_iff h h'⟩
  split
  · next hnil =>
    subst hnil
    rfl
  · next hne => exact cut_listing h hne

/-- Two names, one of them given twice. -/
theorem listing_tells_repeated :
    (∀ s ∈ ["m.g", "m.f", "m.g"], FitsOnLine s) ∧
      piecesOf (listing ["m.g", "m.f", "m.g"]) = ["m.f", "m.g"] ∧
      listing ["m.g", "m.f", "m.g"] = listing ["m.f", "m.g"] ∧
      listing ["m.g", "m.f", "m.g"] ≠ listing ["m.g"] := by
  have h : ∀ s ∈ ["m.g", "m.f", "m.g"], FitsOnLine s := by decide
  obtain ⟨-, -, hothers⟩ := listing_tells h
  refine ⟨h, by decide, (hothers ["m.f", "m.g"] (by decide)).mpr ?_, ?_⟩
  · intro s
    simp only [List.mem_cons, List.not_mem_nil, or_false]
    tauto
  · intro hsame
    have hmem := (hothers ["m.g"] (by decide)).mp hsame "m.f"
    exact absurd (hmem.mp (by decide)) (by decide)

end TestImpact
