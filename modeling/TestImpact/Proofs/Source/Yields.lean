import Mathlib.Data.List.Basic
import TestImpact.Source.Parse

/-
  What a step of reading gives, wherever it is taken.

  `Yields P p` says that whatever `p` reads satisfies `P`. It says nothing
  about the tokens that are taken, nor that `p` succeeds; so a step that is
  taken for its tokens only is passed over (`Yields.skip`), and every way to
  build steps out of steps has one rule here.
-/

namespace TestImpact.Source

theorem forall_flatten {α : Type} {P : α → Prop} {xss : List (List α)}
    (h : xss.Forall (List.Forall P)) : xss.flatten.Forall P := by
  induction xss with
  | nil => exact True.intro
  | cons xs xss ih =>
    obtain ⟨hxs, hxss⟩ := List.forall_cons _ _ _ |>.mp h
    exact List.forall_append.mpr ⟨hxs, ih hxss⟩

/-- Whatever the step reads satisfies `P`. -/
def Yields {α : Type} (P : α → Prop) (p : Parse α) : Prop :=
  ∀ s a s', p.run s = some (a, s') → P a

namespace Yields

variable {α β : Type} {P : α → Prop} {Q : β → Prop}

theorem pure {a : α} (h : P a) : Yields P (pure a) := by
  intro s b s' hrun
  obtain ⟨rfl, -⟩ : a = b ∧ s = s' := by simpa using hrun
  exact h

theorem failure : Yields P failure := by
  intro s a s' hrun
  cases hrun

theorem bind {p : Parse α} {f : α → Parse β} (hp : Yields P p) (hf : ∀ a, P a → Yields Q (f a)) :
    Yields Q (p >>= f) := by
  intro s b s' hrun
  rw [StateT.run_bind] at hrun
  obtain ⟨⟨a, t⟩, hfirst, hrest⟩ := Option.bind_eq_some_iff.mp hrun
  exact hf a (hp s a t hfirst) t b s' hrest

theorem trivial (p : Parse α) : Yields (fun _ => True) p := fun _ _ _ _ => True.intro

theorem skip {p : Parse α} {f : α → Parse β} (hf : ∀ a, Yields Q (f a)) : Yields Q (p >>= f) :=
  (Yields.trivial p).bind fun a _ => hf a

theorem ite {c : Prop} [Decidable c] {p q : Parse α} (hp : Yields P p) (hq : Yields P q) :
    Yields P (if c then p else q) := by
  by_cases h : c
  · rwa [if_pos h]
  · rwa [if_neg h]

theorem orElse {p q : Parse α} (hp : Yields P p) (hq : Yields P q) : Yields P (p <|> q) := by
  intro s a s' hrun
  have hrun' : (p.run s).orElse (fun _ => q.run s) = some (a, s') := hrun
  cases hfirst : p.run s with
  | none => exact hq s a s' (by simpa [hfirst] using hrun')
  | some result => exact hp s a s' (by simpa [hfirst] using hrun')

theorem ite_bind {c : Prop} [Decidable c] {p q : Parse α} {f : α → Parse β} (hp : Yields P p)
    (hq : Yields P q) (hf : ∀ a, P a → Yields Q (f a)) :
    Yields Q (if c then p >>= f else q >>= f) :=
  .ite (.bind hp hf) (.bind hq hf)

theorem map {p : Parse α} {f : α → β} (hp : Yields P p) (hf : ∀ a, P a → Q (f a)) :
    Yields Q (f <$> p) := by
  rw [map_eq_pure_bind]
  exact .bind hp fun a ha => .pure (hf a ha)

theorem seqLeft {p : Parse α} (q : Parse β) (hp : Yields P p) : Yields P (p <* q) := by
  rw [seqLeft_eq_bind]
  exact .bind hp fun a ha => .skip fun _ => .pure ha

theorem mono {P' : α → Prop} {p : Parse α} (hp : Yields P p) (h : ∀ a, P a → P' a) :
    Yields P' p :=
  fun s a s' hrun => h a (hp s a s' hrun)

theorem mapM {l : List α} {f : α → Parse β} (hf : ∀ a, Yields Q (f a)) :
    Yields (List.Forall Q) (l.mapM f) := by
  induction l with
  | nil => exact .pure True.intro
  | cons a l ih =>
    rw [List.mapM_cons]
    exact .bind (hf a) fun b hb => .bind ih fun bs hbs => .pure (by simp [hb, hbs])

/-! Rules for the steps over steps -/

theorem nodeFrom {P : Tree → Prop} {first : Nat} {kind : Kind} {children : List Tree}
    (h : ∀ last, P (.node kind none "" first last children)) :
    Yields P (Parse.nodeFrom first kind children) :=
  .skip fun s => .pure (h s.row)

theorem repeated {p : Parse α} (hp : Yields P p) (n : List Token) :
    Yields (List.Forall P) (Parse.repeated p n) := by
  induction n with
  | nil => exact .pure True.intro
  | cons _ n ih =>
    -- A try that fails is read as nothing, so only a success has something to satisfy.
    have hone : Yields (fun x => ∀ a, x = some a → P a) ((some <$> p) <|> Pure.pure none) :=
      .orElse (.map hp fun _ ha b hb => Option.some.inj hb ▸ ha) (.pure nofun)
    refine .bind hone fun x hx => ?_
    cases x with
    | none => exact .pure True.intro
    | some a => exact .bind ih fun xs hxs => .pure (by simp [hx a rfl, hxs])

theorem many {p : Parse α} (hp : Yields P p) : Yields (List.Forall P) (Parse.many p) :=
  .skip fun s => .repeated hp s.rest

theorem optionally {p : Parse α} (hp : Yields P p) :
    Yields (List.Forall P) (Parse.optionally p) :=
  .orElse (.bind hp fun _ ha => .pure ha) (.pure True.intro)

theorem separated {p : Parse α} (separator : String) (hp : Yields P p) :
    Yields (List.Forall P) (Parse.separated separator p) :=
  .bind hp fun x hx => .bind (.many (.skip fun _ => hp)) fun xs hxs =>
    .pure (by simp [hx, hxs])

theorem commaList {p : Parse α} (hp : Yields P p) :
    Yields (fun r => r.1.Forall P) (Parse.commaList p) :=
  .bind (.separated "," hp) fun _ hxs => .skip fun _ => .pure hxs

theorem within {p : Parse α} (tokens : List Token) (hp : Yields P p) :
    Yields P (Parse.within tokens p) :=
  .skip fun _ => .skip fun _ => .bind hp fun _ ha => .skip fun _ => .pure ha

end Yields

end TestImpact.Source
