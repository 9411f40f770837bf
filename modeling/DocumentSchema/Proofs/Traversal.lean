import Mathlib.Data.List.Forall2
import Mathlib.Data.List.Nodup
import Mathlib.Tactic.Common

/-!
# Traversals that stop at the first error

Checks and compilations walk lists in `Except`. A walk succeeds when every step
does, and its error is that of the first step that fails. Readers walk lists in
`Option`, where a failure has no cause.
-/
namespace DocumentSchema.Traversal

variable {ε α β : Type}

theorem bind_eq_ok {x : Except ε α} {f : α → Except ε β} {b : β} :
    (x >>= f) = .ok b ↔ ∃ a, x = .ok a ∧ f a = .ok b := by
  cases x <;> simp [bind, Except.bind]

theorem map_eq_ok {x : Except ε α} {f : α → β} {b : β} :
    x.map f = .ok b ↔ ∃ a, x = .ok a ∧ f a = b := by
  cases x <;> simp [Except.map]

theorem map_eq_error {x : Except ε α} {f : α → β} {fault : ε} :
    x.map f = .error fault ↔ x = .error fault := by
  cases x <;> simp [Except.map]

theorem map_isOk {x : Except ε α} {f : α → β} : (∃ b, x.map f = .ok b) ↔ ∃ a, x = .ok a := by
  cases x <;> simp [Except.map]

theorem forM_eq_ok {f : α → Except ε Unit} {l : List α} :
    l.forM f = .ok () ↔ ∀ a ∈ l, f a = .ok () := by
  induction l with
  | nil => simp [pure, Except.pure]
  | cons a l ih =>
    rw [List.forM_eq_forM] at ih ⊢
    simp only [List.forM_cons, bind_eq_ok, List.forall_mem_cons, ih]
    constructor
    · rintro ⟨⟨⟩, ha, hl⟩
      exact ⟨ha, hl⟩
    · rintro ⟨ha, hl⟩
      exact ⟨(), ha, hl⟩

theorem mapM_cons_of_ok {f : α → Except ε β} {a : α} {b : β} (h : f a = .ok b) (l : List α) :
    (a :: l).mapM f = (l.mapM f).map (b :: ·) := by
  rw [List.mapM_cons, h]
  cases l.mapM f <;> rfl

theorem mapM_cons_of_error {f : α → Except ε β} {a : α} {fault : ε} (h : f a = .error fault)
    (l : List α) : (a :: l).mapM f = .error fault := by
  rw [List.mapM_cons, h]
  rfl

theorem mapM_eq_ok {f : α → Except ε β} {l : List α} {ys : List β} :
    l.mapM f = .ok ys ↔ List.Forall₂ (fun a b => f a = .ok b) l ys := by
  induction l generalizing ys with
  | nil => cases ys <;> simp [pure, Except.pure]
  | cons a l ih =>
    simp only [List.mapM_cons, bind_eq_ok, List.forall₂_cons_left_iff, ih]
    constructor
    · rintro ⟨b, hb, bs, hbs, he⟩
      exact ⟨b, bs, hb, hbs, (Except.ok.inj he).symm⟩
    · rintro ⟨b, bs, hb, hbs, rfl⟩
      exact ⟨b, hb, bs, hbs, rfl⟩

theorem mapM_congr {f g : α → Except ε β} {l : List α} (h : ∀ a ∈ l, f a = g a) :
    l.mapM f = l.mapM g := by
  induction l with
  | nil => rfl
  | cons a l ih =>
    obtain ⟨ha, hl⟩ := List.forall_mem_cons.mp h
    rw [List.mapM_cons, List.mapM_cons, ha, ih hl]

theorem result_of_mem {f : α → Except ε β} {l : List α} {ys : List β} (h : l.mapM f = .ok ys)
    {a : α} (ha : a ∈ l) : ∃ b ∈ ys, f a = .ok b := by
  rw [mapM_eq_ok] at h
  induction h with
  | nil => cases ha
  | cons hb _ ih =>
    rcases List.mem_cons.mp ha with rfl | ha
    · exact ⟨_, List.mem_cons_self, hb⟩
    · obtain ⟨b, hm, hb⟩ := ih ha
      exact ⟨b, List.mem_cons_of_mem _ hm, hb⟩

theorem source_of_mem {f : α → Except ε β} {l : List α} {ys : List β} (h : l.mapM f = .ok ys)
    {b : β} (hb : b ∈ ys) : ∃ a ∈ l, f a = .ok b := by
  rw [mapM_eq_ok] at h
  induction h with
  | nil => cases hb
  | cons ha _ ih =>
    rcases List.mem_cons.mp hb with rfl | hb
    · exact ⟨_, List.mem_cons_self, ha⟩
    · obtain ⟨a, hm, ha⟩ := ih hb
      exact ⟨a, List.mem_cons_of_mem _ hm, ha⟩

theorem mapM_isOk {f : α → Except ε β} {l : List α} :
    (∃ ys, l.mapM f = .ok ys) ↔ ∀ a ∈ l, ∃ b, f a = .ok b := by
  simp only [mapM_eq_ok]
  induction l with
  | nil => simp
  | cons a l ih =>
    simp only [List.forall₂_cons_left_iff, List.forall_mem_cons, ← ih]
    constructor
    · rintro ⟨_, b, bs, hb, hbs, rfl⟩
      exact ⟨⟨b, hb⟩, bs, hbs⟩
    · rintro ⟨⟨b, hb⟩, bs, hbs⟩
      exact ⟨_, b, bs, hb, hbs, rfl⟩

theorem mapM_eq_ok_map {f : α → Except ε β} {g : α → β} {l : List α}
    (h : ∀ a ∈ l, f a = .ok (g a)) : l.mapM f = .ok (l.map g) := by
  rw [mapM_eq_ok, List.forall₂_map_right_iff, List.forall₂_same]
  exact h

/-- A walk that fails has the error of its first step that fails. -/
theorem mapM_eq_error {f : α → Except ε β} {l : List α} {fault : ε} (h : l.mapM f = .error fault) :
    ∃ before a after, l = before ++ a :: after ∧ f a = .error fault ∧
      ∀ x ∈ before, ∃ b, f x = .ok b := by
  induction l with
  | nil => cases h
  | cons a l ih =>
    cases ha : f a with
    | error first =>
      rw [mapM_cons_of_error ha] at h
      cases h
      exact ⟨[], a, l, rfl, ha, by simp⟩
    | ok b =>
      rw [mapM_cons_of_ok ha, map_eq_error] at h
      obtain ⟨before, x, after, rfl, hx, hb⟩ := ih h
      refine ⟨a :: before, x, after, rfl, hx, ?_⟩
      exact List.forall_mem_cons.mpr ⟨⟨b, ha⟩, hb⟩

/-- A result, unless there are faults: then the first of them is the error. -/
def okUnless (faults : List ε) (a : α) : Except ε α :=
  match faults with
  | [] => .ok a
  | fault :: _ => .error fault

section OkUnless

variable {faults : List ε} {a b : α}

@[simp] theorem okUnless_nil : okUnless ([] : List ε) a = .ok a := rfl

theorem okUnless_eq_ok : okUnless faults a = .ok b ↔ faults = [] ∧ a = b := by
  cases faults <;> simp [okUnless]

theorem okUnless_isOk : (∃ b, okUnless faults a = .ok b) ↔ faults = [] := by
  simp [okUnless_eq_ok]

theorem okUnless_eq_error {fault : ε} :
    okUnless faults a = .error fault ↔ faults.head? = some fault := by
  cases faults <;> simp [okUnless]

theorem map_okUnless (f : α → β) : (okUnless faults a).map f = okUnless faults (f a) := by
  cases faults <;> rfl

theorem okUnless_append (faults others : List ε) (a : α) :
    okUnless (faults ++ others) a = (okUnless faults () >>= fun _ => okUnless others a) := by
  cases faults <;> rfl

theorem okUnless_map_filter (p : β → Bool) (fault : β → ε) (l : List β) (a : α) :
    okUnless ((l.filter p).map fault) a =
      match l.find? p with
      | some x => .error (fault x)
      | none => .ok a := by
  rw [← List.head?_filter]
  cases l.filter p <;> rfl

end OkUnless

/-- A walk has the faults of its steps, one step after the other. -/
theorem mapM_eq_okUnless {f : α → Except ε β} {faults : α → List ε} {g : α → β} {l : List α}
    (h : ∀ a ∈ l, f a = okUnless (faults a) (g a)) :
    l.mapM f = okUnless (l.flatMap faults) (l.map g) := by
  induction l with
  | nil => rfl
  | cons a l ih =>
    obtain ⟨ha, hl⟩ := List.forall_mem_cons.mp h
    rw [List.mapM_cons, ha, ih hl, List.flatMap_cons, List.map_cons]
    cases faults a with
    | nil => exact map_okUnless (g a :: ·)
    | cons fault rest => rfl

theorem forM_eq_okUnless {f : α → Except ε Unit} {faults : α → List ε} {l : List α}
    (h : ∀ a ∈ l, f a = okUnless (faults a) ()) : l.forM f = okUnless (l.flatMap faults) () := by
  induction l with
  | nil => rfl
  | cons a l ih =>
    obtain ⟨ha, hl⟩ := List.forall_mem_cons.mp h
    rw [List.forM_eq_forM] at ih ⊢
    rw [List.forM_cons, ha, ih hl, List.flatMap_cons]
    cases faults a <;> rfl

theorem mapM_eq_some_self {f : α → Option α} {l : List α} (h : ∀ a ∈ l, f a = some a) :
    l.mapM f = some l := by
  induction l with
  | nil => rfl
  | cons a l ih =>
    obtain ⟨ha, hl⟩ := List.forall_mem_cons.mp h
    simp [List.mapM_cons, ha, ih hl]

theorem length_of_mapM_eq_some {f : α → Option β} {l : List α} {ys : List β}
    (h : l.mapM f = some ys) : ys.length = l.length := by
  induction l generalizing ys with
  | nil =>
    cases h
    rfl
  | cons a l ih =>
    simp only [List.mapM_cons, bind, Option.bind_eq_some_iff, pure, Option.some.injEq] at h
    obtain ⟨y, -, ys, hys, rfl⟩ := h
    rw [List.length_cons, List.length_cons, ih hys]

theorem source_of_mem_of_mapM_eq_some {f : α → Option β} {l : List α} {ys : List β}
    (h : l.mapM f = some ys) {b : β} (hb : b ∈ ys) : ∃ a ∈ l, f a = some b := by
  induction l generalizing ys with
  | nil =>
    cases h
    cases hb
  | cons a l ih =>
    simp only [List.mapM_cons, bind, Option.bind_eq_some_iff, pure, Option.some.injEq] at h
    obtain ⟨y, hy, ys, hys, rfl⟩ := h
    rcases List.mem_cons.mp hb with rfl | hb
    · exact ⟨a, List.mem_cons_self, hy⟩
    · obtain ⟨x, hx, hb⟩ := ih hys hb
      exact ⟨x, List.mem_cons_of_mem a hx, hb⟩

/-- Two results are the same, unless the first one is an error of a kind. -/
def SameUnless (P : ε → Prop) (x y : Except ε α) : Prop :=
  x = y ∨ ∃ fault, P fault ∧ x = .error fault

namespace SameUnless

variable {P Q : ε → Prop}

theorem of_eq {x y : Except ε α} (h : x = y) : SameUnless P x y := .inl h

theorem of_error {fault : ε} (h : P fault) (y : Except ε α) : SameUnless P (.error fault) y :=
  .inr ⟨fault, h, rfl⟩

theorem mono {x y : Except ε α} (h : SameUnless P x y) (hPQ : ∀ fault, P fault → Q fault) :
    SameUnless Q x y := by
  rcases h with h | ⟨fault, hP, h⟩
  · exact .inl h
  · exact .inr ⟨fault, hPQ fault hP, h⟩

theorem trans {x y z : Except ε α} (hxy : SameUnless P x y) (hyz : SameUnless P y z) :
    SameUnless P x z := by
  rcases hxy with rfl | hxy
  · exact hyz
  · exact .inr hxy

theorem map {x y : Except ε α} (h : SameUnless P x y) (f : α → β) :
    SameUnless P (x.map f) (y.map f) := by
  rcases h with rfl | ⟨fault, hP, rfl⟩
  · exact of_eq rfl
  · exact of_error hP _

theorem mapM {f g : α → Except ε β} {l : List α} (h : ∀ a ∈ l, SameUnless P (f a) (g a)) :
    SameUnless P (l.mapM f) (l.mapM g) := by
  induction l with
  | nil => exact of_eq rfl
  | cons a l ih =>
    obtain ⟨ha, hl⟩ := List.forall_mem_cons.mp h
    rcases ha with ha | ⟨fault, hP, ha⟩
    · cases hg : g a with
      | error fault =>
        rw [mapM_cons_of_error hg, mapM_cons_of_error (ha.trans hg)]
        exact of_eq rfl
      | ok b =>
        rw [mapM_cons_of_ok hg, mapM_cons_of_ok (ha.trans hg)]
        exact (ih hl).map _
    · rw [mapM_cons_of_error ha]
      exact of_error hP _

theorem map_cons_filter (given : β → Bool) (b : β) (x : Except ε (List β)) :
    (x.map (b :: ·)).map (List.filter given) =
      (x.map (List.filter given)).map fun bs => if given b then b :: bs else bs := by
  cases x with
  | error fault => rfl
  | ok bs => simp [Except.map, List.filter_cons]

theorem mapM_filter {f : α → Except ε β} {keep : α → Bool} {given : β → Bool} {l : List α}
    (h : ∀ a ∈ l, keep a = false →
      (∃ b, f a = .ok b ∧ given b = false) ∨ ∃ fault, P fault ∧ f a = .error fault) :
    SameUnless P ((l.mapM f).map (List.filter given))
      (((l.filter keep).mapM f).map (List.filter given)) := by
  induction l with
  | nil => exact of_eq rfl
  | cons a l ih =>
    obtain ⟨ha, hl⟩ := List.forall_mem_cons.mp h
    cases hk : keep a with
    | true =>
      rw [List.filter_cons_of_pos hk]
      cases hf : f a with
      | error fault =>
        rw [mapM_cons_of_error hf, mapM_cons_of_error hf]
        exact of_eq rfl
      | ok b =>
        rw [mapM_cons_of_ok hf, mapM_cons_of_ok hf, map_cons_filter, map_cons_filter]
        exact (ih hl).map _
    | false =>
      rw [List.filter_cons_of_neg (by simp [hk])]
      -- What is left out has a result that is dropped anyway, or an error that may go missing.
      rcases ha hk with ⟨b, hf, hb⟩ | ⟨fault, hP, hf⟩
      · have hmap : ((a :: l).mapM f).map (List.filter given) =
            (l.mapM f).map (List.filter given) := by
          rw [mapM_cons_of_ok hf, map_cons_filter, hb]
          cases l.mapM f <;> rfl
        rw [hmap]
        exact ih hl
      · rw [mapM_cons_of_error hf]
        exact of_error hP _

end SameUnless

/-- Two results are the same error, or values that are related. -/
inductive SameUpTo (R : α → β → Prop) : Except ε α → Except ε β → Prop
  | error (fault : ε) : SameUpTo R (.error fault) (.error fault)
  | ok {a : α} {b : β} (h : R a b) : SameUpTo R (.ok a) (.ok b)

namespace SameUpTo

variable {γ δ : Type} {R : α → β → Prop} {S : γ → δ → Prop}

theorem of_self {R : α → α → Prop} {x : Except ε α} (h : ∀ a, x = .ok a → R a a) :
    SameUpTo R x x := by
  cases x with
  | error fault => exact .error fault
  | ok a => exact .ok (h a rfl)

theorem map {x : Except ε α} {y : Except ε β} (h : SameUpTo R x y) {f : α → γ} {g : β → δ}
    (hfg : ∀ a b, R a b → S (f a) (g b)) : SameUpTo S (x.map f) (y.map g) := by
  cases h with
  | error fault => exact .error fault
  | ok h => exact .ok (hfg _ _ h)

theorem mapM {f : γ → Except ε α} {g : δ → Except ε β} {l : List γ} {l' : List δ}
    (h : List.Forall₂ (fun c d => SameUpTo R (f c) (g d)) l l') :
    SameUpTo (List.Forall₂ R) (l.mapM f) (l'.mapM g) := by
  induction h with
  | nil => exact .ok .nil
  | @cons c d l l' hstep _ ih =>
    rw [List.mapM_cons, List.mapM_cons]
    generalize f c = x, g d = y at hstep
    cases hstep with
    | error fault => exact .error fault
    | ok hab =>
      generalize l.mapM f = xs, l'.mapM g = ys at ih
      cases ih with
      | error fault => exact .error fault
      | ok hrest => exact .ok (.cons hab hrest)

end SameUpTo

end DocumentSchema.Traversal
