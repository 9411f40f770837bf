import DocumentSchema.Proofs.Traversal
import DocumentSchema.Schema

/-!
# Plans of fields

A field has a plan exactly when its descriptor is supported, and the plan holds
what the generators make of the field. The fields without a plan are those that
are reported.
-/
namespace DocumentSchema

namespace FieldPlan

/-- The plan of the field `name` with the descriptor `d`. -/
structure IsFor (name : String) (d : Descriptor) (p : FieldPlan) : Prop where
  name_eq : p.name = name
  descriptor_eq : p.descriptor = d
  output : readType? .output d = some p.output
  input : readType? .input d = some p.input
  filters : filterArguments? name d = some p.filters
  mutations : ∃ ms, mutationArguments? name d = some ms ∧
    p.mutations = if name = idField then [] else ms

theorem isFor_of_of? {name : String} {d : Descriptor} {p : FieldPlan} (h : of? name d = some p) :
    IsFor name d p := by
  simp only [of?, bind, Option.bind_eq_some_iff, pure, Option.some.injEq] at h
  obtain ⟨output, ho, input, hi, filters, hf, mutations, hm, rfl⟩ := h
  exact ⟨rfl, rfl, ho, hi, hf, mutations, hm, rfl⟩

theorem of?_isSome (name : String) (d : Descriptor) : (of? name d).isSome = d.isSupported := by
  cases hd : d.isSupported with
  | false =>
    have ho : readType? .output d = none := by
      rw [← Option.not_isSome_iff_eq_none, readType?_isSome, hd]
      simp
    simp [of?, ho]
  | true =>
    obtain ⟨output, ho⟩ := Option.isSome_iff_exists.mp ((readType?_isSome .output d).trans hd)
    obtain ⟨input, hi⟩ := Option.isSome_iff_exists.mp ((readType?_isSome .input d).trans hd)
    obtain ⟨filters, hf⟩ := Option.isSome_iff_exists.mp ((filterArguments?_isSome name d).trans hd)
    obtain ⟨ms, hm⟩ := Option.isSome_iff_exists.mp ((mutationArguments?_isSome name d).trans hd)
    simp [of?, ho, hi, hf, hm]

theorem of?_eq_none {name : String} {d : Descriptor} :
    of? name d = none ↔ ∃ raw, d = .unsupported raw := by
  rw [← Option.not_isSome_iff_eq_none, of?_isSome]
  cases d <;> simp [Descriptor.isSupported]

theorem of?_cases (name : String) (d : Descriptor) :
    (∃ raw, d = .unsupported raw ∧ of? name d = none) ∨ ∃ p, of? name d = some p ∧ IsFor name d p := by
  cases hp : of? name d with
  | none =>
    obtain ⟨raw, rfl⟩ := of?_eq_none.mp hp
    exact .inl ⟨raw, rfl, rfl⟩
  | some p => exact .inr ⟨p, rfl, isFor_of_of? hp⟩

section Adds

variable (name : String) (d : Descriptor)

theorem map_output :
    (of? name d).toList.map (fun p => Sdl.Field.plain p.name p.output) =
      (readType? .output d).toList.map (.plain name) := by
  rcases of?_cases name d with ⟨raw, rfl, hp⟩ | ⟨p, hp, hf⟩
  · rfl
  · simp [hp, hf.name_eq, hf.output]

theorem map_input :
    (of? name d).toList.map (fun p => Sdl.Field.plain p.name p.input) =
      (readType? .input d).toList.map (.plain name) := by
  rcases of?_cases name d with ⟨raw, rfl, hp⟩ | ⟨p, hp, hf⟩
  · rfl
  · simp [hp, hf.name_eq, hf.input]

theorem flatMap_mutations :
    (of? name d).toList.flatMap FieldPlan.mutations =
      if name = idField then [] else (mutationArguments? name d).getD [] := by
  rcases of?_cases name d with ⟨raw, rfl, hp⟩ | ⟨p, hp, hf⟩
  · simp [hp, mutationArguments?, MutationBlock.ofDescriptor?]
  · obtain ⟨ms, hms, hmutations⟩ := hf.mutations
    simp [hp, hms, hmutations]

theorem flatMap_filters {β : Type} (f : Descriptor → FilterArgument → β) :
    ((of? name d).toList.flatMap fun p => p.filters.map (f p.descriptor)) =
      ((filterArguments? name d).getD []).map (f d) := by
  rcases of?_cases name d with ⟨raw, rfl, hp⟩ | ⟨p, hp, hf⟩
  · rfl
  · simp [hp, hf.filters, hf.descriptor_eq]

theorem map_sort :
    (((of? name d).toList.filter fun p => !p.descriptor.isJson).map fun p =>
        Sdl.Field.plain p.name "Int") =
      if d.isSupported && !d.isJson then [.plain name "Int"] else [] := by
  rw [← of?_isSome name]
  rcases of?_cases name d with ⟨raw, rfl, hp⟩ | ⟨p, hp, hf⟩
  · rfl
  · cases hj : d.isJson <;> simp [hp, hf.name_eq, hf.descriptor_eq, hj]

end Adds

end FieldPlan

open Traversal in
/-- The walk over the fields reports the unsupported ones, and in strict mode fails with the first
of them. -/
theorem Entity.omissions_eq (e : Entity) (strict : Bool) :
    omissions e.name strict e.fields.entries =
      okUnless (if strict then e.diagnostics.map Diagnostic.toError else []) e.diagnostics := by
  unfold diagnostics
  induction e.fields.entries with
  | nil => cases strict <;> rfl
  | cons f rest ih =>
    obtain ⟨field, d⟩ := f
    unfold omissions
    cases hp : FieldPlan.of? field d with
    | some p =>
      have hd : ∀ raw, d ≠ .unsupported raw := by
        intro raw he
        rw [FieldPlan.of?_eq_none.mpr ⟨raw, he⟩] at hp
        cases hp
      rw [List.filterMap_cons_none (by cases d <;> simp at hd ⊢)]
      exact ih
    | none =>
      obtain ⟨raw, rfl⟩ := FieldPlan.of?_eq_none.mp hp
      cases strict with
      | true => rfl
      | false => exact (congrArg (Except.map _) ih).trans (map_okUnless _)

def Entity.supportedFields (e : Entity) : List (String × Descriptor) :=
  e.fields.entries.filter fun f => f.2.isSupported

theorem Entity.plans_map (e : Entity) :
    e.plans.map (fun p => (p.name, p.descriptor)) = e.supportedFields := by
  unfold plans supportedFields
  induction e.fields.entries with
  | nil => rfl
  | cons f rest ih =>
    obtain ⟨field, d⟩ := f
    have hs := FieldPlan.of?_isSome field d
    cases hp : FieldPlan.of? field d with
    | some p =>
      rw [hp] at hs
      have hf := FieldPlan.isFor_of_of? hp
      simp [hp, ← hs, ih, hf.name_eq, hf.descriptor_eq]
    | none =>
      rw [hp] at hs
      simp [hp, ← hs, ih]

theorem Entity.mem_plans {e : Entity} {p : FieldPlan} :
    p ∈ e.plans ↔ ∃ name d, (name, d) ∈ e.fields.entries ∧ FieldPlan.of? name d = some p := by
  simp [Entity.plans, List.mem_filterMap]

theorem Entity.isFor_of_mem_plans {e : Entity} {p : FieldPlan} (hp : p ∈ e.plans) :
    (p.name, p.descriptor) ∈ e.fields.entries ∧ FieldPlan.IsFor p.name p.descriptor p := by
  obtain ⟨name, d, hm, h⟩ := mem_plans.mp hp
  have hf := FieldPlan.isFor_of_of? h
  rw [hf.name_eq, hf.descriptor_eq]
  exact ⟨hm, hf⟩

end DocumentSchema
