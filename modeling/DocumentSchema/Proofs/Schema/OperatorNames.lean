import DocumentSchema.Proofs.Schema.Omission

/-!
# Clashes of operator names

Inputs for filters and mutations name their fields by a field or a relationship
and the suffix of an operator. Every suffix starts with its only underscore, so
two such names are equal only where one of them has no suffix and is the other
one in full.
-/
namespace DocumentSchema

/-- A suffix is empty, or it starts with an underscore and has no other. -/
def IsSuffix (s : String) : Prop := s = "" ∨ (s.toList.head? = some '_' ∧ '_' ∉ s.toList.tail)

instance : DecidablePred IsSuffix := fun s =>
  inferInstanceAs (Decidable (s = "" ∨ (s.toList.head? = some '_' ∧ '_' ∉ s.toList.tail)))

theorem eq_empty_of_isSuffix {s : String} (hs : IsSuffix s) (h : '_' ∉ s.toList) : s = "" := by
  rcases hs with hs | ⟨hs, -⟩
  · exact hs
  · exact (h (List.mem_of_head? hs)).elim

theorem eq_empty_of_append_eq_orName {x s : String} (hs : IsSuffix s)
    (h : x ++ s = Filter.orName) : s = "" := by
  apply eq_empty_of_isSuffix hs
  intro hm
  have hor : '_' ∈ Filter.orName.toList := by
    rw [← h, String.toList_append]
    exact List.mem_append_right _ hm
  revert hor
  decide

theorem eq_empty_of_isSuffix_append {r t : String} (hr : r ≠ "") (ht : IsSuffix t)
    (h : IsSuffix (r ++ t)) : t = "" := by
  rcases ht with ht | ⟨ht, -⟩
  · exact ht
  · obtain ⟨c, cs, hc⟩ := List.exists_cons_of_ne_nil (mt String.toList_eq_nil_iff.mp hr)
    have hm : '_' ∈ (r ++ t).toList.tail := by
      rw [String.toList_append, hc, List.cons_append, List.tail_cons]
      exact List.mem_append_right cs (List.mem_of_head? ht)
    rcases h with h | ⟨-, h⟩
    · rw [h] at hm
      cases hm
    · exact (h hm).elim

theorem append_eq_append_of_isSuffix {x y s t : String} (hs : IsSuffix s) (ht : IsSuffix t)
    (h : x ++ s = y ++ t) :
    (x = y ∧ s = t) ∨ (s ≠ "" ∧ t = "" ∧ y = x ++ s) ∨ (t ≠ "" ∧ s = "" ∧ x = y ++ t) := by
  rcases append_eq_append_cases h with ⟨r, rfl, rfl⟩ | ⟨r, rfl, rfl⟩
  · by_cases hr : r = ""
    · exact Or.inl (by simp [hr])
    · have he := eq_empty_of_isSuffix_append hr ht hs
      exact Or.inr (Or.inl (by simp [he, hr]))
  · by_cases hr : r = ""
    · exact Or.inl (by simp [hr])
    · have he := eq_empty_of_isSuffix_append hr hs ht
      exact Or.inr (Or.inr (by simp [he, hr]))

theorem nodup_append_iff {l : List (String × String)} (hl : l.Nodup) (hs : ∀ p ∈ l, IsSuffix p.2) :
    (l.map fun p => p.1 ++ p.2).Nodup ↔
      ¬ ∃ p ∈ l, ∃ q ∈ l, p.2 ≠ "" ∧ q.2 = "" ∧ q.1 = p.1 ++ p.2 := by
  rw [List.nodup_map_iff_inj_on hl]
  constructor
  · rintro h ⟨p, hp, q, hq, hne, hempty, he⟩
    have heq := h p hp q hq (by rw [hempty, String.append_empty, he])
    rw [heq] at hne
    exact hne hempty
  · intro h p hp q hq he
    rcases append_eq_append_of_isSuffix (hs p hp) (hs q hq) he with ⟨hn, hsuffix⟩ | hq' | hp'
    · exact Prod.ext hn hsuffix
    · exact (h ⟨p, hp, q, hq, hq'⟩).elim
    · exact (h ⟨q, hq, p, hp, hp'⟩).elim

/-- Every name with each of its suffixes. -/
def suffixed {α : Type} (entries : List (String × α)) (suffixes : String × α → List String) :
    List (String × String) :=
  entries.flatMap fun f => (suffixes f).map (f.1, ·)

section Suffixed

variable {α : Type} {entries : List (String × α)} {suffixes : String × α → List String}

theorem mem_suffixed {p : String × String} :
    p ∈ suffixed entries suffixes ↔ ∃ f ∈ entries, p.1 = f.1 ∧ p.2 ∈ suffixes f := by
  obtain ⟨name, suffix⟩ := p
  simp only [suffixed, List.mem_flatMap, List.mem_map, Prod.mk.injEq]
  constructor
  · rintro ⟨f, hf, s, hs, rfl, rfl⟩
    exact ⟨f, hf, rfl, hs⟩
  · rintro ⟨f, hf, rfl, hs⟩
    exact ⟨f, hf, suffix, hs, rfl, rfl⟩

theorem suffixed_nodup (hd : (entries.map Prod.fst).Nodup) (hs : ∀ f, (suffixes f).Nodup) :
    (suffixed entries suffixes).Nodup := by
  rw [suffixed, List.nodup_flatMap]
  constructor
  · intro f _
    exact (hs f).map fun s t h => congrArg Prod.snd h
  · refine (List.pairwise_map.mp hd).imp ?_
    intro f g hne p hf hg
    obtain ⟨s, -, rfl⟩ := List.mem_map.mp hf
    obtain ⟨t, -, he⟩ := List.mem_map.mp hg
    exact hne (congrArg Prod.fst he).symm

end Suffixed

/-- Distinct suffixes. The empty one is among them if `plain`. -/
@[mk_iff]
structure AreSuffixes (plain : Bool) (l : List String) : Prop where
  nodup : l.Nodup
  isSuffix : ∀ s ∈ l, IsSuffix s
  empty_mem : "" ∈ l ↔ plain = true

instance (plain : Bool) (l : List String) : Decidable (AreSuffixes plain l) :=
  decidable_of_iff _ (areSuffixes_iff plain l).symm

namespace Descriptor

def filterSuffixes (d : Descriptor) : List String :=
  ((FilterBlock.ofDescriptor? d).getD []).map fun x => x.1.suffix

def mutationSuffixes (d : Descriptor) : List String :=
  ((MutationBlock.ofDescriptor? d).getD []).map fun x => x.1.suffix

theorem areSuffixes_filterSuffixes (d : Descriptor) :
    AreSuffixes d.isFilterable d.filterSuffixes := by
  cases d with
  | scalar kind => cases kind <;> decide
  | scalarArray kind => cases kind <;> decide
  | date => decide
  | object t | objectArray t => exact (by decide : AreSuffixes true ["_count", ""])
  | literal t | unsupported t => exact (by decide : AreSuffixes false [])

theorem areSuffixes_mutationSuffixes (d : Descriptor) :
    AreSuffixes d.isSupported d.mutationSuffixes := by
  cases d with
  | scalar kind => cases kind <;> decide
  | scalarArray kind => cases kind <;> decide
  | date => decide
  | object t => exact (by decide : AreSuffixes true ["", "_UPDATE"])
  | objectArray t =>
    exact (by decide : AreSuffixes true ["", "_PUSH", "_CONCAT", "_UPDATE", "_UPDATES", "_PULL"])
  | literal t => exact (by decide : AreSuffixes true [""])
  | unsupported t => exact (by decide : AreSuffixes false [])

theorem isSupported_of_mem_mutationSuffixes {d : Descriptor} {s : String}
    (h : s ∈ d.mutationSuffixes) : d.isSupported = true := by
  cases d with
  | unsupported raw => cases h
  | _ => rfl

end Descriptor

def Relationship.mutationSuffix (r : Relationship) : String := if r.isArray then "_ADD" else "_SET"

theorem Relationship.areSuffixes_mutationSuffix (r : Relationship) :
    AreSuffixes false [r.mutationSuffix] := by
  unfold mutationSuffix
  cases r.isArray <;> decide

theorem Relationship.mutationSuffix_ne_empty (r : Relationship) : r.mutationSuffix ≠ "" := by
  unfold mutationSuffix
  cases r.isArray <;> decide

namespace Entity

variable (e : Entity)

/-- The fields with the suffixes of their filter operators. -/
def filterNames : List (String × String) :=
  suffixed e.fields.entries fun f => f.2.filterSuffixes

/-- The fields, the identifier apart, and the relationships with the suffixes of their mutation
operators. -/
def mutationNames : List (String × String) :=
  suffixed e.fields.entries (fun f => if f.1 = idField then [] else f.2.mutationSuffixes) ++
    suffixed e.relationships.entries fun r => [r.2.mutationSuffix]

theorem filterArguments_map_name_eq_offers :
    e.filterArguments.map Sdl.Argument.name =
      (Filter.offers e).map fun o => o.argument.name := by
  rw [filterArguments_eq, Filter.offers_eq, List.map_map, List.map_map]
  rfl

theorem filterArguments_map_name :
    e.filterArguments.map Sdl.Argument.name = e.filterNames.map fun p => p.1 ++ p.2 := by
  rw [filterArguments_map_name_eq_offers, Filter.offers, filterNames, suffixed, List.map_flatMap,
    List.map_flatMap]
  congr 1
  funext f
  rw [Filter.offersOf, filterArguments?, Descriptor.filterSuffixes]
  cases FilterBlock.ofDescriptor? f.2 <;> simp [FilterArgument.name]

theorem mutationInputType_map_name :
    e.mutationInputType.fields.map Sdl.Field.name = e.mutationNames.map fun p => p.1 ++ p.2 := by
  have hplans : e.plans.flatMap FieldPlan.mutations = e.fields.entries.flatMap fun f =>
      if f.1 = idField then [] else (mutationArguments? f.1 f.2).getD [] := by
    rw [plans, List.filterMap_eq_flatMap_toList, List.flatMap_assoc]
    simp only [FieldPlan.flatMap_mutations]
  have hfield (f : String × Descriptor) :
      (if f.1 = idField then [] else (mutationArguments? f.1 f.2).getD []).map
          MutationArgument.name =
        (if f.1 = idField then [] else f.2.mutationSuffixes).map (f.1 ++ ·) := by
    rw [mutationArguments?, Descriptor.mutationSuffixes]
    split
    · rfl
    · cases MutationBlock.ofDescriptor? f.2 <;> simp [MutationArgument.name]
  have hrelationship (r : String × Relationship) :
      (r.2.mutationArgument r.1).name = r.1 ++ r.2.mutationSuffix := by
    rw [Relationship.mutationArgument, Relationship.mutationSuffix]
    cases r.2.isArray <;> rfl
  have hname (a : MutationArgument) : a.toArgument.toField.name = a.name := rfl
  simp only [mutationInputType, hplans, List.map_append, List.map_map, List.map_flatMap,
    Function.comp_def, hname, hfield, hrelationship, mutationNames, suffixed, List.map_cons,
    List.map_nil, ← List.map_eq_flatMap]

theorem filterNames_nodup : e.filterNames.Nodup :=
  suffixed_nodup e.fields.distinct fun f => f.2.areSuffixes_filterSuffixes.nodup

theorem isSuffix_of_mem_filterNames : ∀ p ∈ e.filterNames, IsSuffix p.2 := by
  intro p hp
  obtain ⟨f, -, -, hs⟩ := mem_suffixed.mp hp
  exact f.2.areSuffixes_filterSuffixes.isSuffix p.2 hs

variable {e}

theorem mutationNames_nodup (he : e.validate = .ok ()) : e.mutationNames.Nodup := by
  rw [mutationNames, List.nodup_append]
  refine ⟨suffixed_nodup e.fields.distinct fun f => ?_,
    suffixed_nodup e.relationships.distinct fun r => r.2.areSuffixes_mutationSuffix.nodup, ?_⟩
  · split
    · exact List.nodup_nil
    · exact f.2.areSuffixes_mutationSuffixes.nodup
  · rintro p hp q hq rfl
    obtain ⟨f, hf, hpf, -⟩ := mem_suffixed.mp hp
    obtain ⟨r, hr, hpr, -⟩ := mem_suffixed.mp hq
    apply (validate_eq_ok.mp he).2.2 r.1 (List.mem_map_of_mem hr)
    rw [← hpr, hpf]
    exact List.mem_map_of_mem hf

theorem mem_mutationNames {p : String × String} :
    p ∈ e.mutationNames ↔
      (∃ f ∈ e.fields.entries, p.1 = f.1 ∧ f.1 ≠ idField ∧ p.2 ∈ f.2.mutationSuffixes) ∨
        ∃ r ∈ e.relationships.entries, p.1 = r.1 ∧ p.2 = r.2.mutationSuffix := by
  have hsuffix (f : String × Descriptor) :
      p.2 ∈ (if f.1 = idField then [] else f.2.mutationSuffixes) ↔
        f.1 ≠ idField ∧ p.2 ∈ f.2.mutationSuffixes := by
    split <;> simp [*]
  simp only [mutationNames, List.mem_append, mem_suffixed, hsuffix, List.mem_singleton]

theorem plain_mem_mutationNames {n : String} :
    (n, "") ∈ e.mutationNames ↔
      ∃ g ∈ e.fields.entries, n = g.1 ∧ g.1 ≠ idField ∧ g.2.isSupported = true := by
  have hnone : ¬ ∃ r ∈ e.relationships.entries, n = r.1 ∧ "" = r.2.mutationSuffix := by
    rintro ⟨r, -, -, hs⟩
    exact r.2.mutationSuffix_ne_empty hs.symm
  simp only [mem_mutationNames, hnone, or_false,
    (Descriptor.areSuffixes_mutationSuffixes _).empty_mem]

theorem isSuffix_of_mem_mutationNames : ∀ p ∈ e.mutationNames, IsSuffix p.2 := by
  intro p hp
  rcases mem_mutationNames.mp hp with ⟨f, -, -, -, hs⟩ | ⟨r, -, -, hs⟩
  · exact f.2.areSuffixes_mutationSuffixes.isSuffix p.2 hs
  · exact r.2.areSuffixes_mutationSuffix.isSuffix p.2 (by simp [hs])

theorem or_mem_filterArguments :
    Filter.orName ∈ e.filterArguments.map Sdl.Argument.name ↔
      ∃ f ∈ e.fields.entries, f.1 = Filter.orName ∧ f.2.isFilterable = true := by
  rw [filterArguments_map_name, List.mem_map]
  constructor
  · rintro ⟨p, hp, he⟩
    obtain ⟨f, hf, hpf, hs⟩ := mem_suffixed.mp hp
    have hempty : p.2 = "" :=
      eq_empty_of_append_eq_orName (f.2.areSuffixes_filterSuffixes.isSuffix p.2 hs) he
    rw [hempty, String.append_empty, hpf] at he
    exact ⟨f, hf, he, f.2.areSuffixes_filterSuffixes.empty_mem.mp (hempty ▸ hs)⟩
  · rintro ⟨f, hf, hn, hd⟩
    have hs := f.2.areSuffixes_filterSuffixes.empty_mem.mpr hd
    exact ⟨(f.1, ""), mem_suffixed.mpr ⟨f, hf, rfl, hs⟩, by simp [hn]⟩

theorem filtersType_map_name :
    e.filtersType.fields.map Sdl.Field.name =
      e.filterArguments.map Sdl.Argument.name ++ [Filter.orName] := by
  rw [filtersType, List.map_map, List.map_append]
  rfl

theorem filter_names_nodup_iff :
    (e.filtersType.fields.map Sdl.Field.name).Nodup ↔
      (¬ ∃ f ∈ e.fields.entries, f.1 = Filter.orName ∧ f.2.isFilterable = true) ∧
        ¬ ∃ f ∈ e.fields.entries, ∃ g ∈ e.fields.entries, g.2.isFilterable = true ∧
          ∃ suffix ∈ f.2.filterSuffixes, suffix ≠ "" ∧ g.1 = f.1 ++ suffix := by
  rw [filtersType_map_name, List.nodup_append_comm, List.singleton_append, List.nodup_cons,
    or_mem_filterArguments, filterArguments_map_name,
    nodup_append_iff e.filterNames_nodup e.isSuffix_of_mem_filterNames]
  refine and_congr_right fun _ => not_congr ?_
  constructor
  · rintro ⟨p, hp, q, hq, hne, hempty, hn⟩
    obtain ⟨f, hf, hpf, hs⟩ := mem_suffixed.mp hp
    obtain ⟨g, hg, hqg, hs'⟩ := mem_suffixed.mp hq
    rw [hempty, g.2.areSuffixes_filterSuffixes.empty_mem] at hs'
    exact ⟨f, hf, g, hg, hs', p.2, hs, hne, by rw [← hqg, ← hpf, hn]⟩
  · rintro ⟨f, hf, g, hg, hd, suffix, hs, hne, hn⟩
    have hempty := g.2.areSuffixes_filterSuffixes.empty_mem.mpr hd
    exact ⟨(f.1, suffix), mem_suffixed.mpr ⟨f, hf, rfl, hs⟩, (g.1, ""),
      mem_suffixed.mpr ⟨g, hg, rfl, hempty⟩, hne, rfl, hn⟩

theorem mutation_names_nodup_iff (he : e.validate = .ok ()) :
    (e.mutationInputType.fields.map Sdl.Field.name).Nodup ↔
      ¬ ∃ g ∈ e.fields.entries, g.2.isSupported = true ∧ g.1 ≠ idField ∧
        ((∃ x ∈ e.fields.entries, x.2.isSupported = true ∧ x.1 ≠ idField ∧
            ∃ suffix ∈ x.2.mutationSuffixes, suffix ≠ "" ∧ g.1 = x.1 ++ suffix) ∨
          (∃ r ∈ e.relationships.entries, r.2.isArray = true ∧ g.1 = r.1 ++ "_ADD") ∨
          ∃ r ∈ e.relationships.entries, r.2.isArray = false ∧ g.1 = r.1 ++ "_SET") := by
  rw [mutationInputType_map_name,
    nodup_append_iff (mutationNames_nodup he) isSuffix_of_mem_mutationNames, not_iff_not]
  constructor
  · rintro ⟨p, hp, ⟨n, suffix⟩, hq, hne, rfl, hn⟩
    obtain ⟨g, hg, rfl, hgid, hsupported⟩ := plain_mem_mutationNames.mp hq
    refine ⟨g, hg, hsupported, hgid, ?_⟩
    -- The name with a suffix is one of a field, or that of a relationship.
    rcases mem_mutationNames.mp hp with ⟨f, hf, hpf, hfid, hs⟩ | ⟨r, hr, hpr, hs⟩
    · have hfield := Descriptor.isSupported_of_mem_mutationSuffixes hs
      exact Or.inl ⟨f, hf, hfield, hfid, p.2, hs, hne, hpf ▸ hn⟩
    · rw [hpr, hs, Relationship.mutationSuffix] at hn
      cases ha : r.2.isArray with
      | true => exact Or.inr (Or.inl ⟨r, hr, ha, by simpa [ha] using hn⟩)
      | false => exact Or.inr (Or.inr ⟨r, hr, ha, by simpa [ha] using hn⟩)
  · rintro ⟨g, hg, hsupported, hgid, hclash⟩
    have hq : (g.1, "") ∈ e.mutationNames :=
      plain_mem_mutationNames.mpr ⟨g, hg, rfl, hgid, hsupported⟩
    rcases hclash with ⟨f, hf, -, hfid, suffix, hs, hne, hn⟩ | ⟨r, hr, ha, hn⟩ | ⟨r, hr, ha, hn⟩
    · have hp : (f.1, suffix) ∈ e.mutationNames :=
        mem_mutationNames.mpr (Or.inl ⟨f, hf, rfl, hfid, hs⟩)
      exact ⟨(f.1, suffix), hp, (g.1, ""), hq, hne, rfl, hn⟩
    all_goals
      have hp : (r.1, r.2.mutationSuffix) ∈ e.mutationNames :=
        mem_mutationNames.mpr (Or.inr ⟨r, hr, rfl, rfl⟩)
      refine ⟨_, hp, (g.1, ""), hq, r.2.mutationSuffix_ne_empty, rfl, ?_⟩
      rw [hn, Relationship.mutationSuffix, ha]
      rfl

/-- The exact condition for clashes in the inputs of an entity. In the filter input a field is
called like the argument for alternatives, or like another field with the suffix of one of its
operators. In the mutation input a field that can be changed is called like another one, or like a
relationship, with such a suffix. -/
theorem input_names_nodup_iff {source : FragmentSource} {s : EntitySchema}
    (h : e.schema false source = .ok s) :
    ∃ filters mutations, s.declaration? (TypeName.filters e.name) = some filters ∧
      s.declaration? (TypeName.mutationInput e.name) = some mutations ∧
      ((filters.fields.map Sdl.Field.name).Nodup ↔
        (¬ ∃ f ∈ e.fields.entries, f.1 = Filter.orName ∧ f.2.isFilterable = true) ∧
          ¬ ∃ f ∈ e.fields.entries, ∃ g ∈ e.fields.entries, g.2.isFilterable = true ∧
            ∃ suffix ∈ f.2.filterSuffixes, suffix ≠ "" ∧ g.1 = f.1 ++ suffix) ∧
      ((mutations.fields.map Sdl.Field.name).Nodup ↔
        ¬ ∃ g ∈ e.fields.entries, g.2.isSupported = true ∧ g.1 ≠ idField ∧
          ((∃ x ∈ e.fields.entries, x.2.isSupported = true ∧ x.1 ≠ idField ∧
              ∃ suffix ∈ x.2.mutationSuffixes, suffix ≠ "" ∧ g.1 = x.1 ++ suffix) ∨
            (∃ r ∈ e.relationships.entries, r.2.isArray = true ∧ g.1 = r.1 ++ "_ADD") ∨
            ∃ r ∈ e.relationships.entries, r.2.isArray = false ∧ g.1 = r.1 ++ "_SET")) := by
  obtain ⟨he, -, rfl⟩ := schema_eq_ok.mp h
  have hfilters : e.filtersType ∈ e.declarations := by simp [declarations]
  have hmutations : e.mutationInputType ∈ e.declarations := by simp [declarations]
  exact ⟨e.filtersType, e.mutationInputType, declaration?_of_mem hfilters source,
    declaration?_of_mem hmutations source, filter_names_nodup_iff, mutation_names_nodup_iff he⟩

def lentBook : Entity where
  name := "LentBook"
  fields := ⟨[("_id", .scalar .id), ("pages", .scalar .int), ("pages_lt", .scalar .bool),
    ("loans_ADD", .date)], by decide⟩
  relationships := ⟨[("loans", ⟨"LentBook", true⟩)], by decide⟩
  resolvedFields := .empty
  manualArguments := []
  extras := .none
  table := true
  usedInArray := false

/-- Both inputs of the lent book repeat a name, neither of those of a book does. -/
theorem book_lentBook_input_names :
    (∃ s filters mutations, book.schema false .none = .ok s ∧
        s.declaration? "BookFilters" = some filters ∧
        s.declaration? "BookMutationInput" = some mutations ∧
        (filters.fields.map Sdl.Field.name).Nodup ∧
        (mutations.fields.map Sdl.Field.name).Nodup) ∧
      ∃ s filters mutations, lentBook.schema false .none = .ok s ∧
        s.declaration? "LentBookFilters" = some filters ∧
        s.declaration? "LentBookMutationInput" = some mutations ∧
        ¬ (filters.fields.map Sdl.Field.name).Nodup ∧
        ¬ (mutations.fields.map Sdl.Field.name).Nodup := by
  constructor
  · have hs : book.schema false .none = .ok (book.permissiveSchema .none) :=
      schema_eq_ok.mpr ⟨rfl, nofun, rfl⟩
    obtain ⟨filters, mutations, hf, hm, hfilters, hmutations⟩ := input_names_nodup_iff hs
    exact ⟨_, filters, mutations, hs, hf, hm, hfilters.mpr (by decide), hmutations.mpr (by decide)⟩
  · have hs : lentBook.schema false .none = .ok (lentBook.permissiveSchema .none) :=
      schema_eq_ok.mpr ⟨rfl, nofun, rfl⟩
    obtain ⟨filters, mutations, hf, hm, hfilters, hmutations⟩ := input_names_nodup_iff hs
    exact ⟨_, filters, mutations, hs, hf, hm, mt hfilters.mp (by decide),
      mt hmutations.mp (by decide)⟩

end Entity

end DocumentSchema
