import DocumentSchema.Proofs.Filter.Declared

/-!
# Typing of filters

A value has a declared type when it follows the text of the type, and the members
of an object of a filter type the texts of its fields.
-/
namespace DocumentSchema

/-- What the operator and the field of an argument ask of a value beyond its type. -/
structure FilterArgument.Conditions (a : FilterArgument) (d : Descriptor) (v : Value) : Prop where
  count : a.op = .count → ∀ n, v = .number (.int n) → 0 ≤ n
  regex : a.op = .regex → ∀ s, v = .string s → (Pattern.compile s).isSome = true
  date : d.isDate = true → ∀ s, (v = .string s ∨ ∃ items, v = .array items ∧ .string s ∈ items) →
    (Instant.parse s).isSome = true

/-- Values of a declared type. The members of a filter input are named by its fields; a null stands
for no argument, except in place of alternatives. -/
inductive HasType (c : Catalog) : String → Value → Prop
  | int (n : Int) : HasType c "Int" (.number (.int n))
  | float (n : Number) : HasType c "Float" (.number n)
  | string (s : String) : HasType c "String" (.string s)
  | boolean (b : Bool) : HasType c "Boolean" (.bool b)
  | json (v : Value) : HasType c "JSON" v
  | list {type : String} {items : List Value} (given : ∀ v ∈ items, v.isNull = false)
      (typed : ∀ v ∈ items, HasType c type v) : HasType c (listOf type) (.array items)
  | filters {e : Entity} {members : List (String × Value)} (mem : e ∈ c.entities)
      (declared : ∀ m ∈ members, ∃ type, c.filterType? e m.1 = some type)
      (given : ∀ m ∈ members, m.2.isNull = true → m.1 ≠ Filter.orName)
      (typed : ∀ m ∈ members, m.2.isNull = false →
        ∀ type, c.filterType? e m.1 = some type → HasType c type m.2)
      (conditions : ∀ m ∈ members, m.2.isNull = false → m.1 ≠ Filter.orName →
        ∀ x, e.generatedFilter? m.1 = some x → x.1.Conditions x.2 m.2) :
      HasType c (TypeName.filters e.name) (.object members)

theorem listOf_ne_filters (t n : String) : listOf t ≠ TypeName.filters n := by
  intro h
  have hl := congrArg (fun s : String => s.toList.reverse.head?) h
  simp [listOf, TypeName.filters] at hl

namespace FilterType

theorem text_ne_listOf {t : FilterType} (ht : t ∈ scalars) (s : String) : t.text ≠ listOf s := by
  have hall : ∀ t ∈ scalars, '[' ∉ t.text.toList := by decide
  intro h
  have hb := hall t ht
  rw [h] at hb
  simp [listOf] at hb

theorem text_ne_filters {t : FilterType} (ht : t ∈ scalars) (n : String) :
    t.text ≠ TypeName.filters n := by
  have hall : ∀ t ∈ scalars, ¬ "Filters".toList <:+ t.text.toList := by decide
  intro h
  have hs := hall t ht
  rw [h] at hs
  simp [TypeName.filters] at hs

theorem eq_of_text_eq {t u : FilterType} (hu : u ∈ scalars) (h : t.text = u.text) : t = u := by
  cases t with
  | list element => exact (text_ne_listOf hu _ h.symm).elim
  | filters n => exact (text_ne_filters hu _ h.symm).elim
  | _ =>
    simp only [scalars, List.mem_cons, List.not_mem_nil, or_false] at hu
    rcases hu with rfl | rfl | rfl | rfl | rfl <;> simp [text] at h ⊢

theorem text_eq_listOf {t : FilterType} {s : String} (h : t.text = listOf s) :
    ∃ element, t = .list element ∧ element.text = s := by
  cases t with
  | list element => exact ⟨element, rfl, by simpa [text, listOf] using h⟩
  | filters n => exact (listOf_ne_filters s n h.symm).elim
  | _ => exact (text_ne_listOf (by simp [scalars]) s h).elim

theorem text_eq_filters {t : FilterType} {n : String} (h : t.text = TypeName.filters n) :
    t = .filters n := by
  cases t with
  | list element => exact (listOf_ne_filters _ n h).elim
  | filters m => simpa [text, TypeName.filters] using h
  | _ => exact (text_ne_filters (by simp [scalars]) n h).elim

theorem not_isNull_of_admits {t : FilterType} (ht : t.isPlain = true) {v : Value}
    (h : t.admits v = true) : v.isNull = false := by
  cases v with
  | null =>
    cases t with
    | json => cases ht
    | _ => cases h
  | _ => rfl

end FilterType

namespace HasType

variable {c : Catalog} {v : Value}

theorem admits {type : String} (h : HasType c type v) {t : FilterType} (ht : t.text = type) :
    t.admits v = true := by
  induction h generalizing t with
  | int n =>
    rw [FilterType.eq_of_text_eq (u := .int) (by simp [FilterType.scalars]) ht]
    rfl
  | float n =>
    rw [FilterType.eq_of_text_eq (u := .float) (by simp [FilterType.scalars]) ht]
    rfl
  | string s =>
    rw [FilterType.eq_of_text_eq (u := .string) (by simp [FilterType.scalars]) ht]
    rfl
  | boolean b =>
    rw [FilterType.eq_of_text_eq (u := .boolean) (by simp [FilterType.scalars]) ht]
    rfl
  | json v =>
    rw [FilterType.eq_of_text_eq (u := .json) (by simp [FilterType.scalars]) ht]
    rfl
  | list given typed ih =>
    obtain ⟨element, rfl, he⟩ := FilterType.text_eq_listOf ht
    rw [FilterType.admits, List.all_eq_true]
    exact fun v hv => ih v hv he
  | filters =>
    rw [FilterType.text_eq_filters ht]
    rfl

theorem of_admits {t : FilterType} (ht : t.isPlain = true) (h : t.admits v = true) :
    HasType c t.text v := by
  induction t generalizing v with
  | int =>
    cases v with
    | number n =>
      cases n with
      | int n => exact .int n
      | double d => cases h
    | _ => cases h
  | float =>
    cases v with
    | number n => exact .float n
    | _ => cases h
  | string =>
    cases v with
    | string s => exact .string s
    | _ => cases h
  | boolean =>
    cases v with
    | bool b => exact .boolean b
    | _ => cases h
  | json => cases ht
  | filters n => cases ht
  | list element ih =>
    cases v with
    | array items =>
      rw [FilterType.admits, List.all_eq_true] at h
      refine .list (fun v hv => ?_) fun v hv => ih ht (h v hv)
      exact FilterType.not_isNull_of_admits (t := element) ht (h v hv)
    | _ => cases h

end HasType

/-- What the filter input of an entity takes under a name. -/
structure Catalog.TakesArgument (c : Catalog) (e : Entity) (name : String) (v : Value) : Prop where
  declared : ∃ type, c.filterType? e name = some type
  given : v.isNull = true → name ≠ Filter.orName
  typed : v.isNull = false → ∀ type, c.filterType? e name = some type → HasType c type v
  conditions : v.isNull = false → name ≠ Filter.orName →
    ∀ x, e.generatedFilter? name = some x → x.1.Conditions x.2 v

namespace HasType

variable {c : Catalog} {v : Value}

theorem type_cases {type : String} (h : HasType c type v) :
    (∃ t ∈ FilterType.scalars, t.text = type) ∨
      (∃ element items, listOf element = type ∧ v = .array items ∧
        ∀ i ∈ items, i.isNull = false ∧ HasType c element i) ∨
      ∃ e ∈ c.entities, TypeName.filters e.name = type ∧
        ∃ members, v = .object members ∧ ∀ m ∈ members, c.TakesArgument e m.1 m.2 := by
  cases h with
  | int n => exact Or.inl ⟨.int, by simp [FilterType.scalars], rfl⟩
  | float n => exact Or.inl ⟨.float, by simp [FilterType.scalars], rfl⟩
  | string s => exact Or.inl ⟨.string, by simp [FilterType.scalars], rfl⟩
  | boolean b => exact Or.inl ⟨.boolean, by simp [FilterType.scalars], rfl⟩
  | json v => exact Or.inl ⟨.json, by simp [FilterType.scalars], rfl⟩
  | list given typed =>
    exact Or.inr (Or.inl ⟨_, _, rfl, rfl, fun i hi => ⟨given i hi, typed i hi⟩⟩)
  | filters mem declared given typed conditions =>
    exact Or.inr (Or.inr ⟨_, mem, rfl, _, rfl, fun m hm =>
      ⟨declared m hm, given m hm, typed m hm, conditions m hm⟩⟩)

theorem list_iff {element : String} :
    HasType c (listOf element) v ↔
      ∃ items, v = .array items ∧ ∀ i ∈ items, i.isNull = false ∧ HasType c element i := by
  constructor
  · intro h
    rcases h.type_cases with ⟨t, ht, hs⟩ | ⟨element', items, hs, hv, hi⟩ | ⟨e, -, hs, -⟩
    · exact (FilterType.text_ne_listOf ht element hs).elim
    · obtain rfl : element' = element := by simpa [listOf] using hs
      exact ⟨items, hv, hi⟩
    · exact (listOf_ne_filters element e.name hs.symm).elim
  · rintro ⟨items, rfl, h⟩
    exact .list (fun i hi => (h i hi).1) fun i hi => (h i hi).2

theorem filters_iff {e : Entity} (he : e ∈ c.entities) :
    HasType c (TypeName.filters e.name) v ↔
      ∃ members, v = .object members ∧ ∀ m ∈ members, c.TakesArgument e m.1 m.2 := by
  constructor
  · intro h
    rcases h.type_cases with ⟨t, ht, hs⟩ | ⟨element, items, hs, -⟩ | ⟨e', he', hs, hm⟩
    · exact (FilterType.text_ne_filters ht e.name hs).elim
    · exact (listOf_ne_filters element e.name hs).elim
    · have hname : e'.name = e.name := by simpa [TypeName.filters] using hs
      obtain rfl := List.inj_on_of_nodup_map c.distinct he' he hname
      exact hm
  · rintro ⟨members, rfl, h⟩
    exact .filters he (fun m hm => (h m hm).declared) (fun m hm => (h m hm).given)
      (fun m hm => (h m hm).typed) fun m hm => (h m hm).conditions

end HasType

end DocumentSchema
