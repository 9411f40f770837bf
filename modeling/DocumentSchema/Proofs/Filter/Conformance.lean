import DocumentSchema.Proofs.Filter.Compile
import DocumentSchema.Proofs.Filter.Typing
import DocumentSchema.Proofs.Schema.Document
import DocumentSchema.Proofs.Value

/-!
# Conforming filters

In a valid catalog filters compile exactly when their arguments are of the type
that the schema declares for them. What an argument is checked for on its own is
compared first; what it nests follows by induction over the value.
-/
namespace DocumentSchema

namespace Filter

theorem areDates_iff {t : FilterType} (ht : t = .string ∨ t = .list .string) {v : Value}
    (hv : t.admits v = true) :
    areDates v = true ↔
      ∀ s, (v = .string s ∨ ∃ items, v = .array items ∧ .string s ∈ items) →
        (Instant.parse s).isSome = true := by
  rcases ht with rfl | rfl
  · cases v with
    | string s => simp [areDates, isDate]
    | _ => cases hv
  · cases v with
    | array items =>
      rw [FilterType.admits, List.all_eq_true] at hv
      simp only [areDates, List.all_eq_true, reduceCtorEq, false_or, Value.array.injEq,
        exists_eq_left']
      constructor
      · exact fun h s hs => h _ hs
      · intro h i hi
        cases i with
        | string s => exact h s hi
        | _ => cases hv _ hi
    | _ => cases hv

theorem exists_part {name : String} {o : Offer} {v : Value} (hc : o.argument.op ≠ .count)
    (hr : o.argument.op ≠ .regex) : ∃ p, part name o v = .ok p := by
  obtain ⟨⟨field, op, type⟩, d⟩ := o
  cases op with
  | count => exact (hc rfl).elim
  | regex => exact (hr rfl).elim
  | contains => cases d <;> cases v <;> exact ⟨_, rfl⟩
  | textContains | startsWith | endsWith => cases v <;> exact ⟨_, rfl⟩
  | _ => exact ⟨_, rfl⟩

theorem part_isOk {name : String} {o : Offer} {v : Value}
    (hf : FilterBlock.Fits o.descriptor (o.argument.op, o.argument.type))
    (hv : o.argument.type.admits v = true) :
    (∃ p, part name o v = .ok p) ↔
      (o.argument.op = .count → ∀ n, v = .number (.int n) → 0 ≤ n) ∧
        (o.argument.op = .regex → ∀ s, v = .string s → (Pattern.compile s).isSome = true) := by
  by_cases hc : o.argument.op = .count
  · rw [show o.argument.type = .int from hf.count hc] at hv
    match v, hv with
    | .number (.int n), _ =>
      by_cases hn : 0 ≤ n <;> simp [part, hc, hn]
  · by_cases hr : o.argument.op = .regex
    · rw [show o.argument.type = .string from hf.regex hr] at hv
      match v, hv with
      | .string s, _ => cases hs : Pattern.compile s <;> simp [part, hr, hs]
    · simp [exists_part hc hr, hc, hr]

/-- An argument without nested ones compiles when its value is of the declared type and meets the
conditions of the operator and of the field. -/
theorem compileValue_isOk {c : Catalog} {name : String} {o : Offer} {v : Value}
    (hf : FilterBlock.Fits o.descriptor (o.argument.op, o.argument.type))
    (hop : o.argument.op ≠ .nested) :
    (check name o v = .ok () ∧ ∃ p, compileOffer c name o v = .ok p) ↔
      HasType c o.argument.type.text v ∧ o.argument.Conditions o.descriptor v := by
  have htype : HasType c o.argument.type.text v ↔ o.argument.type.admits v = true := by
    refine ⟨fun h => h.admits rfl, fun h => ?_⟩
    rcases hf.plain hop with ht | ht
    · rw [show o.argument.type = .json from ht]
      exact .json v
    · exact .of_admits ht h
  rw [compileOffer_eq_part hop, htype, check_eq_ok, and_assoc]
  refine and_congr_right fun ha => ?_
  rw [part_isOk hf ha]
  constructor
  · rintro ⟨hd, hc, hr⟩
    exact ⟨hc, hr, fun hdate => (areDates_iff (hf.date hdate).2 ha).mp (hd hdate)⟩
  · rintro ⟨hc, hr, hd⟩
    exact ⟨fun hdate => (areDates_iff (hf.date hdate).2 ha).mpr (hd hdate), hc, hr⟩

section Takes

variable {c : Catalog} {e : Entity} {name : String} {v : Value}

theorem takesArgument_or :
    c.TakesArgument e orName v ↔
      v.isNull = false ∧ HasType c (listOf (TypeName.filters e.name)) v := by
  constructor
  · intro h
    have hv : v.isNull = false := Bool.eq_false_iff.mpr fun hv => h.given hv rfl
    exact ⟨hv, h.typed hv _ (c.filterType?_orName e)⟩
  · rintro ⟨hv, ht⟩
    refine ⟨⟨_, c.filterType?_orName e⟩, ?_, ?_, fun _ hn => (hn rfl).elim⟩
    · rw [hv]
      exact nofun
    · intro _ type htype
      rw [c.filterType?_orName, Option.some.injEq] at htype
      exact htype ▸ ht

theorem takesArgument_null (hn : name ≠ orName) :
    c.TakesArgument e name .null ↔ ∃ o, offer? e name = some o := by
  rw [← c.exists_filterType? e hn]
  constructor
  · rintro ⟨hdeclared, -⟩
    exact hdeclared
  · intro hdeclared
    exact ⟨hdeclared, fun _ => hn, nofun, nofun⟩

theorem takesArgument_of_ne (hn : name ≠ orName) (hv : v.isNull = false) :
    c.TakesArgument e name v ↔
      ∃ o, offer? e name = some o ∧ HasType c o.argument.type.text v ∧
        o.argument.Conditions o.descriptor v := by
  constructor
  · rintro ⟨⟨type, htype⟩, -, htyped, hconditions⟩
    have hty := htyped hv type htype
    rw [c.filterType?_of_ne e hn, Option.map_eq_some_iff] at htype
    obtain ⟨o, ho, rfl⟩ := htype
    have hx := ho
    rw [offer?_eq, Option.map_eq_some_iff] at hx
    obtain ⟨x, hx, rfl⟩ := hx
    exact ⟨_, ho, hty, hconditions hv hn x hx⟩
  · rintro ⟨o, ho, ht, hconditions⟩
    have htype : c.filterType? e name = some o.argument.type.text := by
      rw [c.filterType?_of_ne e hn, ho]
      rfl
    refine ⟨⟨_, htype⟩, fun _ => hn, ?_, ?_⟩
    · intro _ type htype'
      rw [htype, Option.some.injEq] at htype'
      exact htype' ▸ ht
    · intro _ _ x hx
      rw [offer?_eq, hx, Option.map_some, Option.some.injEq] at ho
      subst ho
      exact hconditions

theorem compileArgument_isOk_of_ne (hn : name ≠ orName) (hv : v.isNull = false) :
    (∃ p, compileArgument c e name v = .ok p) ↔
      ∃ o, offer? e name = some o ∧ check name o v = .ok () ∧
        ∃ p, compileOffer c name o v = .ok p := by
  simp only [compileArgument_of_ne hn hv, Traversal.bind_eq_ok, takeUp_eq_ok]
  constructor
  · rintro ⟨p, o, ⟨ho, hcheck⟩, hp⟩
    exact ⟨o, ho, hcheck, p, hp⟩
  · rintro ⟨o, ho, hcheck, p, hp⟩
    exact ⟨p, o, ⟨ho, hcheck⟩, hp⟩

end Takes

/-- What is shown of a value by induction: as an argument it compiles when it is taken, and as the
arguments of an entity when it has the entity's filter type. -/
structure Conforms (c : Catalog) (v : Value) : Prop where
  argument : ∀ e ∈ c.entities, ∀ name,
    (∃ p, compileArgument c e name v = .ok p) ↔ c.TakesArgument e name v
  arguments : ∀ e ∈ c.entities, ∀ members, v = .object members →
    ((∃ parts, compileArguments c e members = .ok parts) ↔ HasType c (TypeName.filters e.name) v)

section Nested

variable {c : Catalog} {e : Entity}

theorem compileArguments_isOk (he : e ∈ c.entities) {members : List (String × Value)}
    (h : ∀ m ∈ members, Conforms c m.2) :
    (∃ parts, compileArguments c e members = .ok parts) ↔
      HasType c (TypeName.filters e.name) (.object members) := by
  rw [compileArguments_eq_mapM, Traversal.mapM_isOk, HasType.filters_iff he]
  simp only [Value.object.injEq, exists_eq_left']
  exact forall₂_congr fun m hm => (h m hm).argument e he m.1

theorem compileArgument_or_isOk (he : e ∈ c.entities) {items : List Value}
    (h : ∀ i ∈ items, Conforms c i) :
    (∃ p, compileArgument c e orName (.array items) = .ok p) ↔
      HasType c (listOf (TypeName.filters e.name)) (.array items) := by
  have hbranch (i : Value) (hi : i ∈ items) :
      (∃ m, compileBranch c e orName i = .ok m) ↔
        i.isNull = false ∧ HasType c (TypeName.filters e.name) i := by
    cases i with
    | object members =>
      rw [compileBranch, Traversal.map_isOk, (h _ hi).arguments e he members rfl]
      simp [Value.isNull]
    | _ => simp [compileBranch, HasType.filters_iff he]
  rw [compileArgument_or, Traversal.map_isOk, Traversal.mapM_isOk, HasType.list_iff]
  simp only [Value.array.injEq, exists_eq_left']
  exact forall₂_congr hbranch

theorem compileNested_isOk (hc : c.validate = .ok ()) (he : e ∈ c.entities) {name : String}
    {o : Offer} (ho : offer? e name = some o) (hop : o.argument.op = .nested) {v : Value}
    (h : ∀ members, v = .object members → ∀ m ∈ members, Conforms c m.2) :
    (check name o v = .ok () ∧ ∃ p, compileOffer c name o v = .ok p) ↔
      HasType c o.argument.type.text v ∧ o.argument.Conditions o.descriptor v := by
  obtain ⟨hentry, hf⟩ := fits_of_offer? ho
  obtain ⟨t, htarget, htype⟩ := hf.nested hop
  have htype : o.argument.type = .filters t := htype
  have hdate : o.descriptor.isDate ≠ true := fun hd => (hf.date hd).1 hop
  have hconditions : o.argument.Conditions o.descriptor v := by
    refine ⟨?_, ?_, fun hd => (hdate hd).elim⟩ <;> rw [hop] <;> exact nofun
  obtain ⟨te, hte, rfl⟩ := Catalog.mem_names.mp (Catalog.target_mem_names hc he hentry htarget)
  rw [check_eq_ok, htype, and_iff_left hconditions, and_iff_left fun hd => (hdate hd).elim]
  cases v with
  | object members =>
    rw [FilterType.text, ← compileArguments_isOk hte (h members rfl)]
    simp only [compileOffer, if_pos hop, htarget, Catalog.get?_of_mem hte, Traversal.map_isOk]
    simp [FilterType.admits]
  | _ => simp [FilterType.admits, FilterType.text, HasType.filters_iff hte]

theorem conforms_of_nested (hc : c.validate = .ok ()) {v : Value}
    (hitems : ∀ items, v = .array items → ∀ i ∈ items, Conforms c i)
    (hmembers : ∀ members, v = .object members → ∀ m ∈ members, Conforms c m.2) :
    Conforms c v := by
  refine ⟨fun e he name => ?_, fun e he members hv => ?_⟩
  · by_cases hn : name = orName
    · rw [hn, takesArgument_or]
      cases v with
      | array items =>
        rw [compileArgument_or_isOk he (hitems items rfl)]
        simp [Value.isNull]
      | _ =>
        rw [compileArgument_or_of_ne (by simp), HasType.list_iff]
        simp
    · cases hv : v.isNull with
      | true =>
        cases v <;> cases hv
        rw [takesArgument_null hn, compileArgument_null hn]
        cases offer? e name <;> simp
      | false =>
        rw [compileArgument_isOk_of_ne hn hv, takesArgument_of_ne hn hv]
        refine exists_congr fun o => and_congr_right fun ho => ?_
        by_cases hop : o.argument.op = .nested
        · exact compileNested_isOk hc he ho hop hmembers
        · exact compileValue_isOk (fits_of_offer? ho).2 hop
  · subst hv
    exact compileArguments_isOk he (hmembers members rfl)

theorem conforms (hc : c.validate = .ok ()) (v : Value) : Conforms c v := by
  induction v using Value.insideInduction with
  | inside v hitems hmembers => exact conforms_of_nested hc hitems hmembers

/-- In a valid catalog the filters of an entity compile exactly when they are a value of the filter
input that is declared for it. -/
theorem compile_isOk_iff_hasType (hc : c.validate = .ok ()) (he : e ∈ c.entities)
    (arguments : List (String × Value)) :
    (∃ m, compile c e.name arguments = .ok m) ↔
      HasType c (TypeName.filters e.name) (.object arguments) := by
  rw [compile_of_mem he, Traversal.map_isOk]
  exact (conforms hc (.object arguments)).arguments e he arguments rfl

end Nested

theorem library_filters_conform :
    Catalog.library.validate = .ok () ∧ Entity.book ∈ Catalog.library.entities ∧
      HasType .library "BookFilters" (.object
        [("OR", .array [.object [("pages_lt", .number (.int 100))],
            .object [("published_gte", .string "2020-01-01")]]),
          ("authors", .object [("latest", .object [("title_ne", .string "Emma")])]),
          ("editions_count", .null)]) := by
  have he : Entity.book ∈ Catalog.library.entities := List.mem_cons_self
  exact ⟨Catalog.validate_library, he,
    (compile_isOk_iff_hasType Catalog.validate_library he _).mp ⟨_, rfl⟩⟩

end Filter

end DocumentSchema
