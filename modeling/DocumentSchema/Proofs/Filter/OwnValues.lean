import DocumentSchema.Proofs.Filter.Nested
import DocumentSchema.Proofs.Filter.Typing
import DocumentSchema.Proofs.Equality

/-!
# Filters made of the values of a document

A filter that asks for values that an object holds selects the object, where no
entity repeats the name of an argument. Values of embedded documents are asked
for inside a filter for such documents.
-/
namespace DocumentSchema

/-- No two fields of an entity's filter input share a name. -/
def Entity.HasDistinctFilters (e : Entity) : Prop :=
  (e.filtersType.fields.map Sdl.Field.name).Nodup

namespace FilterBlock

theorem exists_eq {d : Descriptor} (hd : d.target? = none) (hf : d.isFilterable = true)
    {type : String} (htype : readType? .output d = some type) :
    ∃ block t, ofDescriptor? d = some block ∧ (.eq, t) ∈ block ∧ t.text = type := by
  cases d with
  | scalar kind =>
    cases kind <;> cases htype <;>
      exact ⟨_, _, rfl, by simp [text, order, equality]; rfl, rfl⟩
  | scalarArray kind =>
    cases kind <;> cases htype <;>
      exact ⟨_, _, rfl, by simp [count, text, order, elementOrder, array]; rfl, rfl⟩
  | date =>
    cases htype
    exact ⟨_, _, rfl, by simp [order, equality]; rfl, rfl⟩
  | object t => cases hd
  | objectArray t => cases hd
  | literal text => cases hf
  | unsupported raw => cases hf

end FilterBlock

namespace Filter

section Distinct

variable {e : Entity} {o : Offer}

theorem offer?_of_distinct (h : e.HasDistinctFilters) (ho : o ∈ offers e) :
    offer? e o.argument.name = some o ∧ o.argument.name ≠ orName := by
  rw [Entity.HasDistinctFilters, Entity.filtersType_map_name,
    Entity.filterArguments_map_name_eq_offers, List.nodup_append] at h
  obtain ⟨hoffers, -, hor⟩ := h
  constructor
  · have hreverse : ((offers e).reverse.map fun o => o.argument.name).Nodup := by
      rw [List.map_reverse, List.nodup_reverse]
      exact hoffers
    exact find?_key_of_mem hreverse (List.mem_reverse.mpr ho)
  · exact hor _ (List.mem_map_of_mem ho) _ List.mem_cons_self

end Distinct

/-- An argument that asks an object for a value that it stores. Of an embedded document, or of one
chosen element of an array of them, any values may be asked for. -/
inductive AskedOf (c : Catalog) : Entity → List (String × Value) → String × Value → Prop
  | value {e : Entity} {members : List (String × Value)} {field type : String} {d : Descriptor}
      {v : Value} (hd : (field, d) ∈ e.fields.entries) (hplain : d.target? = none)
      (hfilterable : d.isFilterable = true) (htype : readType? .output d = some type)
      (hstored : Value.stored? field members = some v) (hv : HasType c type v)
      (hdates : d.isDate = true → areDates v = true) : AskedOf c e members (field, v)
  | document {e : Entity} {members inner arguments : List (String × Value)}
      {field target : String} {d : Descriptor} (hd : (field, d) ∈ e.fields.entries)
      (htarget : d.target? = some target)
      (hstored : Value.stored? field members = some (.object inner))
      -- A valid catalog holds exactly one such target.
      (hinner : ∀ t ∈ c.entities, t.name = target → ∀ a ∈ arguments, AskedOf c t inner a) :
      AskedOf c e members (field, .object arguments)
  | element {e : Entity} {members inner arguments : List (String × Value)}
      {field target : String} {d : Descriptor} {items : List Value}
      (hd : (field, d) ∈ e.fields.entries) (htarget : d.target? = some target)
      (hstored : Value.stored? field members = some (.array items)) (hi : .object inner ∈ items)
      (hinner : ∀ t ∈ c.entities, t.name = target → ∀ a ∈ arguments, AskedOf c t inner a) :
      AskedOf c e members (field, .object arguments)

/-- An argument that compiles to something which the object passes on its own, and which is neither
a bound nor a choice that other parts could share. -/
def PassedBy (c : Catalog) (e : Entity) (members : List (String × Value)) (a : String × Value) :
    Prop :=
  ∃ p, compileArgument c e a.1 a.2 = .ok p ∧ p.Passes members ∧ p.elementBound? = none ∧
    p.matchers = []

section Passed

variable {c : Catalog} {e : Entity} {members : List (String × Value)}

theorem selects_of_passedBy (he : e ∈ c.entities) {arguments : List (String × Value)}
    (h : ∀ a ∈ arguments, PassedBy c e members a) : Selects c e arguments (.object members) := by
  have hpart (a : String × Value) (ha : a ∈ arguments) :
      (partOf c e a).Passes members ∧ (partOf c e a).elementBound? = none ∧
        (partOf c e a).matchers = [] := by
    obtain ⟨p, hp, hpasses⟩ := h a ha
    rw [partOf, hp]
    exact hpasses
  refine ⟨_, compile_eq_ofParts he fun a ha => ?_, accepts_ofParts.mpr ⟨?_, ?_, ?_⟩⟩
  · obtain ⟨p, hp, -⟩ := h a ha
    exact ⟨p, hp⟩
  · exact List.forall_mem_map.mpr fun a ha => (hpart a ha).1
  · intro field hbounds
    obtain ⟨p, hp, b, hb⟩ := boundsOf_ne_nil.mp hbounds
    obtain ⟨a, ha, rfl⟩ := List.mem_map.mp hp
    rw [(hpart a ha).2.1] at hb
    cases hb
  · intro hmatchers
    refine (hmatchers (List.flatMap_eq_nil_iff.mpr ?_)).elim
    exact List.forall_mem_map.mpr fun a ha => (hpart a ha).2.2

theorem passedBy_value (h : e.HasDistinctFilters) {field type : String} {d : Descriptor}
    {v : Value} (hd : (field, d) ∈ e.fields.entries) (hplain : d.target? = none)
    (hfilterable : d.isFilterable = true) (htype : readType? .output d = some type)
    (hstored : Value.stored? field members = some v) (hv : HasType c type v)
    (hdates : d.isDate = true → areDates v = true) : PassedBy c e members (field, v) := by
  obtain ⟨block, t, hblock, hx, ht⟩ := FilterBlock.exists_eq hplain hfilterable htype
  obtain ⟨hoffer, hn⟩ := offer?_of_distinct h (mem_offers hd hblock hx)
  have hname : field ++ FilterOp.eq.suffix = field := String.append_empty
  simp only [FilterArgument.name, hname] at hoffer hn
  have hnull : v.isNull = false := by simpa using (Option.filter_eq_some_iff.mp hstored).2
  have hcheck : check field ⟨⟨field, .eq, t⟩, d⟩ v = .ok () :=
    check_eq_ok.mpr ⟨hv.admits ht, hdates⟩
  refine ⟨.test field (.equals v d.isDate false), ?_, ?_, rfl, rfl⟩
  · rw [compileArgument_of_offer? hn hnull hoffer hcheck, compileOffer_eq_part (by simp)]
    rfl
  · rw [Part.Passes, hstored, Test.holdsOf, Test.holds, v.equals_refl]
    rfl

theorem passedBy_document (hc : c.validate = .ok ()) (he : e ∈ c.entities)
    (h : e.HasDistinctFilters) {field target : String} {d : Descriptor}
    (hd : (field, d) ∈ e.fields.entries) (htarget : d.target? = some target)
    {arguments : List (String × Value)} {v : Value}
    (hstored : Value.stored? field members = some v)
    (hselects : ∀ t ∈ c.entities, t.name = target → ∃ n, compile c t.name arguments = .ok n ∧
      v.anyValue n.accepts = true) : PassedBy c e members (field, .object arguments) := by
  obtain ⟨block, hblock, hx⟩ := FilterBlock.exists_nested htarget
  obtain ⟨hoffer, hn⟩ := offer?_of_distinct h (mem_offers hd hblock hx)
  have hname : field ++ FilterOp.nested.suffix = field := String.append_empty
  simp only [FilterArgument.name, hname] at hoffer hn
  obtain ⟨t, ht, rfl⟩ := Catalog.mem_names.mp (Catalog.target_mem_names hc he hd htarget)
  obtain ⟨n, hcompile, haccepts⟩ := hselects t ht rfl
  refine ⟨.embedded field n, ?_, ⟨v, hstored, haccepts⟩, rfl, rfl⟩
  rw [compileArgument_nested hn hoffer htarget, hcompile]
  rfl

/-- What an object is asked for of its own values it passes. The induction is on how the argument
is read off, and so descends to the embedded documents. -/
theorem AskedOf.passedBy (hc : c.validate = .ok ())
    (hdistinct : ∀ e ∈ c.entities, e.HasDistinctFilters) {a : String × Value}
    (h : AskedOf c e members a) (he : e ∈ c.entities) : PassedBy c e members a := by
  induction h with
  | value hd hplain hfilterable htype hstored hv hdates =>
    exact passedBy_value (hdistinct _ he) hd hplain hfilterable htype hstored hv hdates
  | document hd htarget hstored _ ih =>
    refine passedBy_document hc he (hdistinct _ he) hd htarget hstored fun t ht hname => ?_
    obtain ⟨n, hn, haccepts⟩ := selects_of_passedBy ht fun a ha => ih t ht hname a ha ht
    exact ⟨n, hn, haccepts⟩
  | element hd htarget hstored hi _ ih =>
    refine passedBy_document hc he (hdistinct _ he) hd htarget hstored fun t ht hname => ?_
    obtain ⟨n, hn, haccepts⟩ := selects_of_passedBy ht fun a ha => ih t ht hname a ha ht
    exact ⟨n, hn, List.any_eq_true.mpr ⟨_, hi, haccepts⟩⟩

/-- In a valid catalog in which no entity repeats the name of a filter argument, an object is
selected by any of its own values. -/
theorem selects_own_values (hc : c.validate = .ok ())
    (hdistinct : ∀ e ∈ c.entities, e.HasDistinctFilters) (he : e ∈ c.entities)
    {arguments : List (String × Value)}
    (h : ∀ a ∈ arguments, AskedOf c e members a) :
    ∃ m, compile c e.name arguments = .ok m ∧ m.accepts (.object members) = true := by
  have hpassed : ∀ a ∈ arguments, PassedBy c e members a := fun a ha =>
    (h a ha).passedBy hc hdistinct he
  exact selects_of_passedBy he hpassed

end Passed

theorem library_own_values :
    Catalog.library.validate = .ok () ∧
      (∀ e ∈ Catalog.library.entities, e.HasDistinctFilters) ∧
      ∃ m, compile .library "Book"
          [("authors", .object [("latest", .object [("pages", .number (.int 300))]),
              ("name", .string "Jane")]),
            ("editions", .array [.number (.int 1), .number (.int 2)]),
            ("published", .string "2020-02-29")] = .ok m ∧
        m.accepts (.object [("authors", .array [.object [("name", .string "Anne")],
              .object [("latest", .object [("pages", .number (.int 300))]),
                ("name", .string "Jane")]]),
            ("editions", .array [.number (.int 1), .number (.int 2)]),
            ("published", .string "2020-02-29"), ("title", .null)]) = true := by
  have hdistinct : ∀ e ∈ Catalog.library.entities, e.HasDistinctFilters := by
    unfold Entity.HasDistinctFilters
    decide
  have hbook : Entity.book ∈ Catalog.library.entities := List.mem_cons_self
  have hauthor : Entity.author ∈ Catalog.library.entities :=
    List.mem_cons_of_mem _ List.mem_cons_self
  refine ⟨Catalog.validate_library, hdistinct,
    selects_own_values Catalog.validate_library hdistinct hbook ?_⟩
  simp only [List.forall_mem_cons, List.not_mem_nil, false_imp_iff, implies_true, and_true]
  refine ⟨?_, ?_, ?_⟩
  · refine .element (d := .objectArray "Author") (by decide) rfl rfl
      (List.mem_cons_of_mem _ List.mem_cons_self) fun t ht hn => ?_
    rw [show t = .author from Catalog.eq_of_name_eq ht hauthor hn]
    simp only [List.forall_mem_cons, List.not_mem_nil, false_imp_iff, implies_true, and_true]
    refine ⟨.document (d := .object "Book") (by decide) rfl rfl fun t ht hn => ?_,
      .value (d := .scalar .string) (by decide) rfl rfl rfl rfl (.string _) nofun⟩
    rw [show t = .book from Catalog.eq_of_name_eq ht hbook hn]
    exact List.forall_mem_singleton.mpr
      (.value (d := .scalar .int) (by decide) rfl rfl rfl rfl (.int _) nofun)
  · refine .value (d := .scalarArray .int) (by decide) rfl rfl rfl rfl (.list ?_ ?_) nofun
    · decide
    · exact List.forall_mem_cons.mpr ⟨.int 1, List.forall_mem_singleton.mpr (.int 2)⟩
  · exact .value (d := .date) (by decide) rfl rfl rfl rfl (.string _) fun _ => by decide

end Filter

end DocumentSchema
