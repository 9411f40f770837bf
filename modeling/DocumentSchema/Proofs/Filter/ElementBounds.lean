import DocumentSchema.Proofs.Filter.Bounds

/-!
# Bounds for one element

An array can be asked for elements within bounds in two ways: every bound has to
be met by some element, or all of them by the same one. The bounds of the second
kind are gathered from all arguments for the field before they become one test.
-/
namespace DocumentSchema

namespace Comparison

def elementOperator : Comparison → FilterOp
  | lt => .elementLt
  | lte => .elementLte
  | gt => .elementGt
  | gte => .elementGte

end Comparison

theorem Descriptor.operatorType?_elementOperator {d : Descriptor} {type : FilterType}
    (h : d.operatorType? .elementLt = some type) (o : Comparison) :
    d.operatorType? o.elementOperator = some type ∧ d.operatorType? o.operator = some type := by
  cases d with
  | scalar kind => cases kind <;> cases h
  | scalarArray kind => cases kind <;> cases h <;> cases o <;> exact ⟨rfl, rfl⟩
  | _ => cases h

/-- A field of arrays that can be asked for elements within bounds, as arrays of numbers can. No
other field generates a name of its operators. -/
structure Entity.BoundsElements (e : Entity) (field : String) (kind : ElementKind)
    (type : FilterType) : Prop where
  mem : (field, .scalarArray kind) ∈ e.fields.entries
  offered : (Descriptor.scalarArray kind).operatorType? .elementLt = some type
  own : ∀ s ∈ (Descriptor.scalarArray kind).filterSuffixes, e.OwnsName field s

/-- Whether an element stands to a number as a comparison asks. -/
def Value.Meets (x : Value) (b : Comparison × Value) : Prop :=
  ∃ s r, x.rank? false = some s ∧ b.2.rank? false = some r ∧ b.1.relates s r

def Bound.ofNumber (b : Comparison × Value) : Bound := ⟨b.1, b.2, false⟩

theorem Bound.holds_ofNumber {b : Comparison × Value} {r : Int} (h : b.2.rank? false = some r)
    {x : Value} : (ofNumber b).holds x = true ↔ x.Meets b := by
  rw [ofNumber, holds_iff h, Value.Meets]
  simp [h]

namespace Test

variable {field : String} {document : Value}

/-- All bounds are met by one element of a stored array. -/
theorem passedBy_elementMatch {bounds : List Bound} :
    (elementMatch bounds).PassedBy field document ↔
      ∃ items, document.storedIn? field = some (.array items) ∧
        ∃ x ∈ items, ∀ b ∈ bounds, b.holds x = true := by
  rw [passedBy_iff rfl]
  constructor
  · rintro ⟨stored, hstored, h⟩
    obtain ⟨x, hx, hbounds⟩ := List.any_eq_true.mp h
    cases stored with
    | array items => exact ⟨items, hstored, x, hx, List.all_eq_true.mp hbounds⟩
    | _ => cases hx
  · rintro ⟨items, hstored, x, hx, hbounds⟩
    exact ⟨_, hstored, List.any_eq_true.mpr ⟨x, hx, List.all_eq_true.mpr hbounds⟩⟩

theorem passedBy_compare_of_array {b : Bound} {items : List Value}
    (h : document.storedIn? field = some (.array items)) :
    (compare b).PassedBy field document ↔ ∃ x ∈ items, b.holds x = true := by
  rw [passedBy_iff rfl, h]
  simp [holds, Value.anyValue]

end Test

namespace Filter

theorem ownsOperator_of_boundsElements {e : Entity} {field : String} {kind : ElementKind}
    {type : FilterType} (h : e.BoundsElements field kind type) {op : FilterOp}
    (ht : (Descriptor.scalarArray kind).operatorType? op = some type) (hop : op.suffix ≠ "") :
    e.OwnsOperator field (.scalarArray kind) op type := by
  obtain ⟨block, hb, hx⟩ := Descriptor.mem_of_operatorType? ht
  have hs := Descriptor.suffix_mem_filterSuffixes hb hx
  refine ⟨h.mem, ht, h.own _ hs, fun hor => hop ?_⟩
  exact eq_empty_of_append_eq_orName (Descriptor.areSuffixes_filterSuffixes _ |>.isSuffix _ hs) hor

theorem boundsOf_map_elementBound (field g : String) (bounds : List Bound) :
    boundsOf g (bounds.map (Part.elementBound field)) = if field = g then bounds else [] := by
  have hbounds : (bounds.map (Part.elementBound field)).filterMap Part.elementBound? =
      bounds.map fun b => (field, b) := by
    rw [List.filterMap_map, ← List.filterMap_eq_map]
    rfl
  rw [boundsOf, hbounds]
  split_ifs with h <;> simp [h, List.filter_map, Function.comp_def]

theorem accepts_ofParts_elementBounds {field : String} {bounds : List Bound} (h : bounds ≠ [])
    {document : Value} :
    (ofParts (bounds.map (Part.elementBound field))).accepts document = true ↔
      (Test.elementMatch bounds).PassedBy field document := by
  cases document with
  | object members =>
    have hmatchers : bounds.flatMap (fun b => (Part.elementBound field b).matchers) = [] :=
      List.flatMap_eq_nil_iff.mpr fun _ _ => rfl
    rw [accepts_ofParts, List.flatMap_map, hmatchers]
    simp [boundsOf_map_elementBound, h, Part.Passes, Test.PassedBy, Value.isObject, Value.storedIn?]
  | _ => simp [ofParts_eq, Matcher.accepts, Test.PassedBy, Value.isObject]

def boundArguments (field : String) (operator : Comparison → FilterOp)
    (bounds : List (Comparison × Value)) : List (String × Value) :=
  bounds.map fun b => (field ++ (operator b.1).suffix, b.2)

section Bounds

variable {c : Catalog} {e : Entity} {field : String} {kind : ElementKind} {type : FilterType}
  {bounds : List (Comparison × Value)}

theorem rank?_of_admits (h : e.BoundsElements field kind type) {v : Value}
    (hv : type.admits v = true) : ∃ r, v.rank? false = some r :=
  Descriptor.exists_rank? (Descriptor.operatorType?_elementOperator h.offered .lt).2 ⟨hv, nofun⟩

theorem compileArgument_bound (h : e.BoundsElements field kind type) {op : FilterOp}
    (hop : op.suffix ≠ "") (ht : (Descriptor.scalarArray kind).operatorType? op = some type)
    {v : Value} (hv : type.admits v = true) {p : Part}
    (hpart : part (field ++ op.suffix) ⟨⟨field, op, type⟩, .scalarArray kind⟩ v = .ok p) :
    compileArgument c e (field ++ op.suffix) v = .ok p := by
  obtain ⟨r, hr⟩ := rank?_of_admits h hv
  have hcheck : check (field ++ op.suffix) ⟨⟨field, op, type⟩, .scalarArray kind⟩ v = .ok () :=
    check_eq_ok.mpr ⟨hv, nofun⟩
  have hnested : op ≠ .nested := by
    rintro rfl
    exact hop rfl
  rw [compileArgument_of_ownsOperator (ownsOperator_of_boundsElements h ht hop) hnested
    (Value.not_isNull_of_rank? hr), hcheck]
  exact hpart

theorem compileArgument_elementBound (h : e.BoundsElements field kind type)
    {b : Comparison × Value} (hb : type.admits b.2 = true) :
    compileArgument c e (field ++ b.1.elementOperator.suffix) b.2 =
      .ok (.elementBound field (.ofNumber b)) := by
  obtain ⟨o, v⟩ := b
  refine compileArgument_bound h ?_ (Descriptor.operatorType?_elementOperator h.offered o).1 hb ?_
  · cases o <;> decide
  · cases o <;> rfl

theorem compileArgument_arrayBound (h : e.BoundsElements field kind type)
    {b : Comparison × Value} (hb : type.admits b.2 = true) :
    compileArgument c e (field ++ b.1.operator.suffix) b.2 =
      .ok (.test field (.compare (.ofNumber b))) := by
  obtain ⟨o, v⟩ := b
  refine compileArgument_bound h ?_ (Descriptor.operatorType?_elementOperator h.offered o).2 hb ?_
  · cases o <;> decide
  · cases o <;> rfl

/-- Bounds for elements select what has an element that meets all of them. -/
theorem compile_elementBounds (he : e ∈ c.entities) (h : e.BoundsElements field kind type)
    (hne : bounds ≠ []) (hbounds : ∀ b ∈ bounds, type.admits b.2 = true) :
    ∃ m, compile c e.name (boundArguments field Comparison.elementOperator bounds) = .ok m ∧
      ∀ document, m.accepts document = true ↔
        (Test.elementMatch (bounds.map Bound.ofNumber)).PassedBy field document := by
  have hcompile : compile c e.name (boundArguments field Comparison.elementOperator bounds) =
      .ok (ofParts (bounds.map (Part.elementBound field ∘ Bound.ofNumber))) :=
    compile_map he fun b hb => compileArgument_elementBound h (hbounds b hb)
  refine ⟨_, hcompile, fun document => ?_⟩
  rw [← List.map_map]
  exact accepts_ofParts_elementBounds (by simpa using hne)

/-- Bounds for an array select what has an element that meets each of them. -/
theorem compile_arrayBounds (he : e ∈ c.entities) (h : e.BoundsElements field kind type)
    (hbounds : ∀ b ∈ bounds, type.admits b.2 = true) :
    ∃ n, compile c e.name (boundArguments field Comparison.operator bounds) = .ok n ∧
      ∀ document, n.accepts document = true ↔
        document.isObject = true ∧
          ∀ b ∈ bounds, (Test.compare (.ofNumber b)).PassedBy field document := by
  have hcompile : compile c e.name (boundArguments field Comparison.operator bounds) =
      .ok (ofParts (bounds.map (Part.test field ∘ fun b => .compare (.ofNumber b)))) :=
    compile_map he fun b hb => compileArgument_arrayBound h (hbounds b hb)
  refine ⟨_, hcompile, fun document => ?_⟩
  rw [← List.map_map, accepts_ofParts_tests, List.forall_mem_map]

/-- Among other arguments the bounds for elements of a field are still met by one element. -/
theorem passedBy_elementMatch_of_subset (he : e ∈ c.entities)
    (h : e.BoundsElements field kind type) (hne : bounds ≠ [])
    (hbounds : ∀ b ∈ bounds, type.admits b.2 = true) {arguments : List (String × Value)}
    (hsub : boundArguments field Comparison.elementOperator bounds ⊆ arguments) {m : Matcher}
    (hm : compile c e.name arguments = .ok m) {document : Value}
    (ha : m.accepts document = true) :
    (Test.elementMatch (bounds.map Bound.ofNumber)).PassedBy field document := by
  rw [compile_eq_ofParts he ((compile_isOk he).mp ⟨m, hm⟩), Except.ok.injEq] at hm
  subst hm
  obtain ⟨members, rfl⟩ := eq_object_of_accepts ha
  obtain ⟨-, hgroups, -⟩ := accepts_ofParts.mp ha
  -- Whatever else is asked for, each bound is in the group of the field.
  have hgroup : ∀ b ∈ bounds.map Bound.ofNumber,
      b ∈ boundsOf field (arguments.map (partOf c e)) := by
    rw [List.forall_mem_map]
    intro b hb
    have hargument : (field ++ b.1.elementOperator.suffix, b.2) ∈ arguments :=
      hsub (List.mem_map_of_mem hb)
    refine mem_boundsOf.mpr ⟨_, List.mem_map_of_mem hargument, ?_⟩
    rw [partOf, compileArgument_elementBound h (hbounds b hb)]
    rfl
  obtain ⟨b, hb⟩ := List.exists_mem_of_ne_nil bounds hne
  have hnonempty := List.ne_nil_of_mem (hgroup _ (List.mem_map_of_mem hb))
  have hpassed : (Test.elementMatch (boundsOf field (arguments.map (partOf c e)))).PassedBy field
      (.object members) := ⟨rfl, hgroups field hnonempty⟩
  obtain ⟨items, hstored, x, hx, hmeets⟩ := Test.passedBy_elementMatch.mp hpassed
  exact Test.passedBy_elementMatch.mpr
    ⟨items, hstored, x, hx, fun b hb => hmeets b (hgroup b hb)⟩

/-- Bounds for elements refine bounds. For arrays of numbers both compile. Bounds for elements
select what stores an array of which one element meets all of them, and as a part of a larger filter
they select no more. What they select is selected by the same bounds for the array, each of which
some element meets. A single bound says the same of a stored array in both ways. -/
theorem element_bounds_refine_bounds (he : e ∈ c.entities) (h : e.BoundsElements field kind type)
    (hne : bounds ≠ []) (hbounds : ∀ b ∈ bounds, type.admits b.2 = true) :
    ∃ m n, compile c e.name (boundArguments field Comparison.elementOperator bounds) = .ok m ∧
      compile c e.name (boundArguments field Comparison.operator bounds) = .ok n ∧
      (∀ document, m.accepts document = true ↔
        ∃ items, document.storedIn? field = some (.array items) ∧
          ∃ x ∈ items, ∀ b ∈ bounds, x.Meets b) ∧
      (∀ arguments k, boundArguments field Comparison.elementOperator bounds ⊆ arguments →
        compile c e.name arguments = .ok k →
          ∀ document, k.accepts document = true → m.accepts document = true) ∧
      (∀ document, m.accepts document = true → n.accepts document = true) ∧
      ∀ b, bounds = [b] → ∀ (document : Value) items,
        document.storedIn? field = some (.array items) →
          m.accepts document = n.accepts document := by
  obtain ⟨m, hm, hone⟩ := compile_elementBounds he h hne hbounds
  obtain ⟨n, hn, hall⟩ := compile_arrayBounds he h hbounds
  refine ⟨m, n, hm, hn, fun document => ?_, ?_, fun document ha => ?_, ?_⟩
  · rw [hone, Test.passedBy_elementMatch]
    refine exists_congr fun items => and_congr_right fun _ => exists_congr fun x =>
      and_congr_right fun _ => ?_
    rw [List.forall_mem_map]
    refine forall₂_congr fun b hb => ?_
    obtain ⟨r, hr⟩ := rank?_of_admits h (hbounds b hb)
    exact Bound.holds_ofNumber hr
  · intro arguments k hsub hk document ha
    exact (hone document).mpr (passedBy_elementMatch_of_subset he h hne hbounds hsub hk ha)
  · have helement := (hone document).mp ha
    obtain ⟨items, hstored, x, hx, hmeets⟩ := Test.passedBy_elementMatch.mp helement
    refine (hall document).mpr ⟨helement.1, fun b hb => ?_⟩
    exact (Test.passedBy_compare_of_array hstored).mpr
      ⟨x, hx, hmeets _ (List.mem_map_of_mem hb)⟩
  · rintro b rfl document items hstored
    have hobject : document.isObject = true := by
      cases document with
      | object members => rfl
      | _ => cases hstored
    rw [Bool.eq_iff_iff, hone, hall, List.forall_mem_singleton, Test.passedBy_elementMatch,
      Test.passedBy_compare_of_array hstored]
    simp [hstored, hobject]

end Bounds

theorem boundsElements_editions : Entity.book.BoundsElements "editions" .int .int := by
  refine ⟨by decide, rfl, ?_⟩
  unfold Entity.OwnsName
  decide

/-- A book with editions on both sides of two bounds has none between them. -/
theorem library_editions_between :
    Entity.book ∈ Catalog.library.entities ∧
      Entity.book.BoundsElements "editions" .int .int ∧
      [(Comparison.gt, Value.number (.int 3)), (.lte, .number (.int 7))] ≠ [] ∧
      (∀ b ∈ [(Comparison.gt, Value.number (.int 3)), (.lte, .number (.int 7))],
        FilterType.int.admits b.2 = true) ∧
      ∃ m n, compile .library "Book"
          [("editions" ++ "_emgt", .number (.int 3)), ("editions" ++ "_emlte", .number (.int 7))] =
            .ok m ∧
        compile .library "Book"
          [("editions" ++ "_gt", .number (.int 3)), ("editions" ++ "_lte", .number (.int 7))] =
            .ok n ∧
        (∀ document, m.accepts document = true → n.accepts document = true) ∧
        m.accepts (.object [("editions", .array [.number (.int 2), .number (.int 9)])]) = false ∧
        n.accepts (.object [("editions", .array [.number (.int 2), .number (.int 9)])]) = true := by
  have he : Entity.book ∈ Catalog.library.entities := List.mem_cons_self
  have hbounds : ∀ b ∈ [(Comparison.gt, Value.number (.int 3)), (.lte, .number (.int 7))],
      FilterType.int.admits b.2 = true := by decide
  obtain ⟨m, n, hm, hn, -, -, hrefines, -⟩ :=
    element_bounds_refine_bounds he boundsElements_editions (List.cons_ne_nil _ _) hbounds
  refine ⟨he, boundsElements_editions, List.cons_ne_nil _ _, hbounds, m, n, hm, hn, hrefines, ?_⟩
  cases hm
  cases hn
  constructor <;> decide

end Filter

end DocumentSchema
