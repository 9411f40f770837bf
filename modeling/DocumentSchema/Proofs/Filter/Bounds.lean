import DocumentSchema.Proofs.Filter.FieldTests
import DocumentSchema.Proofs.Filter.Integers

/-!
# Bounds and equality

Where a field has an order, bounds and equality look at the same places: those
of the stored value, or of its elements. So a bound that admits its value is the
strict bound or equality, at most one of below, equal and above holds of a single
value, and a wider bound admits more.
-/
namespace DocumentSchema

namespace Descriptor

def isOrdered : Descriptor → Bool
  | scalar .int | scalar .float | date => true
  | _ => false

def isOrderedArray : Descriptor → Bool
  | scalarArray .int | scalarArray .float => true
  | _ => false

theorem operatorType?_operator (d : Descriptor) (o : Comparison) :
    d.operatorType? o.operator = d.operatorType? .lt := by
  cases d with
  | scalar kind => cases kind <;> cases o <;> rfl
  | scalarArray kind => cases kind <;> cases o <;> rfl
  | _ => cases o <;> rfl

theorem exists_type_of_isOrdered {d : Descriptor} (h : d.isOrdered = true) :
    ∃ type, d.operatorType? .lt = some type ∧ d.operatorType? .eq = some type := by
  cases d with
  | scalar kind => cases kind <;> cases h <;> exact ⟨_, rfl, rfl⟩
  | date => exact ⟨_, rfl, rfl⟩
  | _ => cases h

theorem exists_type_of_isOrderedArray {d : Descriptor} (h : d.isOrderedArray = true) :
    ∃ type, d.operatorType? .lt = some type ∧ d.operatorType? .contains = some type ∧
      ∃ kind, d = .scalarArray kind := by
  cases d with
  | scalarArray kind => cases kind <;> cases h <;> exact ⟨_, rfl, rfl, _, rfl⟩
  | _ => cases h

theorem exists_type_of_bound {d : Descriptor} (h : d.isOrdered = true ∨ d.isOrderedArray = true) :
    ∃ type, d.operatorType? .lt = some type := by
  rcases h with h | h
  · obtain ⟨type, ht, -⟩ := exists_type_of_isOrdered h
    exact ⟨type, ht⟩
  · obtain ⟨type, ht, -⟩ := exists_type_of_isOrderedArray h
    exact ⟨type, ht⟩

theorem type_of_bound {d : Descriptor} {type : FilterType} (h : d.operatorType? .lt = some type) :
    (d.isDate = false ∧ (type = .int ∨ type = .float)) ∨ d.isDate = true ∧ type = .string := by
  cases d with
  | scalar kind => cases kind <;> cases h <;> simp [isDate]
  | scalarArray kind => cases kind <;> cases h <;> simp [isDate]
  | date =>
    cases h
    exact .inr ⟨rfl, rfl⟩
  | _ => cases h

theorem exists_rank? {d : Descriptor} {type : FilterType} (h : d.operatorType? .lt = some type)
    {v : Value} (hv : d.Takes type v) : ∃ r, v.rank? d.isDate = some r := by
  obtain ⟨htype, hdates⟩ := hv
  rcases type_of_bound h with ⟨hd, hnumber⟩ | ⟨hd, rfl⟩
  · have hn : ∃ n, v = .number n := by
      cases v with
      | number n => exact ⟨n, rfl⟩
      | _ => rcases hnumber with rfl | rfl <;> cases htype
    obtain ⟨n, rfl⟩ := hn
    exact ⟨n.toDouble.key, by rw [hd]; rfl⟩
  · cases v with
    | string s =>
      obtain ⟨t, ht⟩ := Option.isSome_iff_exists.mp (hdates hd)
      exact ⟨t.nanoseconds, by simp [Value.rank?, hd, ht]⟩
    | _ => cases htype

end Descriptor

namespace Value

/-- What a bound is compared with: the elements of an array, or a value that is no array. -/
def compared : Value → List Value
  | .array items => items
  | v => [v]

theorem anyValue_eq_any (accept : Value → Bool) (v : Value) :
    v.anyValue accept = v.compared.any accept := by
  cases v <;> simp [anyValue, compared]

/-- The places of what a document stores under a field, in the order of the field. -/
def ranksIn (date : Bool) (field : String) (document : Value) : List Int :=
  (document.storedIn? field).toList.flatMap fun x => x.compared.filterMap (rank? date)

theorem mem_ranksIn {date : Bool} {field : String} {document : Value} {s : Int} :
    s ∈ document.ranksIn date field ↔
      ∃ x, document.storedIn? field = some x ∧ ∃ y ∈ x.compared, y.rank? date = some s := by
  simp [ranksIn]

end Value

namespace Test

variable {date : Bool} {field : String} {v document : Value} {r : Int}

theorem passedBy_compare (h : v.rank? date = some r) {o : Comparison} :
    (compare ⟨o, v, date⟩).PassedBy field document ↔
      ∃ s ∈ document.ranksIn date field, o.relates s r := by
  rw [passedBy_iff rfl]
  simp only [holds, Value.anyValue_eq_any, List.any_eq_true, Bound.holds_iff h, Value.mem_ranksIn]
  constructor
  · rintro ⟨x, hx, y, hy, s, hs, hrelates⟩
    exact ⟨s, ⟨x, hx, y, hy, hs⟩, hrelates⟩
  · rintro ⟨s, ⟨x, hx, y, hy, hs⟩, hrelates⟩
    exact ⟨x, hx, y, hy, s, hs, hrelates⟩

theorem passedBy_equals (h : v.rank? date = some r)
    (hstored : ∀ items, document.storedIn? field ≠ some (.array items)) :
    (equals v date false).PassedBy field document ↔ r ∈ document.ranksIn date field := by
  rw [passedBy_iff rfl, Value.mem_ranksIn]
  refine exists_congr fun x => and_congr_right fun hx => ?_
  have hcompared : x.compared = [x] := by
    cases x with
    | array items => exact (hstored items hx).elim
    | _ => rfl
  rw [holds, Bool.bne_false, Value.equals_iff_rank? h, hcompared]
  simp

theorem passedBy_containsElement (h : v.rank? false = some r) {items : List Value}
    (hstored : document.storedIn? field = some (.array items)) :
    (containsElement v).PassedBy field document ↔ r ∈ document.ranksIn false field := by
  rw [passedBy_iff rfl, Value.mem_ranksIn]
  refine exists_congr fun x => and_congr_right fun hx => ?_
  obtain rfl : x = .array items := by
    rw [hstored] at hx
    exact (Option.some.inj hx).symm
  simp [holds, Value.elements, Value.compared, Value.equals_iff_rank? h]

end Test

theorem Value.eq_of_mem_ranksIn {date : Bool} {field : String} {document : Value} {s t : Int}
    (hstored : ∀ items, document.storedIn? field ≠ some (.array items))
    (hs : s ∈ document.ranksIn date field) (ht : t ∈ document.ranksIn date field) : s = t := by
  obtain ⟨x, hx, y, hy, hrank⟩ := mem_ranksIn.mp hs
  obtain ⟨x', hx', y', hy', hrank'⟩ := mem_ranksIn.mp ht
  rw [hx, Option.some.injEq] at hx'
  subst hx'
  cases x with
  | array items => exact (hstored items hx).elim
  | _ =>
    rw [List.mem_singleton.mp hy] at hrank
    rw [List.mem_singleton.mp hy', hrank] at hrank'
    exact Option.some.inj hrank'

namespace Filter

def Compiles (c : Catalog) (e : Entity) (name : String) (v : Value) : Prop :=
  ∃ m, compile c e.name [(name, v)] = .ok m

/-- On a document the bounds that admit their value are the strict ones or equality, which is asked
for under a name of its own. -/
structure BoundsAgree (c : Catalog) (e : Entity) (field equal : String) (v document : Value) :
    Prop where
  lte : Selects c e [(field ++ "_lte", v)] document ↔
    Selects c e [(field ++ "_lt", v)] document ∨ Selects c e [(equal, v)] document
  gte : Selects c e [(field ++ "_gte", v)] document ↔
    Selects c e [(field ++ "_gt", v)] document ∨ Selects c e [(equal, v)] document

/-- At most one of below, equal and above selects a document. -/
structure AtMostOne (c : Catalog) (e : Entity) (field : String) (v document : Value) : Prop where
  lt_eq : ¬ (Selects c e [(field ++ "_lt", v)] document ∧ Selects c e [(field, v)] document)
  lt_gt : ¬ (Selects c e [(field ++ "_lt", v)] document ∧
    Selects c e [(field ++ "_gt", v)] document)
  eq_gt : ¬ (Selects c e [(field, v)] document ∧ Selects c e [(field ++ "_gt", v)] document)

/-- Upper bounds at `w` select what those at `v` do, and lower bounds at `v` what those at `w`
do. -/
structure Widens (c : Catalog) (e : Entity) (field : String) (v w document : Value) : Prop where
  lt : Selects c e [(field ++ "_lt", v)] document → Selects c e [(field ++ "_lt", w)] document
  lte : Selects c e [(field ++ "_lte", v)] document → Selects c e [(field ++ "_lte", w)] document
  gt : Selects c e [(field ++ "_gt", w)] document → Selects c e [(field ++ "_gt", v)] document
  gte : Selects c e [(field ++ "_gte", w)] document → Selects c e [(field ++ "_gte", v)] document

/-- The bounds at a value select the documents with a place that is related to `r`. -/
def BoundsAt (c : Catalog) (e : Entity) (field : String) (date : Bool) (v : Value) (r : Int) :
    Prop :=
  ∀ (o : Comparison) document, Selects c e [(field ++ o.operator.suffix, v)] document ↔
    ∃ s ∈ document.ranksIn date field, o.relates s r

namespace BoundsAt

variable {c : Catalog} {e : Entity} {field : String} {date : Bool} {v w document : Value}
  {r s : Int}

theorem agree (h : BoundsAt c e field date v r) {equal : String}
    (hequal : Selects c e [(equal, v)] document ↔ r ∈ document.ranksIn date field) :
    BoundsAgree c e field equal v document := by
  have hplaces (o o' : Comparison) (ho : ∀ s, o'.relates s r ↔ o.relates s r ∨ s = r) :
      Selects c e [(field ++ o'.operator.suffix, v)] document ↔
        Selects c e [(field ++ o.operator.suffix, v)] document ∨
          Selects c e [(equal, v)] document := by
    rw [h, h, hequal]
    simp only [ho, and_or_left, exists_or, exists_eq_right]
  constructor
  · exact hplaces .lt .lte fun s => Int.le_iff_lt_or_eq
  · exact hplaces .gt .gte fun s => Int.le_iff_lt_or_eq.trans (or_congr_right eq_comm)

/-- A single value has one place at most, which is not both before and behind another, nor is it
either of these and the same. -/
theorem atMostOne (h : BoundsAt c e field date v r)
    (hstored : ∀ items, document.storedIn? field ≠ some (.array items))
    (hequal : Selects c e [(field, v)] document ↔ r ∈ document.ranksIn date field) :
    AtMostOne c e field v document := by
  constructor
  · rintro ⟨hlt, heq⟩
    obtain ⟨s, hs, hrelates⟩ := (h .lt document).mp hlt
    obtain rfl := Value.eq_of_mem_ranksIn hstored hs (hequal.mp heq)
    exact Int.lt_irrefl s hrelates
  · rintro ⟨hlt, hgt⟩
    obtain ⟨s, hs, hrelates⟩ := (h .lt document).mp hlt
    obtain ⟨t, ht, hrelates'⟩ := (h .gt document).mp hgt
    obtain rfl := Value.eq_of_mem_ranksIn hstored hs ht
    exact Int.lt_asymm hrelates hrelates'
  · rintro ⟨heq, hgt⟩
    obtain ⟨s, hs, hrelates⟩ := (h .gt document).mp hgt
    obtain rfl := Value.eq_of_mem_ranksIn hstored hs (hequal.mp heq)
    exact Int.lt_irrefl s hrelates

theorem atLeastOne (h : BoundsAt c e field date v r)
    (hequal : Selects c e [(field, v)] document ↔ r ∈ document.ranksIn date field)
    (hs : s ∈ document.ranksIn date field) :
    Selects c e [(field ++ "_lt", v)] document ∨ Selects c e [(field, v)] document ∨
      Selects c e [(field ++ "_gt", v)] document := by
  rcases Int.lt_trichotomy s r with hlt | rfl | hgt
  · exact .inl ((h .lt document).mpr ⟨s, hs, hlt⟩)
  · exact .inr (.inl (hequal.mpr hs))
  · exact .inr (.inr ((h .gt document).mpr ⟨s, hs, hgt⟩))

theorem widens (h : BoundsAt c e field date v r) (h' : BoundsAt c e field date w s) (hle : r ≤ s) :
    Widens c e field v w document := by
  constructor
  · intro hlt
    obtain ⟨t, ht, hrelates⟩ := (h .lt document).mp hlt
    exact (h' .lt document).mpr ⟨t, ht, Int.lt_of_lt_of_le hrelates hle⟩
  · intro hlte
    obtain ⟨t, ht, hrelates⟩ := (h .lte document).mp hlte
    exact (h' .lte document).mpr ⟨t, ht, Int.le_trans hrelates hle⟩
  · intro hgt
    obtain ⟨t, ht, hrelates⟩ := (h' .gt document).mp hgt
    exact (h .gt document).mpr ⟨t, ht, Int.lt_of_le_of_lt hle hrelates⟩
  · intro hgte
    obtain ⟨t, ht, hrelates⟩ := (h' .gte document).mp hgte
    exact (h .gte document).mpr ⟨t, ht, Int.le_trans hle hrelates⟩

end BoundsAt

section Places

variable {c : Catalog} {e : Entity} {field : String} {d : Descriptor} {type : FilterType}
  {v w : Value} {r s : Int}

theorem tests_bound (he : e ∈ c.entities) (h : e.Owns field d)
    (ht : d.operatorType? .lt = some type) (hv : v.isNull = false) (o : Comparison) :
    Tests c e (field ++ o.operator.suffix, v) (d.Takes type v) field
      (.compare ⟨o, v, d.isDate⟩) := by
  refine tests_compare he (ownsOperator_of_owns h ?_) hv
  rw [Descriptor.operatorType?_operator, ht]

theorem takes_of_compiles (he : e ∈ c.entities) (h : e.Owns field d)
    (ht : d.operatorType? .lt = some type) (hv : v.isNull = false)
    (hlt : Compiles c e (field ++ "_lt") v) : d.Takes type v :=
  (tests_bound he h ht hv .lt).compiles.mp hlt

theorem boundsAt_of_takes (he : e ∈ c.entities) (h : e.Owns field d)
    (ht : d.operatorType? .lt = some type) (hv : v.isNull = false) (htakes : d.Takes type v)
    (hr : v.rank? d.isDate = some r) : BoundsAt c e field d.isDate v r := by
  intro o document
  rw [(tests_bound he h ht hv o).selects_iff, Test.passedBy_compare hr, and_iff_right htakes]

/-- Bounds and equality are coherent. In fields of numbers or dates they compile together. Of a
single value the inclusive bounds are the strict ones or equality, at most one of below, equal and
above holds, and one of them does when the value has a place in the order of the field. Of arrays of
numbers the inclusive bounds are the strict ones or containment. A bound at a later place widens an
upper bound, and one at an earlier place a lower bound; numbers are placed in the order of their
values. -/
theorem bounds_coherent (he : e ∈ c.entities) (h : e.Owns field d) :
    (d.isOrdered = true → ∀ v : Value, v.isNull = false → Compiles c e (field ++ "_lt") v →
      (∀ o : Comparison, Compiles c e (field ++ o.operator.suffix) v) ∧ Compiles c e field v ∧
        ∀ document : Value, (∀ items, document.storedIn? field ≠ some (.array items)) →
          BoundsAgree c e field field v document ∧ AtMostOne c e field v document ∧
            ∀ x s, document.storedIn? field = some x → x.rank? d.isDate = some s →
              Selects c e [(field ++ "_lt", v)] document ∨ Selects c e [(field, v)] document ∨
                Selects c e [(field ++ "_gt", v)] document) ∧
    (d.isOrderedArray = true → ∀ v : Value, v.isNull = false →
      Compiles c e (field ++ "_lt") v →
        (∀ o : Comparison, Compiles c e (field ++ o.operator.suffix) v) ∧
          Compiles c e (field ++ "_contains") v ∧
            ∀ (document : Value) items, document.storedIn? field = some (.array items) →
              BoundsAgree c e field (field ++ "_contains") v document) ∧
    (d.isOrdered = true ∨ d.isOrderedArray = true → ∀ v w : Value,
      Compiles c e (field ++ "_lt") v → Compiles c e (field ++ "_lt") w →
        v.AtMost d.isDate w → ∀ document, Widens c e field v w document) ∧
    ∀ a b : Number, a.value ≤ b.value → Value.AtMost false (.number a) (.number b) := by
  refine ⟨fun hd v hv hlt => ?_, fun hd v hv hlt => ?_, fun hd v w hlt hlt' hle document => ?_,
    fun a b => Value.atMost_of_value_le⟩
  · obtain ⟨type, ht, heq⟩ := Descriptor.exists_type_of_isOrdered hd
    have htakes := takes_of_compiles he h ht hv hlt
    obtain ⟨r, hr⟩ := Descriptor.exists_rank? ht htakes
    have hbounds := boundsAt_of_takes he h ht hv htakes hr
    have hequals := tests_eq he (ownsOperator_of_owns h heq) hv
    refine ⟨fun o => (tests_bound he h ht hv o).compiles.mpr htakes, hequals.compiles.mpr htakes,
      fun document hstored => ?_⟩
    have hequal : Selects c e [(field, v)] document ↔ r ∈ document.ranksIn d.isDate field := by
      rw [hequals.selects_iff, Test.passedBy_equals hr hstored, and_iff_right htakes]
    refine ⟨hbounds.agree hequal, hbounds.atMostOne hstored hequal, fun x s hx hs => ?_⟩
    refine hbounds.atLeastOne hequal (Value.mem_ranksIn.mpr ⟨x, hx, x, ?_, hs⟩)
    cases x with
    | array items => exact (hstored items hx).elim
    | _ => exact List.mem_singleton_self _
  · obtain ⟨type, ht, hcontains, kind, rfl⟩ := Descriptor.exists_type_of_isOrderedArray hd
    have htakes := takes_of_compiles he h ht hv hlt
    obtain ⟨r, hr⟩ := Descriptor.exists_rank? ht htakes
    have hbounds := boundsAt_of_takes he h ht hv htakes hr
    have helement := tests_contains he h hcontains hv
    refine ⟨fun o => (tests_bound he h ht hv o).compiles.mpr htakes, helement.compiles.mpr htakes,
      fun document items hstored => hbounds.agree ?_⟩
    rw [helement.selects_iff, Test.passedBy_containsElement hr hstored, and_iff_right htakes]
    rfl
  · obtain ⟨type, ht⟩ := Descriptor.exists_type_of_bound hd
    obtain ⟨r, s, hr, hs, hrs⟩ := hle
    have hv := Value.not_isNull_of_rank? hr
    have hw := Value.not_isNull_of_rank? hs
    have hbounds := boundsAt_of_takes he h ht hv (takes_of_compiles he h ht hv hlt) hr
    have hbounds' := boundsAt_of_takes he h ht hw (takes_of_compiles he h ht hw hlt') hs
    exact hbounds.widens hbounds' hrs

end Places

theorem owns_published : Entity.book.Owns "published" .date :=
  ⟨by decide, by decide, by decide⟩

/-- Bounds at a leap day, for a book that was published when it began in another time zone, and
bounds for the editions of a book. -/
theorem library_bounds_coherent :
    Entity.book ∈ Catalog.library.entities ∧
      Entity.book.Owns "published" .date ∧
      Entity.book.Owns "editions" (.scalarArray .int) ∧
      BoundsAgree .library .book "published" "published" (.string "2020-02-29")
        (.object [("published", .string "2020-02-29T01:00:00+01:00")]) ∧
      AtMostOne .library .book "published" (.string "2020-02-29")
        (.object [("published", .string "2020-02-29T01:00:00+01:00")]) ∧
      Widens .library .book "published" (.string "2020-02-29") (.string "2020-02-29T00:00:01Z")
        (.object [("published", .string "2020-02-29T01:00:00+01:00")]) ∧
      BoundsAgree .library .book "editions" ("editions" ++ "_contains") (.number (.int 3))
        (.object [("editions", .array [.number (.int 3), .null])]) := by
  have he : Entity.book ∈ Catalog.library.entities := List.mem_cons_self
  obtain ⟨hsingle, -, hwidens, -⟩ := bounds_coherent he owns_published
  obtain ⟨-, helements, -⟩ := bounds_coherent he owns_editions
  obtain ⟨-, -, hpublished⟩ := hsingle rfl (.string "2020-02-29") rfl ⟨_, rfl⟩
  obtain ⟨-, -, heditions⟩ := helements rfl (.number (.int 3)) rfl ⟨_, rfl⟩
  obtain ⟨hagree, hone, -⟩ :=
    hpublished (.object [("published", .string "2020-02-29T01:00:00+01:00")]) nofun
  refine ⟨he, owns_published, owns_editions, hagree, hone, ?_, heditions _ _ rfl⟩
  refine hwidens (.inl rfl) _ _ ⟨_, rfl⟩ ⟨_, rfl⟩ ⟨_, _, rfl, rfl, ?_⟩ _
  decide

end Filter

end DocumentSchema
