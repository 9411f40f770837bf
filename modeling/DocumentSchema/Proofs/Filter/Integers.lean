import DocumentSchema.Proofs.Order
import DocumentSchema.Proofs.Filter.FieldTests
import DocumentSchema.Proofs.Value

/-!
# Filters of integers

Filters compare integers through the doubles nearest to them. Up to the
identification of integers that share a double these are the comparisons of
integers, and an integer below `2 ^ 53` in magnitude shares its double with no
other one.
-/
namespace DocumentSchema

/-- Integers that filters do not tell apart: the same double is nearest to both. -/
def SameDouble (a b : Int) : Prop := (Double.ofInt a).key = (Double.ofInt b).key

instance (a b : Int) : Decidable (SameDouble a b) :=
  inferInstanceAs (Decidable ((Double.ofInt a).key = (Double.ofInt b).key))

namespace SameDouble

theorem refl (a : Int) : SameDouble a a := rfl

theorem symm {a b : Int} (h : SameDouble a b) : SameDouble b a := Eq.symm h

theorem iff_eq {a b : Int} (ha : a.natAbs < 2 ^ 53) : SameDouble a b ↔ a = b := by
  constructor
  · exact Double.eq_of_key_ofInt ha
  · rintro rfl
    exact refl a

theorem key_lt_iff {a b : Int} :
    (Double.ofInt a).key < (Double.ofInt b).key ↔ a < b ∧ ¬ SameDouble a b := by
  unfold SameDouble
  constructor
  · intro h
    have hlt : a < b := by
      by_contra hle
      have hkey := Double.key_ofInt_mono (Int.not_lt.mp hle)
      omega
    exact ⟨hlt, by omega⟩
  · rintro ⟨hlt, hne⟩
    have hkey := Double.key_ofInt_mono hlt.le
    omega

theorem key_le_iff {a b : Int} :
    (Double.ofInt a).key ≤ (Double.ofInt b).key ↔ a < b ∨ SameDouble a b := by
  rw [Int.le_iff_lt_or_eq, key_lt_iff]
  unfold SameDouble
  tauto

end SameDouble

namespace Value

def int (n : Int) : Value := .number (.int n)

def ints (ns : List Int) : Value := .array (ns.map int)

theorem equals_int {date : Bool} {a b : Int} :
    (int a).equals date (int b) = true ↔ SameDouble a b := by
  rw [int, int, equals, Number.equals]
  exact decide_eq_true_iff

theorem equals_ints {date : Bool} {xs ys : List Int} :
    (ints xs).equals date (ints ys) = true ↔ List.Forall₂ SameDouble xs ys := by
  rw [ints, ints, equals, equalItems_eq, List.all₂_eq_true, List.forall₂_map_left_iff,
    List.forall₂_map_right_iff]
  simp only [equals_int]

end Value

theorem FilterType.admits_ints (ns : List Int) : (FilterType.list .int).admits (.ints ns) = true := by
  simp [Value.ints, Value.int, admits]

namespace Comparison

def operator : Comparison → FilterOp
  | lt => .lt
  | lte => .lte
  | gt => .gt
  | gte => .gte

def ofInts : Comparison → Int → Int → Prop
  | lt, a, b => a < b ∧ ¬ SameDouble a b
  | lte, a, b => a < b ∨ SameDouble a b
  | gt, a, b => b < a ∧ ¬ SameDouble a b
  | gte, a, b => b < a ∨ SameDouble a b

instance : (o : Comparison) → (a b : Int) → Decidable (o.ofInts a b)
  | lt, a, b => inferInstanceAs (Decidable (a < b ∧ ¬ SameDouble a b))
  | lte, a, b => inferInstanceAs (Decidable (a < b ∨ SameDouble a b))
  | gt, a, b => inferInstanceAs (Decidable (b < a ∧ ¬ SameDouble a b))
  | gte, a, b => inferInstanceAs (Decidable (b < a ∨ SameDouble a b))

theorem accepts_compareOfLessAndEq (o : Comparison) (a b : Int) :
    o.accepts (compareOfLessAndEq (Double.ofInt a).key (Double.ofInt b).key) = true ↔
      o.ofInts a b := by
  have hsymm : SameDouble a b ↔ SameDouble b a := ⟨.symm, .symm⟩
  rw [accepts_iff_relates]
  cases o with
  | lt => exact SameDouble.key_lt_iff
  | lte => exact SameDouble.key_le_iff
  | gt =>
    rw [ofInts, hsymm]
    exact SameDouble.key_lt_iff
  | gte =>
    rw [ofInts, hsymm]
    exact SameDouble.key_le_iff

end Comparison

namespace Test

theorem compare_int {o : Comparison} {a b : Int} :
    (compare ⟨o, .int b, false⟩).holds (.int a) = true ↔ o.ofInts a b :=
  o.accepts_compareOfLessAndEq a b

theorem equals_int {negated : Bool} {a b : Int} :
    (equals (.int b) false negated).holds (.int a) = true ↔
      (SameDouble a b ↔ negated = false) := by
  have hequals : (Value.int a).equals false (.int b) = true ↔ SameDouble a b := Value.equals_int
  rw [holds, bne_iff_ne, ← hequals]
  cases negated <;> simp

theorem equals_ints {xs ys : List Int} :
    (equals (.ints ys) false false).holds (.ints xs) = true ↔
      List.Forall₂ SameDouble xs ys := by
  rw [holds, Bool.bne_false, Value.equals_ints]

theorem oneOf_ints {a : Int} {bs : List Int} :
    (oneOf (Value.ints bs).elements false).holds (.int a) = true ↔
      ∃ b ∈ bs, SameDouble a b := by
  simp [holds, Value.ints, Value.elements, Value.equals_int]

end Test

namespace Filter

theorem tests_compare {c : Catalog} {e : Entity} {field : String} {d : Descriptor}
    {type : FilterType} {v : Value} (he : e ∈ c.entities) {o : Comparison}
    (h : e.OwnsOperator field d o.operator type) (hv : v.isNull = false) :
    Tests c e (field ++ o.operator.suffix, v) (d.Takes type v) field
      (.compare ⟨o, v, d.isDate⟩) := by
  cases o <;> exact tests_of_part he h nofun hv rfl

section Fields

variable {c : Catalog} {e : Entity} {field : String} {members : List (String × Value)}

theorem decides_of_holds {name : String} {v : Value} {takes : Prop} {t : Test}
    (h : Tests c e (name, v) takes field t) (htakes : takes) {stored : Value}
    (hnull : stored.isNull = false) (hs : Value.member? field members = some stored)
    {condition : Prop} (ht : t.holds stored = true ↔ condition) :
    Decides c e [(name, v)] (.object members) condition := by
  obtain ⟨m, hm, haccepts⟩ := h.decides htakes members
  have hstored : Value.stored? field members = some stored := by
    simp [Value.stored?, hs, hnull]
  rw [hstored, Test.holdsOf, ht] at haccepts
  exact ⟨m, hm, haccepts⟩

section Scalar

variable (he : e ∈ c.entities) (h : e.Owns field (.scalar .int)) {a : Int}
  (ha : Value.member? field members = some (.int a))
include he h ha

theorem decides_int_compare (o : Comparison) (b : Int) :
    Decides c e [(field ++ o.operator.suffix, .int b)] (.object members) (o.ofInts a b) := by
  have hown : e.OwnsOperator field (.scalar .int) o.operator .int :=
    ownsOperator_of_owns h (by cases o <;> rfl)
  exact decides_of_holds (tests_compare he hown rfl) ⟨rfl, nofun⟩ rfl ha Test.compare_int

theorem decides_int_eq (b : Int) :
    Decides c e [(field, .int b)] (.object members) (SameDouble a b) := by
  have htests := tests_eq he (ownsOperator_of_owns h rfl) (v := .int b) rfl
  have hd : Decides c e [(field, .int b)] (.object members) (SameDouble a b ↔ false = false) :=
    decides_of_holds htests ⟨rfl, nofun⟩ rfl ha Test.equals_int
  simpa using hd

theorem decides_int_ne (b : Int) :
    Decides c e [(field ++ "_ne", .int b)] (.object members) (¬ SameDouble a b) := by
  have htests := tests_ne he (ownsOperator_of_owns h rfl) (v := .int b) rfl
  have hd : Decides c e [(field ++ "_ne", .int b)] (.object members)
      (SameDouble a b ↔ true = false) :=
    decides_of_holds htests ⟨rfl, nofun⟩ rfl ha Test.equals_int
  simpa using hd

theorem decides_int_oneOf (bs : List Int) :
    Decides c e [(field ++ "_in", .ints bs)] (.object members) (∃ b ∈ bs, SameDouble a b) := by
  have htests := tests_oneOf he (ownsOperator_of_owns h rfl) (v := .ints bs) rfl
  exact decides_of_holds htests ⟨FilterType.admits_ints bs, nofun⟩ rfl ha Test.oneOf_ints

end Scalar

theorem decides_ints_eq (he : e ∈ c.entities) (h : e.Owns field (.scalarArray .int))
    {xs : List Int} (hs : Value.member? field members = some (.ints xs)) (ys : List Int) :
    Decides c e [(field, .ints ys)] (.object members) (List.Forall₂ SameDouble xs ys) := by
  have htests := tests_eq he (ownsOperator_of_owns h rfl) (v := .ints ys) rfl
  exact decides_of_holds htests ⟨FilterType.admits_ints ys, nofun⟩ rfl hs Test.equals_ints

end Fields

/-- Integer filters compare integers up to the double nearest to them, with integers and with
arrays of integers. They are exact where one of the integers is below `2 ^ 53` in magnitude. -/
theorem integers_compared_as_doubles {c : Catalog} {e : Entity} (he : e ∈ c.entities)
    (field : String) (members : List (String × Value)) :
    (e.Owns field (.scalar .int) → ∀ a, Value.member? field members = some (.int a) →
      (∀ b, Decides c e [(field, .int b)] (.object members) (SameDouble a b)) ∧
      (∀ b, Decides c e [(field ++ "_ne", .int b)] (.object members) (¬ SameDouble a b)) ∧
      (∀ bs, Decides c e [(field ++ "_in", .ints bs)] (.object members)
        (∃ b ∈ bs, SameDouble a b)) ∧
      ∀ (o : Comparison) b, Decides c e [(field ++ o.operator.suffix, .int b)] (.object members)
        (o.ofInts a b)) ∧
    (e.Owns field (.scalarArray .int) → ∀ xs, Value.member? field members = some (.ints xs) →
      ∀ ys, Decides c e [(field, .ints ys)] (.object members) (List.Forall₂ SameDouble xs ys)) ∧
    ∀ a b : Int, a.natAbs < 2 ^ 53 → (SameDouble a b ↔ a = b) := by
  refine ⟨fun h a ha => ⟨?_, ?_, ?_, ?_⟩, fun h xs hs => ?_, fun a b ha => ?_⟩
  · exact decides_int_eq he h ha
  · exact decides_int_ne he h ha
  · exact decides_int_oneOf he h ha
  · exact decides_int_compare he h ha
  · exact decides_ints_eq he h hs
  · exact SameDouble.iff_eq ha

theorem owns_pages : Entity.book.Owns "pages" (.scalar .int) :=
  ⟨by decide, by decide, by decide⟩

theorem library_pages_compared_as_doubles :
    Entity.book ∈ Catalog.library.entities ∧
      Decides .library .book [("pages" ++ "_gt", .int 9007199254740992)]
        (.object [("pages", .int 9007199254740993)]) False ∧
      Decides .library .book [("pages", .int 101)] (.object [("pages", .int 100)]) False := by
  have he : Entity.book ∈ Catalog.library.entities := List.mem_cons_self
  obtain ⟨hlarge, -, -⟩ :=
    integers_compared_as_doubles he "pages" [("pages", .int 9007199254740993)]
  obtain ⟨hsmall, -, hexact⟩ := integers_compared_as_doubles he "pages" [("pages", .int 100)]
  obtain ⟨-, -, -, hcompare⟩ := hlarge owns_pages _ rfl
  obtain ⟨heq, -⟩ := hsmall owns_pages _ rfl
  refine ⟨he, ?_, ?_⟩
  · have hgt : Comparison.gt.ofInts 9007199254740993 9007199254740992 ↔ False := by
      decide +kernel
    have hd := hcompare .gt 9007199254740992
    rw [hgt] at hd
    exact hd
  · have hne : SameDouble 100 101 ↔ False := by
      rw [hexact 100 101 (by decide)]
      decide
    have hd := heq 101
    rw [hne] at hd
    exact hd

/-- A book with `2 ^ 53 + 1` pages is selected as one with `2 ^ 53` pages. -/
theorem library_pages_inexact :
    Entity.book.Owns "pages" (.scalar .int) ∧
      ∃ m, compile .library "Book" [("pages", .int 9007199254740992)] = .ok m ∧
        m.accepts (.object [("pages", .int 9007199254740993)]) = true ∧
        (9007199254740993 : Int) ≠ 9007199254740992 :=
  ⟨owns_pages, _, rfl, by decide +kernel, by decide⟩

end Filter

end DocumentSchema
