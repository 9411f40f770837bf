import DocumentSchema.Proofs.Number
import DocumentSchema.Proofs.Equality
import DocumentSchema.Proofs.Filter.FieldTests
import DocumentSchema.Proofs.Schema.Bodies

/-!
# Numbers that are written differently

Stored values of one shape may differ in how their numbers are written. Filters
of scalars and of arrays treat such values alike. Filters of free JSON compare
what is inside an object without the rule for numbers, so there the kinds of the
numbers count.
-/
namespace DocumentSchema

namespace Value

/-- Values of one shape with numbers of the same values. -/
def Respelled : Value → Value → Prop :=
  Alike (fun a b => a.value = b.value) fun a b => a.value = b.value

/-- Values of one shape with numbers of the same values, inside objects also of the same kinds. -/
def RespelledInKind : Value → Value → Prop :=
  Alike (fun a b => a.value = b.value) fun a b => a.value = b.value ∧ a.isInt = b.isInt

def IsPlain (v : Value) : Prop := ∃ t : FilterType, t.isPlain = true ∧ t.admits v = true

namespace Respelled

variable {v w c : Value}

/-- A comparison with a value without objects never gets inside one. The induction is on the type of
the value. -/
theorem equals_plain (h : v.Respelled w) (hc : c.IsPlain) (date : Bool) :
    v.equals date c = w.equals date c := by
  obtain ⟨t, ht, hc⟩ := hc
  induction t generalizing c v w with
  | json => cases ht
  | filters entity => cases ht
  | list element ih =>
    cases c with
    | array cs =>
      rw [FilterType.admits, List.all_eq_true] at hc
      cases v <;> cases w <;> simp only [Respelled, Alike] at h
      case array.array =>
        rw [equals, equals, equalItems_eq, equalItems_eq]
        exact all₂_congr_of_forall₂ (alikeItems_iff.mp h) fun x _ y hxy c hm => ih hxy ht (hc c hm)
      all_goals rfl
    | _ => cases hc
  | int | float | string | boolean =>
    cases c with
    | array items => cases hc
    | object members => cases hc
    | _ =>
      cases v <;> cases w <;> simp only [Respelled, Alike] at h
      case number.number => simp only [equals, same, Number.equals, Number.key_of_value h]
      case bool.bool => rw [h]
      case string.string => rw [h]
      all_goals rfl

theorem holds_plain (h : v.Respelled w) {t : Test} (ht : ∀ c ∈ t.expected, c.IsPlain) :
    t.holds v = t.holds w :=
  Test.holds_congr_of (looksAlike_alike fun _ _ => Number.key_of_value)
    (fun _ _ h date c hc => equals_plain h (ht c hc) date) h

/-- Of values that differ in how numbers are written those are equal that keep the kinds of the
numbers inside objects. -/
theorem equals_iff (h : v.Respelled w) : v.equals false w = true ↔ v.RespelledInKind w := by
  rw [equals_iff_alike]
  refine alike_congr h (fun a b hab => ?_) fun a b hab => ?_
  · exact iff_of_true (Number.equals_of_value hab) hab
  · rw [Number.same_iff_of_value hab, and_iff_right hab]

end Respelled

end Value

theorem FilterBlock.isJson_of_mem {d : Descriptor} {block : FilterBlock}
    (h : ofDescriptor? d = some block) {op : FilterOp} (hx : (op, .json) ∈ block) :
    d.isJson = true := by
  cases d with
  | scalar kind =>
    cases kind <;> cases h <;> simp [text, order, equality, Descriptor.isJson] at hx ⊢
  | scalarArray kind =>
    cases kind <;> cases h <;> simp [count, text, order, elementOrder, array] at hx
  | date => cases h; simp [order, equality] at hx
  | object t => cases h; simp [count] at hx
  | objectArray t => cases h; simp [count] at hx
  | literal text => cases h; cases hx
  | unsupported raw => cases h

namespace Filter

/-- What a part asks of a field when no other part stands beside it. -/
def Part.alone? : Part → Option Test
  | .test _ t => some t
  | .elementBound _ b => some (.elementMatch [b])
  | _ => none

theorem accepts_of_asks {a : FilterArgument} {p : Part} (h : Asks a p)
    (members : List (String × Value)) :
    (ofParts [p]).accepts (.object members) = true ↔
      ∀ t, p.alone? = some t → t.holdsOf (Value.stored? a.field members) = true := by
  rw [accepts_ofParts]
  cases h <;> simp [Part.alone?, Part.Passes, boundsOf, Part.elementBound?, Part.matchers]

theorem isPlain_of_mem_elements {t : FilterType} (ht : t.isPlain = true) {v : Value}
    (hv : t.admits v = true) {c : Value} (hc : c ∈ v.elements) : c.IsPlain := by
  cases v with
  | array items =>
    cases t with
    | list element =>
      rw [FilterType.admits, List.all_eq_true] at hv
      exact ⟨element, ht, hv c hc⟩
    | json => cases ht
    | _ => cases hv
  | _ => cases hc

theorem isPlain_of_part {name : String} {o : Offer} {v : Value} {p : Part}
    (ht : o.argument.type.isPlain = true) (hv : o.argument.type.admits v = true)
    (hp : part name o v = .ok p) {t : Test} (halone : p.alone? = some t) {c : Value}
    (hc : c ∈ t.expected) : c.IsPlain := by
  have hself : v.IsPlain := ⟨_, ht, hv⟩
  have helements {c : Value} (hc : c ∈ v.elements) := isPlain_of_mem_elements ht hv hc
  obtain ⟨⟨field, op, type⟩, d⟩ := o
  cases op with
  | eq | ne =>
    cases hp
    cases halone
    rwa [List.mem_singleton.mp hc]
  | oneOf | containsAny =>
    cases hp
    cases halone
    exact helements hc
  | contains =>
    simp only [part] at hp
    split at hp
    · cases hp
      cases halone
      rwa [List.mem_singleton.mp hc]
    · split at hp <;> cases hp <;> cases halone
      cases hc
  | _ =>
    simp only [part, comparison?] at hp
    (repeat' split at hp) <;> cases hp <;> cases halone <;> cases hc

section Single

variable {c : Catalog} {e : Entity} {name : String} {o : Offer} {v : Value} {m : Matcher}

/-- On its own an argument of a field with values of its own compiles to a test of the field, if to
anything. Unless the field holds free JSON, the test compares with values without objects. -/
theorem compile_single (he : e ∈ c.entities) (hn : name ≠ orName) (ho : offer? e name = some o)
    (htarget : o.descriptor.target? = none) (hm : compile c e.name [(name, v)] = .ok m) :
    ∃ test? : Option Test,
      (∀ members, m.accepts (.object members) = true ↔
        ∀ t, test? = some t → t.holdsOf (Value.stored? o.argument.field members) = true) ∧
      (o.descriptor.isJson = false →
        ∀ t, test? = some t → ∀ x ∈ t.expected, x.IsPlain) := by
  obtain ⟨p, hp⟩ := (compile_singleton_isOk he).mp ⟨m, hm⟩
  obtain rfl : m = ofParts [p] := by
    rw [compile_of_mem he, compileArguments, hp] at hm
    cases hm
    rfl
  cases hv : v.isNull with
  | true =>
    cases v <;> cases hv
    obtain ⟨-, rfl⟩ := compileArgument_null_eq_ok hp
    refine ⟨none, fun members => ?_, by simp⟩
    simp [accepts_ofParts, Part.Passes, boundsOf, Part.elementBound?, Part.matchers]
  | false =>
    obtain ⟨hmem, block, hblock, hx⟩ := block_of_offer? ho
    have hfits := FilterBlock.fits_of_mem hblock hx
    have hop : o.argument.op ≠ .nested := fun h => by
      obtain ⟨t, ht, -⟩ := hfits.nested h
      rw [htarget] at ht
      cases ht
    rw [compileArgument_of_ne hn hv, Traversal.bind_eq_ok] at hp
    obtain ⟨o', ho', hp⟩ := hp
    obtain ⟨hoffer, hcheck⟩ := takeUp_eq_ok.mp ho'
    rw [ho, Option.some.injEq] at hoffer
    subst hoffer
    rw [compileOffer_eq_part hop] at hp
    refine ⟨p.alone?, accepts_of_asks (asks_of_part hp), fun hjson t halone x hx' => ?_⟩
    rcases hfits.plain hop with htype | htype
    · have htype : o.argument.type = .json := htype
      rw [htype] at hx
      rw [FilterBlock.isJson_of_mem hblock hx] at hjson
      cases hjson
    · exact isPlain_of_part htype (check_eq_ok.mp hcheck).1 hp halone hx'

end Single

/-- Filters with one argument accept objects alike that store these values in its field, whatever
else the objects store. -/
def TreatsAlike (c : Catalog) (e : Entity) (name : String) (w w' : Value) : Prop :=
  ∀ o, offer? e name = some o → ∀ v m, compile c e.name [(name, v)] = .ok m →
    ∀ members members', Value.member? o.argument.field members = some w →
      Value.member? o.argument.field members' = some w' →
        m.accepts (.object members) = m.accepts (.object members')

section Respelled

variable {c : Catalog} {e : Entity} {w w' : Value}

theorem stored?_of_member? {field : String} {members : List (String × Value)} {v : Value}
    (h : Value.member? field members = some v) :
    Value.stored? field members = if v.isNull then none else some v := by
  rw [Value.stored?, h]
  cases hv : v.isNull <;> simp [hv]

theorem treatsAlike_of_respelled (he : e ∈ c.entities) (h : w.Respelled w') {name : String}
    (hn : name ≠ orName) {o : Offer} (ho : offer? e name = some o)
    (htarget : o.descriptor.target? = none)
    (hjson : o.descriptor.isJson = true → w.RespelledInKind w') : TreatsAlike c e name w w' := by
  intro o' ho' v m hm members members' hw hw'
  rw [ho, Option.some.injEq] at ho'
  subst ho'
  obtain ⟨test?, haccepts, hplain⟩ := compile_single he hn ho htarget hm
  have htest (t : Test) (ht : test? = some t) : t.holds w = t.holds w' := by
    cases hj : o.descriptor.isJson with
    | true => exact t.holds_of_equals (h.equals_iff.mpr (hjson hj))
    | false => exact h.holds_plain (hplain hj t ht)
  rw [Bool.eq_iff_iff, haccepts, haccepts, stored?_of_member? hw, stored?_of_member? hw',
    Value.isNull_of_alike h]
  refine forall₂_congr fun t ht => ?_
  cases w'.isNull with
  | true => rfl
  | false => simp [Test.holdsOf, htest t ht]

section Json

variable {field : String}

theorem offer?_json (hf : e.Owns field (.scalar .json)) :
    offer? e field = some ⟨⟨field, .eq, .json⟩, .scalar .json⟩ := by
  have hoffer := offer?_of_owns hf rfl (List.mem_cons_self : (FilterOp.eq, FilterType.json) ∈ _)
  rwa [FilterOp.suffix, String.append_empty] at hoffer

theorem decides_json_eq (he : e ∈ c.entities) (hf : e.Owns field (.scalar .json)) {v : Value}
    (hv : v.isNull = false) (members : List (String × Value)) :
    Decides c e [(field, v)] (.object members)
      ((Test.equals v false false).holdsOf (Value.stored? field members) = true) :=
  (tests_eq he (ownsOperator_of_owns hf rfl) hv).decides ⟨rfl, nofun⟩ members

/-- A field of free JSON can be asked for the first value. The second one is equal to it only when
no number inside an object changes its kind. -/
theorem respelledInKind_of_treatsAlike (he : e ∈ c.entities) (h : w.Respelled w')
    (hf : e.Owns field (.scalar .json)) (ha : TreatsAlike c e field w w') :
    w.RespelledInKind w' := by
  have hnulls := Value.isNull_of_alike h
  cases hnull : w.isNull with
  | true =>
    rw [hnull] at hnulls
    cases w <;> cases hnull
    cases w' <;> cases hnulls
    trivial
  | false =>
    obtain ⟨m, hm, haccepts⟩ := decides_json_eq he hf hnull [(field, w)]
    obtain ⟨m', hm', haccepts'⟩ := decides_json_eq he hf hnull [(field, w')]
    obtain rfl : m = m' := Except.ok.inj (hm.symm.trans hm')
    have hstored (v : Value) : Value.member? field [(field, v)] = some v := by
      simp [Value.member?]
    have halike := ha _ (offer?_json hf) w m hm _ _ (hstored w) (hstored w')
    rw [Bool.eq_iff_iff, haccepts, haccepts', stored?_of_member? (hstored w),
      stored?_of_member? (hstored w'), ← hnulls, hnull] at halike
    have hequals : w'.equals false w = true := by
      simpa [Test.holdsOf, Test.holds, Value.equals_refl] using halike
    rw [← h.equals_iff, ← Value.equals_congr hequals, Value.equals_refl]

end Json

end Respelled

/-- Filters with one argument treat values alike that differ in how numbers are written, at any
depth. In a field of free JSON this takes numbers that keep their kind inside objects, and nothing
less. -/
theorem filters_of_respelled_values {c : Catalog} {e : Entity} (he : e ∈ c.entities) {w w' : Value}
    (h : w.Respelled w') :
    (∀ name o, offer? e name = some o → name ≠ orName → o.descriptor.target? = none →
      (o.descriptor.isJson = true → w.RespelledInKind w') → TreatsAlike c e name w w') ∧
      ∀ field, e.Owns field (.scalar .json) →
        (TreatsAlike c e field w w' ↔ w.RespelledInKind w') := by
  refine ⟨?_, fun field hf => ⟨?_, ?_⟩⟩
  · intro name o ho hn htarget hjson
    exact treatsAlike_of_respelled he h hn ho htarget hjson
  · exact respelledInKind_of_treatsAlike he h hf
  · intro hkind
    exact treatsAlike_of_respelled he h hf.ne_or (offer?_json hf) rfl fun _ => hkind

def oneAsDouble : Value := .number (.double ⟨false, 0x3FF0000000000000⟩)

theorem value_oneAsDouble : (Number.double ⟨false, 0x3FF0000000000000⟩).value = 1 := by
  norm_num [Number.value, Double.value, Double.magnitude, Double.parts, Double.binadeSize]

theorem owns_data : Entity.tag.Owns "data" (.scalar .json) :=
  ⟨by decide, by decide, by decide⟩

/-- The editions `[1]` and `[1.0]` of a book are found alike, and so are such data of a tag. -/
theorem library_tags_spelling :
    (Value.array [.number (.int 1)]).Respelled (.array [oneAsDouble]) ∧
      TreatsAlike .library .book "editions_containsAny" (.array [.number (.int 1)])
        (.array [oneAsDouble]) ∧
      TreatsAlike .tags .tag "data" (.array [.number (.int 1)]) (.array [oneAsDouble]) := by
  have h : (Value.array [.number (.int 1)]).Respelled (.array [oneAsDouble]) :=
    ⟨value_oneAsDouble.symm, trivial⟩
  have hmem : Entity.book ∈ Catalog.library.entities := List.mem_cons_self
  have hmem' : Entity.tag ∈ Catalog.tags.entities := List.mem_cons_self
  obtain ⟨hbook, -⟩ := filters_of_respelled_values hmem h
  obtain ⟨-, htag⟩ := filters_of_respelled_values hmem' h
  refine ⟨h, hbook _ _ rfl (by decide) rfl nofun, (htag "data" owns_data).mpr ?_⟩
  exact ⟨value_oneAsDouble.symm, trivial⟩

/-- Data with a member that is 1 are found where they are written with `1`, and not where they are
written with `1.0`. -/
theorem tags_spelling_inside_object :
    (Value.object [("a", .number (.int 1))]).Respelled (.object [("a", oneAsDouble)]) ∧
      ∃ m, compile .tags "Tag" [("data", .object [("a", .number (.int 1))])] = .ok m ∧
        m.accepts (.object [("data", .object [("a", .number (.int 1))])]) = true ∧
        m.accepts (.object [("data", .object [("a", oneAsDouble)])]) = false :=
  ⟨⟨⟨rfl, value_oneAsDouble.symm⟩, trivial⟩, _, rfl, by decide, by decide⟩

end Filter

end DocumentSchema
