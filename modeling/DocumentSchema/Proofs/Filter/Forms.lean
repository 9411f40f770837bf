import DocumentSchema.Proofs.Filter.Conjunction
import DocumentSchema.Proofs.Filter.FieldTests
import DocumentSchema.Proofs.Filter.Typing
import DocumentSchema.Proofs.Schema.Document

/-!
# Forms of values

Every operator reads its value in one form: texts are searched for, lists walked,
numbers counted and embedded documents asked for theirs. Which form an operator
takes is nowhere written down; it follows from the type that fields give the
operator and from the text of this type, by which the value is admitted. So
what stands in for a value of another form is never used.
-/
namespace DocumentSchema

def elementText? (type : String) : Option String :=
  match type.toList with
  | '[' :: rest => if rest.getLast? = some ']' then some (String.ofList rest.dropLast) else none
  | _ => none

theorem length_lt_of_elementText? {type element : String} (h : elementText? type = some element) :
    element.length < type.length := by
  unfold elementText? at h
  split at h
  · rename_i rest hrest
    split at h
    · cases h
      rw [← String.length_toList, ← String.length_toList, hrest, String.toList_ofList,
        List.length_dropLast, List.length_cons]
      omega
    · cases h
  · cases h

namespace Value

def isInteger : Value → Bool
  | .number (.int _) => true
  | _ => false

def isNumber : Value → Bool
  | .number _ => true
  | _ => false

def isText : Value → Bool
  | .string _ => true
  | _ => false

def isBoolean : Value → Bool
  | .bool _ => true
  | _ => false

/-- Whether a value conforms to the name of a type. All but scalars have objects for values. -/
def conformsToName (name : String) (v : Value) : Bool :=
  match name with
  | "Int" => v.isInteger
  | "Float" => v.isNumber
  | "String" => v.isText
  | "Boolean" => v.isBoolean
  | "JSON" => true
  | _ => v.isObject

/-- Whether a value conforms to the text of a type, told from its brackets and from its name. -/
def conforms (type : String) (v : Value) : Bool :=
  match _h : elementText? type with
  | some element =>
    match v with
    | .array items => items.all fun i => conforms element i
    | _ => false
  | none => v.conformsToName type
termination_by type.length
decreasing_by exact length_lt_of_elementText? _h

end Value

theorem elementText?_listOf (type : String) : elementText? (listOf type) = some type := by
  have hl : (listOf type).toList = '[' :: (type.toList ++ [']']) := by simp [listOf]
  simp [elementText?, hl]

theorem elementText?_filters (entity : String) : elementText? (TypeName.filters entity) = none := by
  unfold elementText?
  split
  · rename_i rest hrest
    -- The text ends in the suffix of filter types, and that in no bracket.
    have hlast : (TypeName.filters entity).toList.getLast? = some 's' := by
      simp [TypeName.filters]
    rw [if_neg]
    intro hr
    rw [hrest, List.getLast?_cons, hr] at hlast
    simp at hlast
  · rfl

namespace Value

theorem conforms_of_name {type : String} (h : elementText? type = none) (v : Value) :
    v.conforms type = v.conformsToName type := by
  unfold conforms
  split
  · rename_i element helement
    rw [h] at helement
    cases helement
  · rfl

theorem conforms_listOf (type : String) (v : Value) :
    v.conforms (listOf type) =
      match v with
      | .array items => items.all fun i => i.conforms type
      | _ => false := by
  rw [conforms]
  split
  · rename_i element helement
    rw [elementText?_listOf, Option.some.injEq] at helement
    rw [helement]
  · rename_i hnone
    rw [elementText?_listOf] at hnone
    cases hnone

end Value

namespace FilterType

theorem conformsToName_filters (entity : String) (v : Value) :
    v.conformsToName (TypeName.filters entity) = v.isObject := by
  have hne : ∀ t ∈ scalars, TypeName.filters entity ≠ t.text := fun t ht h =>
    text_ne_filters ht entity h.symm
  simp only [scalars, List.forall_mem_cons, text] at hne
  obtain ⟨hint, hfloat, hstring, hboolean, hjson, -⟩ := hne
  unfold Value.conformsToName
  split
  · exact (hint ‹_›).elim
  · exact (hfloat ‹_›).elim
  · exact (hstring ‹_›).elim
  · exact (hboolean ‹_›).elim
  · exact (hjson ‹_›).elim
  · rfl

theorem conforms_text_of_scalar {t : FilterType} (ht : t ∈ scalars) (v : Value) :
    v.conforms t.text = v.conformsToName t.text := by
  have hnone : ∀ t ∈ scalars, elementText? t.text = none := by decide
  exact Value.conforms_of_name (hnone t ht) v

/-- The text of a type says which values the type admits, whatever its entities are called. -/
theorem conforms_text (t : FilterType) (v : Value) : v.conforms t.text = t.admits v := by
  induction t generalizing v with
  | list element ih =>
    rw [text, Value.conforms_listOf]
    simp only [ih]
    cases v <;> rfl
  | filters entity =>
    rw [text, Value.conforms_of_name (elementText?_filters entity), conformsToName_filters]
    cases v <;> rfl
  | int =>
    rw [conforms_text_of_scalar (by simp [scalars])]
    rcases v with - | - | (n | d) | - | - | - <;> rfl
  | float | string | boolean | json =>
    rw [conforms_text_of_scalar (by simp [scalars])]
    cases v <;> rfl

end FilterType

namespace FilterOp

def isOrder : FilterOp → Bool
  | lt | lte | gt | gte => true
  | _ => false

/-- Operators that search a text. In arrays of scalars what is contained is an element. -/
def searchesText (d : Descriptor) : FilterOp → Bool
  | contains => match d with
    | .scalarArray _ => false
    | _ => true
  | textContains | startsWith | endsWith | regex => true
  | _ => false

end FilterOp

namespace FilterBlock

/-- An operator with a type whose values have the form that the operator reads. -/
@[mk_iff]
structure Reads (d : Descriptor) (x : FilterOp × FilterType) : Prop where
  text : x.1.searchesText d = true → x.2 = .string
  items : x.1 = .oneOf ∨ x.1 = .containsAny → ∃ element, x.2 = .list element

theorem reads_of_mem {d : Descriptor} {block : FilterBlock} (h : ofDescriptor? d = some block)
    {x : FilterOp × FilterType} (hx : x ∈ block) : Reads d x := by
  have hall : ∀ x ∈ block, Reads d x := by
    simp only [reads_iff]
    cases d with
    | scalar kind =>
      cases kind <;> cases h <;> simp [text, order, equality, FilterOp.searchesText]
    | scalarArray kind =>
      cases kind <;> cases h <;>
        simp [count, text, order, elementOrder, array, FilterOp.searchesText]
    | date => cases h; simp [order, equality, FilterOp.searchesText]
    | object t | objectArray t => cases h; simp [count, FilterOp.searchesText]
    | literal text => cases h; simp
    | unsupported raw => cases h
  exact hall x hx

end FilterBlock

namespace Filter

/-- The value of an offer has the form that the operator reads. -/
structure HasForm (o : Offer) (v : Value) : Prop where
  text : o.argument.op.searchesText o.descriptor = true → ∃ s, v = .string s
  items : o.argument.op = .oneOf ∨ o.argument.op = .containsAny → ∃ items, v = .array items
  embedded : o.argument.op = .nested →
    ∃ target members, o.descriptor.target? = some target ∧ v = .object members
  count : o.argument.op = .count → ∃ n : Int, v = .number (.int n)
  bound : o.argument.op.isOrder = true ∨ o.argument.op.isElementMatch = true →
    ∃ comparison, comparison? o.argument.op = some comparison

theorem hasForm_of_admits {e : Entity} {name : String} {o : Offer} (ho : offer? e name = some o)
    {v : Value} (hv : o.argument.type.admits v = true) : HasForm o v := by
  obtain ⟨-, block, hblock, hmem⟩ := block_of_offer? ho
  have hfits := FilterBlock.fits_of_mem hblock hmem
  have hreads := FilterBlock.reads_of_mem hblock hmem
  constructor
  case text =>
    intro hop
    rw [show o.argument.type = .string from hreads.text hop] at hv
    cases v with
    | string s => exact ⟨s, rfl⟩
    | _ => cases hv
  case items =>
    intro hop
    obtain ⟨element, htype⟩ := hreads.items hop
    rw [show o.argument.type = .list element from htype] at hv
    cases v with
    | array items => exact ⟨items, rfl⟩
    | _ => cases hv
  case embedded =>
    intro hop
    obtain ⟨target, ht, htype⟩ := hfits.nested hop
    rw [show o.argument.type = .filters target from htype] at hv
    cases v with
    | object members => exact ⟨target, members, ht, rfl⟩
    | _ => cases hv
  case count =>
    intro hop
    rw [show o.argument.type = .int from hfits.count hop] at hv
    match v, hv with
    | .number (.int n), _ => exact ⟨n, rfl⟩
  case bound =>
    intro hop
    cases h : o.argument.op <;> simp [h, FilterOp.isOrder, FilterOp.isElementMatch] at hop <;>
      exact ⟨_, rfl⟩

/-- The part of an entry, with `fallback` wherever the value, the descriptor or the operator is not
of the form that compilation asks for. -/
def compileOr (fallback : Except FilterError Part) (c : Catalog) (name : String) (o : Offer)
    (v : Value) : Except FilterError Part :=
  let field := o.argument.field
  let date := o.descriptor.isDate
  let text (test : String → Except FilterError Part) : Except FilterError Part :=
    match v with
    | .string s => test s
    | _ => fallback
  let bound (part : Bound → Part) : Except FilterError Part :=
    match comparison? o.argument.op with
    | some comparison => .ok (part ⟨comparison, v, date⟩)
    | none => fallback
  let items (test : List Value → Test) : Except FilterError Part :=
    match v with
    | .array items => .ok (.test field (test items))
    | _ => fallback
  match o.argument.op with
  | .eq => .ok (.test field (.equals v date false))
  | .ne => .ok (.test field (.equals v date true))
  | .oneOf => items fun candidates => .oneOf candidates date
  | .containsAny => items .containsAny
  | .contains =>
    match o.descriptor with
    | .scalarArray _ => .ok (.test field (.containsElement v))
    | _ => text fun s => .ok (.test field (.text .contains s))
  | .textContains => text fun s => .ok (.test field (.text .contains s))
  | .startsWith => text fun s => .ok (.test field (.text .startsWith s))
  | .endsWith => text fun s => .ok (.test field (.text .endsWith s))
  | .regex => text fun s =>
    match Pattern.compile s with
    | some p => .ok (.test field (.pattern p))
    | none => .error (.invalidPattern name)
  | .count =>
    match v with
    | .number (.int n) =>
      if 0 ≤ n then .ok (.test field (.count n.toNat))
      else .error (.invalidValue name "non-negative Int")
    | _ => fallback
  | .lt | .lte | .gt | .gte => bound fun b => .test field (.compare b)
  | .elementLt | .elementLte | .elementGt | .elementGte => bound (.elementBound field)
  | .nested =>
    match o.descriptor.target?, v with
    | some target, .object members =>
      match c.get? target with
      | none => .error (.unknownEntity target)
      | some t =>
        (compileArguments c t members).map fun parts => .embedded field (ofParts parts)
    | _, _ => fallback

/-- A value of the form that its operator reads leaves nothing for what stands in. -/
theorem compileOffer_eq_compileOr {c : Catalog} {name : String} {o : Offer} {v : Value}
    (h : HasForm o v) (fallback : Except FilterError Part) :
    compileOffer c name o v = compileOr fallback c name o v := by
  obtain ⟨⟨field, op, type⟩, d⟩ := o
  by_cases hop : op = .nested
  · subst hop
    obtain ⟨target, members, ht, rfl⟩ := h.embedded rfl
    simp only at ht
    cases hget : c.get? target <;> simp only [compileOffer, compileOr, if_true, ht, hget]
  · rw [compileOffer_eq_part hop]
    cases op with
    | nested => exact (hop rfl).elim
    | textContains | startsWith | endsWith | regex =>
      obtain ⟨s, rfl⟩ := h.text rfl
      rfl
    | contains =>
      cases d with
      | scalarArray kind => rfl
      | _ =>
        obtain ⟨s, rfl⟩ := h.text rfl
        rfl
    | oneOf | containsAny =>
      obtain ⟨items, rfl⟩ := h.items (by simp)
      rfl
    | count =>
      obtain ⟨n, rfl⟩ := h.count rfl
      rfl
    | _ => rfl

/-- What has to hold of a value, told from the text of the type. -/
theorem check_eq_ok_iff_conforms {name : String} {o : Offer} {v : Value} :
    check name o v = .ok () ↔ v.conforms o.argument.type.text = true ∧
      (o.descriptor.isDate = true → areDates v = true) := by
  rw [check_eq_ok, FilterType.conforms_text]

/-- An entry whose value is given, conforms to the text of the type of its argument and denotes
dates where these are asked for has the form that the operator reads, and so compiles without
anything that stands in for one. -/
theorem compiles_without_fallback {c : Catalog} {e : Entity} {name : String} {v : Value} {o : Offer}
    (hname : name ≠ orName) (ho : offer? e name = some o) (hv : v.isNull = false)
    (htype : v.conforms o.argument.type.text = true)
    (hdates : o.descriptor.isDate = true → areDates v = true) :
    HasForm o v ∧
      ∀ fallback, compileArgument c e name v = compileOr fallback c name o v := by
  have hform : HasForm o v := hasForm_of_admits ho (FilterType.conforms_text _ _ ▸ htype)
  refine ⟨hform, fun fallback => ?_⟩
  rw [compileArgument_of_offer? hname hv ho (check_eq_ok_iff_conforms.mpr ⟨htype, hdates⟩)]
  exact compileOffer_eq_compileOr hform fallback

def bracketedAuthor : Entity :=
  { Entity.author with fields := ⟨[("latest", .object "[Int")], by decide⟩ }

def bracketedOffer : Offer := ⟨⟨"latest", .nested, .filters "[Int"⟩, .object "[Int"⟩

/-- The name of an embedded entity is not taken for a list, nor is anything put in its place when no
entity has it. -/
theorem bracketedAuthor_latest :
    offer? bracketedAuthor "latest" = some bracketedOffer ∧
      Value.conforms "[IntFilters" (.object []) = true ∧ HasForm bracketedOffer (.object []) ∧
        ∀ fallback, compileOr fallback .library "latest" bracketedOffer (.object []) =
          .error (.unknownEntity "[Int") := by
  have hname : "latest" ≠ orName := by decide
  have hconforms : (Value.object []).conforms bracketedOffer.argument.type.text = true :=
    FilterType.conforms_text _ _
  have hdates : bracketedOffer.descriptor.isDate = true → areDates (.object []) = true := nofun
  obtain ⟨hform, hentry⟩ := compiles_without_fallback (c := .library) (e := bracketedAuthor)
    hname rfl rfl hconforms hdates
  exact ⟨rfl, hconforms, hform, fun fallback => (hentry fallback).symm⟩

end Filter

end DocumentSchema
