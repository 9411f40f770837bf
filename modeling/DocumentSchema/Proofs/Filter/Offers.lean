import DocumentSchema.Proofs.Filter.Conformance

/-!
# Filters and offers

Of an entity a filter sees its name and the arguments that it offers, and of a
catalog what is found under a name. Catalogs whose entities offer the same under
each name compile every filter to the same result.
-/
namespace DocumentSchema

/-- Entities of one name that offer the same arguments. -/
structure Entity.OffersLike (a b : Entity) : Prop where
  name : a.name = b.name
  offers : Filter.offers a = Filter.offers b

/-- Catalogs in which alike entities are found under each name. -/
def Catalog.OffersLike (c c' : Catalog) : Prop :=
  ∀ name, Option.Rel Entity.OffersLike (c.get? name) (c'.get? name)

theorem Entity.OffersLike.refl (e : Entity) : e.OffersLike e := ⟨rfl, rfl⟩

theorem Catalog.offersLike_of_replaced {c c' : Catalog} {a b : Entity} {before after : List Entity}
    (h : a.OffersLike b) (hc : c.entities = before ++ a :: after)
    (hc' : c'.entities = before ++ b :: after) : c.OffersLike c' := by
  intro name
  have hsame : ∀ o : Option Entity, Option.Rel Entity.OffersLike o o
    | none => .none
    | some e => .some (.refl e)
  rw [get?, get?, hc, hc', List.find?_append, List.find?_append]
  cases before.find? fun e => e.name = name with
  | some e => exact hsame _
  | none =>
    rw [Option.none_or, Option.none_or, List.find?_cons, List.find?_cons, h.name]
    cases decide (b.name = name) with
    | true => exact .some h
    | false => exact hsame _

namespace Filter

section Leaf

variable {a b : Entity} (h : a.OffersLike b)
include h

theorem offer?_congr (name : String) : offer? a name = offer? b name := by
  rw [offer?, offer?, h.offers]

theorem takeUp_congr (name : String) (v : Value) : takeUp a name v = takeUp b name v := by
  rw [takeUp, takeUp, offer?_congr h, h.name]

end Leaf

/-- What is shown of a value by induction: alike entities compile it to the same part as an argument
and, when it is an object, to the same parts as arguments. -/
structure CompilesAlike (c c' : Catalog) (v : Value) : Prop where
  argument : ∀ {a b : Entity}, a.OffersLike b → ∀ name,
    compileArgument c a name v = compileArgument c' b name v
  arguments : ∀ {a b : Entity}, a.OffersLike b → ∀ members, v = .object members →
    compileArguments c a members = compileArguments c' b members

section Nested

variable {c c' : Catalog} {a b : Entity}

theorem compileArguments_congr (h : a.OffersLike b) {members : List (String × Value)}
    (hm : ∀ m ∈ members, CompilesAlike c c' m.2) :
    compileArguments c a members = compileArguments c' b members := by
  rw [compileArguments_eq_mapM, compileArguments_eq_mapM]
  exact Traversal.mapM_congr fun m hmem => (hm m hmem).argument h m.1

theorem compileBranch_congr (h : a.OffersLike b) {name : String} {v : Value}
    (hv : CompilesAlike c c' v) : compileBranch c a name v = compileBranch c' b name v := by
  cases v with
  | object members => rw [compileBranch, compileBranch, hv.arguments h members rfl]
  | _ => rw [compileBranch, compileBranch, h.name] <;> simp

/-- Only arguments for embedded documents look anything up in the catalog. -/
theorem compileOffer_congr (hc : c.OffersLike c') {name : String} {o : Offer} {v : Value}
    (hv : ∀ {a b : Entity}, a.OffersLike b → ∀ members, v = .object members →
      compileArguments c a members = compileArguments c' b members) :
    compileOffer c name o v = compileOffer c' name o v := by
  cases v with
  | object members =>
    by_cases hop : o.argument.op = .nested
    · simp only [compileOffer, if_pos hop]
      cases o.descriptor.target? with
      | none => rfl
      | some target =>
        have hfound := hc target
        dsimp only
        generalize c.get? target = x, c'.get? target = y at hfound
        cases hfound with
        | none => rfl
        | some hlike => simp only [hv hlike members rfl]
    · simp only [compileOffer, if_neg hop]
  | _ => rfl

theorem compilesAlike_of_nested (hc : c.OffersLike c') {v : Value}
    (hitems : ∀ items, v = .array items → ∀ i ∈ items, CompilesAlike c c' i)
    (hmembers : ∀ members, v = .object members → ∀ m ∈ members, CompilesAlike c c' m.2) :
    CompilesAlike c c' v := by
  have harguments {a b : Entity} (h : a.OffersLike b) (members : List (String × Value))
      (hv : v = .object members) : compileArguments c a members = compileArguments c' b members :=
    compileArguments_congr h (hmembers members hv)
  refine ⟨fun {a b} h name => ?_, harguments⟩
  by_cases hn : name = orName
  · rw [hn]
    by_cases hv : ∃ items, v = .array items
    · obtain ⟨items, rfl⟩ := hv
      rw [compileArgument_or, compileArgument_or,
        Traversal.mapM_congr fun i hi => compileBranch_congr h (hitems items rfl i hi)]
    · have hne : ∀ items, v ≠ .array items := by simpa using hv
      rw [compileArgument_or_of_ne hne, compileArgument_or_of_ne hne, h.name]
  · cases hv : v.isNull with
    | true =>
      cases v <;> cases hv
      rw [compileArgument_null hn, compileArgument_null hn, offer?_congr h, h.name]
    | false =>
      rw [compileArgument_of_ne hn hv, compileArgument_of_ne hn hv, takeUp_congr h]
      congr 1
      funext o
      exact compileOffer_congr hc harguments

theorem compilesAlike (hc : c.OffersLike c') (v : Value) : CompilesAlike c c' v := by
  induction v using Value.insideInduction with
  | inside v hitems hmembers => exact compilesAlike_of_nested hc hitems hmembers

theorem compile_congr (hc : c.OffersLike c') (entity : String) (arguments : List (String × Value)) :
    compile c entity arguments = compile c' entity arguments := by
  have hfound := hc entity
  unfold compile
  generalize c.get? entity = x, c'.get? entity = y at hfound
  cases hfound with
  | none => rfl
  | some hlike =>
    simp only [(compilesAlike hc (.object arguments)).arguments hlike arguments rfl]

end Nested

end Filter

end DocumentSchema
