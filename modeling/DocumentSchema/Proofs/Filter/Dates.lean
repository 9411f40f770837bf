import DocumentSchema.Proofs.Filter.Nulls

/-!
# Dates that are written differently

An instant can be written in many ways, and filters know the instant only. Two
runs are compared: filters that differ in how the dates in them are written, on
documents that differ in how their dates are written. Both runs have the same
result.
-/
namespace DocumentSchema

def SameInstant (s t : String) : Prop := ∃ i, Instant.parse s = some i ∧ Instant.parse t = some i

namespace Value

/-- The same value, or texts of the same instant. -/
inductive SameDate : Value → Value → Prop
  | refl (v : Value) : SameDate v v
  | texts {s t : String} (h : SameInstant s t) : SameDate (.string s) (.string t)

inductive SameDates : Value → Value → Prop
  | single {v w : Value} (h : v.SameDate w) : SameDates v w
  | list {vs ws : List Value} (h : List.Forall₂ SameDate vs ws) : SameDates (.array vs) (.array ws)

section Texts

variable {s t : String}

theorem equalTexts_left (h : SameInstant s t) (u : String) :
    equalTexts true s u = equalTexts true t u := by
  obtain ⟨i, hs, ht⟩ := h
  cases hu : Instant.parse u with
  | some j => simp [equalTexts, hs, ht, hu]
  | none =>
    have hsu : s ≠ u := by
      rintro rfl
      simp [hs] at hu
    have htu : t ≠ u := by
      rintro rfl
      simp [ht] at hu
    simp [equalTexts, hu, hsu, htu]

theorem equalTexts_right (h : SameInstant s t) (u : String) :
    equalTexts true u s = equalTexts true u t := by
  obtain ⟨i, hs, ht⟩ := h
  cases hu : Instant.parse u with
  | some j => simp [equalTexts, hs, ht, hu]
  | none =>
    have hus : u ≠ s := by
      rintro rfl
      simp [hs] at hu
    have hut : u ≠ t := by
      rintro rfl
      simp [ht] at hu
    simp [equalTexts, hu, hus, hut]

end Texts

namespace SameDate

variable {v w x y : Value}

theorem isNull (h : v.SameDate w) : v.isNull = w.isNull := by
  cases h <;> rfl

theorem isDate (h : v.SameDate w) : Filter.isDate v = Filter.isDate w := by
  cases h with
  | refl => rfl
  | texts h =>
    obtain ⟨i, hs, ht⟩ := h
    simp [Filter.isDate, hs, ht]

theorem admits (h : v.SameDate w) (type : FilterType) : type.admits v = type.admits w := by
  cases h with
  | refl => rfl
  | texts => cases type <;> rfl

theorem equals (hx : x.SameDate y) (hv : v.SameDate w) : x.equals true v = y.equals true w := by
  calc x.equals true v = y.equals true v := by
        cases hx with
        | refl => rfl
        | texts h => cases v <;> first | exact equalTexts_left h _ | rfl
    _ = y.equals true w := by
        cases hv with
        | refl => rfl
        | texts h => cases y <;> first | exact equalTexts_right h _ | rfl

theorem compare (hx : x.SameDate y) (hv : v.SameDate w) :
    Value.compare true x v = Value.compare true y w := by
  calc Value.compare true x v = Value.compare true y v := by
        cases hx with
        | refl => rfl
        | texts h =>
          obtain ⟨i, hs, ht⟩ := h
          cases v <;> simp [Value.compare, hs, ht]
    _ = Value.compare true y w := by
        cases hv with
        | refl => rfl
        | texts h =>
          obtain ⟨i, hs, ht⟩ := h
          cases y <;> simp [Value.compare, hs, ht]

end SameDate

namespace SameDates

variable {v w : Value}

theorem isNull (h : v.SameDates w) : v.isNull = w.isNull := by
  cases h with
  | single h => exact h.isNull
  | list => rfl

theorem elements (h : v.SameDates w) : List.Forall₂ SameDate v.elements w.elements := by
  cases h with
  | list h => exact h
  | single h =>
    cases h with
    | refl => exact List.forall₂_same.mpr fun x _ => .refl x
    | texts => exact .nil

theorem all_eq_of_forall₂ {p : Value → Bool} (hp : ∀ v w, v.SameDate w → p v = p w)
    {vs ws : List Value} (h : List.Forall₂ SameDate vs ws) : vs.all p = ws.all p := by
  rw [List.all_eq_not_any_not, List.all_eq_not_any_not,
    any_congr_of_forall₂ (fun v w hvw => by rw [hp v w hvw]) h]

theorem areDates (h : v.SameDates w) : Filter.areDates v = Filter.areDates w := by
  cases h with
  | single h =>
    cases h with
    | refl => rfl
    | texts h => exact SameDate.isDate (.texts h)
  | list h => exact all_eq_of_forall₂ (fun _ _ h => h.isDate) h

theorem admits (h : v.SameDates w) (type : FilterType) : type.admits v = type.admits w := by
  cases h with
  | single h => exact h.admits type
  | list h =>
    cases type with
    | list element => exact all_eq_of_forall₂ (fun _ _ h => h.admits element) h
    | _ => rfl

end SameDates

end Value

structure Test.AgreeOnDates (t u : Test) : Prop where
  holds : ∀ x y, x.SameDate y → t.holds x = u.holds y
  holdsOfNothing : t.holdsOfNothing = u.holdsOfNothing

namespace Test.AgreeOnDates

variable {v w : Value}

theorem equals (h : v.SameDate w) (negated : Bool) :
    AgreeOnDates (.equals v true negated) (.equals w true negated) := by
  refine ⟨fun x y hxy => ?_, rfl⟩
  rw [Test.holds, Test.holds, hxy.equals h]

theorem oneOf {vs ws : List Value} (h : List.Forall₂ Value.SameDate vs ws) :
    AgreeOnDates (.oneOf vs true) (.oneOf ws true) := by
  refine ⟨fun x y hxy => ?_, rfl⟩
  exact any_congr_of_forall₂ (fun _ _ h => hxy.equals h) h

theorem compare (h : v.SameDate w) (o : Comparison) :
    AgreeOnDates (.compare ⟨o, v, true⟩) (.compare ⟨o, w, true⟩) := by
  have hbound {x y : Value} (hxy : x.SameDate y) :
      Bound.holds ⟨o, v, true⟩ x = Bound.holds ⟨o, w, true⟩ y := by
    simp only [Bound.holds, hxy.compare h]
  refine ⟨fun x y hxy => ?_, rfl⟩
  rw [Test.holds, Test.holds]
  cases hxy with
  | refl =>
    congr 1
    funext x
    exact hbound (.refl x)
  | texts h => exact hbound (.texts h)

theorem elementMatch (bounds : List Bound) :
    AgreeOnDates (.elementMatch bounds) (.elementMatch bounds) := by
  refine ⟨fun x y hxy => ?_, rfl⟩
  cases hxy <;> rfl

end Test.AgreeOnDates

/-- Objects that store the same, except that the dates of an entity may be written differently. -/
def Entity.SameDocuments (e : Entity) (ms ns : List (String × Value)) : Prop :=
  ∀ name, Value.member? name ms = Value.member? name ns ∨
    (name, .date) ∈ e.fields.entries ∧ ∃ s t, Value.member? name ms = some (.string s) ∧
      Value.member? name ns = some (.string t) ∧ SameInstant s t

namespace Entity.SameDocuments

variable {e : Entity} {ms ns : List (String × Value)}

theorem refl (e : Entity) (ms : List (String × Value)) : e.SameDocuments ms ms :=
  fun _ => .inl rfl

theorem stored_eq (h : e.SameDocuments ms ns) {field : String} {d : Descriptor}
    (hf : (field, d) ∈ e.fields.entries) (hd : d.isDate = false) :
    Value.stored? field ms = Value.stored? field ns := by
  rcases h field with hsame | ⟨hdate, -⟩
  · rw [Value.stored?, Value.stored?, hsame]
  · have heq := List.inj_on_of_nodup_map e.fields.distinct hf hdate rfl
    cases heq
    cases hd

theorem holdsOf (h : e.SameDocuments ms ns) {t u : Test} (htu : t.AgreeOnDates u)
    (field : String) :
    t.holdsOf (Value.stored? field ms) = u.holdsOf (Value.stored? field ns) := by
  rcases h field with hsame | ⟨-, s, s', hs, hs', hi⟩
  · have hstored : Value.stored? field ms = Value.stored? field ns := by
      rw [Value.stored?, Value.stored?, hsame]
    rw [hstored]
    cases Value.stored? field ns with
    | none => exact htu.holdsOfNothing
    | some x => exact htu.holds x x (.refl x)
  · have hstored (v : Option Value) (s : String) (h : v = some (.string s)) :
        v.filter (fun v => !v.isNull) = some (.string s) := by
      rw [h]
      rfl
    rw [Value.stored?, Value.stored?, hstored _ _ hs, hstored _ _ hs']
    exact htu.holds _ _ (.texts hi)

end Entity.SameDocuments

/-- Matchers that both accept or both reject two documents with the same dates. -/
def Matcher.AgreeOnDates (e : Entity) (m n : Matcher) : Prop :=
  ∀ ms ns, e.SameDocuments ms ns → m.accepts (.object ms) = n.accepts (.object ns)

theorem Matcher.AgreeOnDates.accepts {e : Entity} {m n : Matcher} (h : AgreeOnDates e m n)
    (document : Value) : m.accepts document = n.accepts document := by
  cases document with
  | object members => exact h members members (.refl e members)
  | _ => cases m; cases n; rfl

namespace Filter

open Traversal (SameUpTo)

/-- Parts that ask for the same where dates are the same. -/
structure Part.AgreeOnDates (e : Entity) (p q : Part) : Prop where
  passes : ∀ ms ns, e.SameDocuments ms ns → (p.Passes ms ↔ q.Passes ns)
  bounds : p.elementBound? = q.elementBound?
  matchers : List.Forall₂ (Matcher.AgreeOnDates e) p.matchers q.matchers

section Parts

variable {e : Entity}

theorem boundsOf_eq {ps qs : List Part} (h : List.Forall₂ (Part.AgreeOnDates e) ps qs)
    (field : String) : boundsOf field ps = boundsOf field qs := by
  induction h with
  | nil => rfl
  | @cons p q ps qs hpq _ ih =>
    have hsingle : boundsOf field [p] = boundsOf field [q] := by
      simp only [boundsOf, List.filterMap_cons, hpq.bounds]
    rw [boundsOf_cons, boundsOf_cons field q, hsingle, ih]

theorem forall_passes_iff {ps qs : List Part} (h : List.Forall₂ (Part.AgreeOnDates e) ps qs)
    {ms ns : List (String × Value)} (hd : e.SameDocuments ms ns) :
    (∀ p ∈ ps, p.Passes ms) ↔ ∀ q ∈ qs, q.Passes ns := by
  induction h with
  | nil => simp
  | cons hpq _ ih => rw [List.forall_mem_cons, List.forall_mem_cons, hpq.passes ms ns hd, ih]

theorem exists_accepts_iff {as bs : List Matcher} (h : List.Forall₂ (Matcher.AgreeOnDates e) as bs)
    {ms ns : List (String × Value)} (hd : e.SameDocuments ms ns) :
    (as ≠ [] → ∃ m ∈ as, m.accepts (.object ms) = true) ↔
      (bs ≠ [] → ∃ m ∈ bs, m.accepts (.object ns) = true) := by
  have hany : (as.any fun m => m.accepts (.object ms)) =
      bs.any fun m => m.accepts (.object ns) :=
    any_congr_of_forall₂ (fun _ _ hmn => hmn ms ns hd) h
  have hnil : as = [] ↔ bs = [] := by
    cases h <;> simp
  rw [ne_eq, hnil, ← List.any_eq_true, hany, List.any_eq_true]

theorem agree_ofParts {ps qs : List Part} (h : List.Forall₂ (Part.AgreeOnDates e) ps qs) :
    Matcher.AgreeOnDates e (ofParts ps) (ofParts qs) := by
  intro ms ns hd
  have hmatchers : List.Forall₂ (Matcher.AgreeOnDates e) (ps.flatMap Part.matchers)
      (qs.flatMap Part.matchers) :=
    List.rel_flatMap h fun _ _ hpq => hpq.matchers
  rw [Bool.eq_iff_iff, accepts_ofParts, accepts_ofParts]
  refine and_congr (forall_passes_iff h hd) (and_congr ?_ (exists_accepts_iff hmatchers hd))
  refine forall_congr' fun field => ?_
  rw [boundsOf_eq h field, hd.holdsOf (.elementMatch _) field]

end Parts

section Offers

variable {c : Catalog} {e : Entity} {name : String} {o : Offer} {v w : Value}

theorem agree_nothing : Part.AgreeOnDates e .nothing .nothing := ⟨fun _ _ _ => .rfl, rfl, .nil⟩

theorem agree_elementBound (field : String) (b : Bound) :
    Part.AgreeOnDates e (.elementBound field b) (.elementBound field b) :=
  ⟨fun _ _ _ => .rfl, rfl, .nil⟩

theorem agree_alternatives {as bs : List Matcher}
    (h : List.Forall₂ (Matcher.AgreeOnDates e) as bs) :
    Part.AgreeOnDates e (.alternatives as) (.alternatives bs) := ⟨fun _ _ _ => .rfl, rfl, h⟩

theorem agree_test (field : String) {t u : Test} (h : t.AgreeOnDates u) :
    Part.AgreeOnDates e (.test field t) (.test field u) := by
  refine ⟨fun ms ns hd => ?_, rfl, .nil⟩
  rw [Part.Passes, Part.Passes, hd.holdsOf h]

theorem agree_of_stored {field : String} {d : Descriptor} (hf : (field, d) ∈ e.fields.entries)
    (hd : d.isDate = false) {p q : Part}
    (h : ∀ ms ns, Value.stored? field ms = Value.stored? field ns → (p.Passes ms ↔ q.Passes ns))
    (hbounds : p.elementBound? = q.elementBound?) (hp : p.matchers = []) (hq : q.matchers = []) :
    Part.AgreeOnDates e p q := by
  refine ⟨fun ms ns hsame => h ms ns (hsame.stored_eq hf hd), hbounds, ?_⟩
  rw [hp, hq]
  exact .nil

theorem agree_embedded {field : String} {d : Descriptor} (hf : (field, d) ∈ e.fields.entries)
    (hd : d.isDate = false) {t : Entity} {m n : Matcher} (h : Matcher.AgreeOnDates t m n) :
    Part.AgreeOnDates e (.embedded field m) (.embedded field n) := by
  refine agree_of_stored hf hd (fun ms ns hstored => ?_) rfl rfl rfl
  have haccepts : m.accepts = n.accepts := funext h.accepts
  rw [Part.Passes, Part.Passes, hstored, haccepts]

theorem agree_of_asks (ho : offer? e name = some o) (hd : o.descriptor.isDate = false) {p : Part}
    (h : Asks o.argument p) : Part.AgreeOnDates e p p := by
  obtain ⟨hf, -⟩ := block_of_offer? ho
  cases h with
  | nothing => exact agree_nothing
  | elementBound b => exact agree_elementBound _ b
  | test t =>
    refine agree_of_stored hf hd (fun ms ns hstored => ?_) rfl rfl rfl
    rw [Part.Passes, Part.Passes, hstored]

theorem agree_of_dates (ho : offer? e name = some o) (hd : o.descriptor.isDate = true)
    (h : v.SameDates w) (hv : o.argument.type.admits v = true) :
    SameUpTo (Part.AgreeOnDates e) (part name o v) (part name o w) := by
  obtain ⟨-, block, hblock, hx⟩ := block_of_offer? ho
  obtain ⟨⟨field, op, type⟩, d⟩ := o
  have hdate : d = .date := by
    cases d <;> first | rfl | cases hd
  subst hdate
  cases hblock
  have hsingle (htype : type = .string) : v.SameDate w := by
    subst htype
    cases h with
    | single h => exact h
    | list => cases hv
  simp only [FilterBlock.order, FilterBlock.equality, List.cons_append, List.nil_append,
    List.mem_cons, Prod.mk.injEq, List.not_mem_nil, or_false] at hx
  rcases hx with ⟨rfl, ht⟩ | ⟨rfl, ht⟩ | ⟨rfl, ht⟩ | ⟨rfl, ht⟩ | ⟨rfl, ht⟩ | ⟨rfl, ht⟩ | ⟨rfl, -⟩
  · exact .ok (agree_test field (.compare (hsingle ht) .lt))
  · exact .ok (agree_test field (.compare (hsingle ht) .lte))
  · exact .ok (agree_test field (.compare (hsingle ht) .gt))
  · exact .ok (agree_test field (.compare (hsingle ht) .gte))
  · exact .ok (agree_test field (.equals (hsingle ht) false))
  · exact .ok (agree_test field (.equals (hsingle ht) true))
  · exact .ok (agree_test field (.oneOf h.elements))

end Offers

section Compile

variable {c : Catalog} {e : Entity} {name : String}

theorem agree_arguments {as bs : List (String × Value)}
    (h : List.Forall₂ (fun a b => SameUpTo (Part.AgreeOnDates e) (compileArgument c e a.1 a.2)
      (compileArgument c e b.1 b.2)) as bs) :
    SameUpTo (Matcher.AgreeOnDates e) ((compileArguments c e as).map ofParts)
      ((compileArguments c e bs).map ofParts) := by
  rw [compileArguments_eq_mapM, compileArguments_eq_mapM]
  exact (SameUpTo.mapM h).map fun _ _ hparts => agree_ofParts hparts

theorem agree_branches {items items' : List Value}
    (h : List.Forall₂ (fun v w => SameUpTo (Matcher.AgreeOnDates e) (compileBranch c e orName v)
      (compileBranch c e orName w)) items items') :
    SameUpTo (Part.AgreeOnDates e) (compileArgument c e orName (.array items))
      (compileArgument c e orName (.array items')) := by
  rw [compileArgument_or, compileArgument_or]
  exact (SameUpTo.mapM h).map fun _ _ hmatchers => agree_alternatives hmatchers

/-- What is shown of a value by induction: what it compiles to, as an argument or as an alternative,
treats documents alike that have the same dates. -/
structure KnowsInstants (c : Catalog) (v : Value) : Prop where
  argument : ∀ e name, SameUpTo (Part.AgreeOnDates e) (compileArgument c e name v)
    (compileArgument c e name v)
  branch : ∀ e, SameUpTo (Matcher.AgreeOnDates e) (compileBranch c e orName v)
    (compileBranch c e orName v)

theorem agree_of_offer {o : Offer} (ho : offer? e name = some o) {v : Value}
    (hv : o.argument.type.admits v = true)
    (h : ∀ t members, v = .object members → SameUpTo (Matcher.AgreeOnDates t)
      ((compileArguments c t members).map ofParts) ((compileArguments c t members).map ofParts)) :
    SameUpTo (Part.AgreeOnDates e) (compileOffer c name o v) (compileOffer c name o v) := by
  obtain ⟨hf, hfits⟩ := fits_of_offer? ho
  cases hd : o.descriptor.isDate with
  | true =>
    rw [compileOffer_eq_part (hfits.date hd).1]
    exact agree_of_dates ho hd (.single (.refl v)) hv
  | false =>
    refine .of_self fun p hp => ?_
    rcases compileOffer_eq_ok hp with
      hasks | ⟨-, members, target, t, parts, hobject, -, -, hparts, rfl⟩
    · exact agree_of_asks ho hd hasks
    · have hsame := h t members hobject
      rw [hparts] at hsame
      cases hsame with
      | ok hsame => exact agree_embedded hf hd hsame

theorem knowsInstants (v : Value) : KnowsInstants c v := by
  induction v using Value.insideInduction with
  | inside v hitems hmembers =>
    have harguments (e : Entity) (members : List (String × Value)) (hv : v = .object members) :
        SameUpTo (Matcher.AgreeOnDates e) ((compileArguments c e members).map ofParts)
          ((compileArguments c e members).map ofParts) :=
      agree_arguments (List.forall₂_same.mpr fun m hm =>
        (hmembers members hv m hm).argument e m.1)
    refine ⟨fun e name => ?_, fun e => ?_⟩
    -- Alternatives and nested filters are inside the value, any other one is checked as a whole.
    · by_cases hn : name = orName
      · subst hn
        by_cases hv : ∃ items, v = .array items
        · obtain ⟨items, rfl⟩ := hv
          exact agree_branches (List.forall₂_same.mpr fun i hi => (hitems items rfl i hi).branch e)
        · rw [compileArgument_or_of_ne (by simpa using hv)]
          exact .error _
      · cases hv : v.isNull with
        | true =>
          cases v <;> cases hv
          refine .of_self fun p hp => ?_
          rw [(compileArgument_null_eq_ok hp).2]
          exact agree_nothing
        | false =>
          rw [compileArgument_of_ne hn hv]
          cases ho : takeUp e name v with
          | error fault => exact .error fault
          | ok o =>
            obtain ⟨hoffer, hcheck⟩ := takeUp_eq_ok.mp ho
            exact agree_of_offer hoffer (check_eq_ok.mp hcheck).1 harguments
    · cases v with
      | object members => exact harguments e members rfl
      | _ => exact .error _

theorem takeUp_sameDates {v w : Value} (h : v.SameDates w) : takeUp e name v = takeUp e name w := by
  unfold takeUp check
  simp only [h.admits, h.areDates]

theorem agree_dates {o : Offer} (ho : offer? e name = some o) (hd : o.descriptor.isDate = true)
    {v w : Value} (h : v.SameDates w) :
    SameUpTo (Part.AgreeOnDates e) (compileArgument c e name v)
      (compileArgument c e name w) := by
  by_cases hn : name = orName
  · subst hn
    cases h with
    | single h =>
      cases h with
      | refl => exact (knowsInstants v).argument e orName
      | texts => exact .error _
    | list h =>
      refine agree_branches (h.imp fun v w hvw => ?_)
      cases hvw with
      | refl => exact (knowsInstants v).branch e
      | texts => exact .error _
  · cases hv : v.isNull with
    | true =>
      cases v <;> cases hv
      cases h with
      | single h =>
        cases h with
        | refl => exact (knowsInstants .null).argument e name
    | false =>
      rw [compileArgument_of_ne hn hv, compileArgument_of_ne hn (h.isNull ▸ hv),
        ← takeUp_sameDates h]
      cases ho' : takeUp e name v with
      | error fault => exact .error fault
      | ok o' =>
        obtain ⟨hoffer, hcheck⟩ := takeUp_eq_ok.mp ho'
        rw [ho, Option.some.injEq] at hoffer
        subst hoffer
        have hop := ((fits_of_offer? ho).2.date hd).1
        simp only [bind, Except.bind, compileOffer_eq_part hop]
        exact agree_of_dates ho hd h (check_eq_ok.mp hcheck).1

theorem agree_nested {t : Entity} (ht : filterTarget? c e name = some t)
    {ms ns : List (String × Value)}
    (h : SameUpTo (Matcher.AgreeOnDates t) ((compileArguments c t ms).map ofParts)
      ((compileArguments c t ns).map ofParts)) :
    SameUpTo (Part.AgreeOnDates e) (compileArgument c e name (.object ms))
      (compileArgument c e name (.object ns)) := by
  obtain ⟨o, ho, hop, hcompile⟩ := compileArgument_object ht
  obtain ⟨hf, hfits⟩ := fits_of_offer? ho
  have hd : o.descriptor.isDate = false := by
    rw [Bool.eq_false_iff]
    exact fun hd => (hfits.date hd).1 hop
  rw [hcompile, hcompile, takeUp_object ms ns]
  cases takeUp e name (.object ns) with
  | error fault => exact .error fault
  | ok _ => exact h.map fun _ _ hmn => agree_embedded hf hd hmn

end Compile

mutual

/-- Arguments of an entity that are the same, except that dates may be written differently: where an
operator of a date takes them, also in alternatives and in nested filters. -/
inductive SameArguments (c : Catalog) :
    Entity → List (String × Value) → List (String × Value) → Prop
  | nil {e} : SameArguments c e [] []
  | cons {e name v w as bs} (h : SameArgument c e name v w) (hrest : SameArguments c e as bs) :
    SameArguments c e ((name, v) :: as) ((name, w) :: bs)

inductive SameArgument (c : Catalog) : Entity → String → Value → Value → Prop
  | refl {e name v} : SameArgument c e name v v
  | dates {e name o v w} (ho : offer? e name = some o) (hd : o.descriptor.isDate = true)
    (h : v.SameDates w) : SameArgument c e name v w
  | branches {e items items'} (h : SameBranches c e items items') :
    SameArgument c e orName (.array items) (.array items')
  | nested {e name t as bs} (ht : filterTarget? c e name = some t) (h : SameArguments c t as bs) :
    SameArgument c e name (.object as) (.object bs)

inductive SameBranches (c : Catalog) : Entity → List Value → List Value → Prop
  | nil {e} : SameBranches c e [] []
  | refl {e v items items'} (hrest : SameBranches c e items items') :
    SameBranches c e (v :: items) (v :: items')
  | cons {e as bs items items'} (h : SameArguments c e as bs)
    (hrest : SameBranches c e items items') :
    SameBranches c e (.object as :: items) (.object bs :: items')

end

section Same

variable {c : Catalog}

mutual

theorem SameArguments.agree {e : Entity} {as bs : List (String × Value)}
    (h : SameArguments c e as bs) :
    List.Forall₂ (fun a b => SameUpTo (Part.AgreeOnDates e) (compileArgument c e a.1 a.2)
      (compileArgument c e b.1 b.2)) as bs := by
  cases h with
  | nil => exact .nil
  | cons h hrest => exact .cons h.agree hrest.agree

theorem SameArgument.agree {e : Entity} {name : String} {v w : Value}
    (h : SameArgument c e name v w) :
    SameUpTo (Part.AgreeOnDates e) (compileArgument c e name v)
      (compileArgument c e name w) := by
  cases h with
  | refl => exact (knowsInstants v).argument e name
  | dates ho hd h => exact agree_dates ho hd h
  | branches h => exact agree_branches h.agree
  | nested ht h => exact agree_nested ht (agree_arguments h.agree)

theorem SameBranches.agree {e : Entity} {items items' : List Value}
    (h : SameBranches c e items items') :
    List.Forall₂ (fun v w => SameUpTo (Matcher.AgreeOnDates e) (compileBranch c e orName v)
      (compileBranch c e orName w)) items items' := by
  cases h with
  | nil => exact .nil
  | refl hrest => exact .cons ((knowsInstants _).branch e) hrest.agree
  | cons h hrest => exact .cons (agree_arguments h.agree) hrest.agree

end

/-- Filters depend on the instants that dates denote. A filter accepts both of two objects that
differ in how dates of its entity are written, or neither. Two filters that differ in how the dates
in them are written fail with the same error, or both compile and accept the same documents, also
those that store no date. -/
theorem filters_know_instants {e : Entity} (he : e ∈ c.entities) :
    (∀ arguments m, compile c e.name arguments = .ok m → ∀ ms ns, e.SameDocuments ms ns →
      m.accepts (.object ms) = m.accepts (.object ns)) ∧
    ∀ arguments arguments', SameArguments c e arguments arguments' →
      (∃ fault, compile c e.name arguments = .error fault ∧
        compile c e.name arguments' = .error fault) ∨
      ∃ m n, compile c e.name arguments = .ok m ∧ compile c e.name arguments' = .ok n ∧
        ∀ document, m.accepts document = n.accepts document := by
  constructor
  · intro arguments m hm ms ns hd
    have hself : SameUpTo (Matcher.AgreeOnDates e) (compile c e.name arguments)
        (compile c e.name arguments) := by
      rw [compile_of_mem he]
      exact (knowsInstants (.object arguments)).branch e
    rw [hm] at hself
    cases hself with
    | ok hself => exact hself ms ns hd
  · intro arguments arguments' h
    have hsame : SameUpTo (Matcher.AgreeOnDates e) (compile c e.name arguments)
        (compile c e.name arguments') := by
      rw [compile_of_mem he, compile_of_mem he]
      exact agree_arguments h.agree
    generalize compile c e.name arguments = x, compile c e.name arguments' = y at hsame
    cases hsame with
    | error fault => exact .inl ⟨fault, rfl, rfl⟩
    | ok hsame => exact .inr ⟨_, _, rfl, rfl, hsame.accepts⟩

end Same

def publishedAt (text : String) : List (String × Value) :=
  [("published_lte", .string text),
    ("OR", .array [.object [("title", .string "Leap")],
      .object [("published_in", .array [.string "1970-01-01", .string text])]]),
    ("authors", .object [("latest", .object [("published", .string text)])])]

theorem sameArguments_publishedAt {s t : String} (h : SameInstant s t) :
    SameArguments .library .book (publishedAt s) (publishedAt t) := by
  have hdates : Value.SameDates (.array [.string "1970-01-01", .string s])
      (.array [.string "1970-01-01", .string t]) :=
    .list (.cons (.refl _) (.cons (.texts h) .nil))
  have hin : SameArguments .library .book
      [("published_in", .array [.string "1970-01-01", .string s])]
      [("published_in", .array [.string "1970-01-01", .string t])] :=
    .cons (.dates rfl rfl hdates) .nil
  have hbook : SameArguments .library .book [("published", .string s)]
      [("published", .string t)] :=
    .cons (.dates rfl rfl (.single (.texts h))) .nil
  have hauthor : SameArguments .library .author [("latest", .object [("published", .string s)])]
      [("latest", .object [("published", .string t)])] :=
    .cons (.nested rfl hbook) .nil
  exact .cons (.dates rfl rfl (.single (.texts h)))
    (.cons (.branches (.refl (.cons hin .nil))) (.cons (.nested rfl hauthor) .nil))

/-- A leap day, as a date and as a time in another time zone: in books and in filters. -/
theorem library_dates_alike :
    Entity.book ∈ Catalog.library.entities ∧
      Entity.book.SameDocuments [("published", .string "2020-02-29")]
        [("published", .string "2020-02-29T01:00:00+01:00")] ∧
      SameArguments .library .book (publishedAt "2020-02-29")
        (publishedAt "2020-02-29T01:00:00+01:00") ∧
      ∃ m n, compile .library "Book" (publishedAt "2020-02-29") = .ok m ∧
        compile .library "Book" (publishedAt "2020-02-29T01:00:00+01:00") = .ok n ∧
        m.accepts (.object [("published", .string "2020-02-29")]) =
          m.accepts (.object [("published", .string "2020-02-29T01:00:00+01:00")]) ∧
        m.accepts (.object [("published", .string "leap day")]) =
          n.accepts (.object [("published", .string "leap day")]) := by
  have he : Entity.book ∈ Catalog.library.entities := List.mem_cons_self
  have hday : SameInstant "2020-02-29" "2020-02-29T01:00:00+01:00" := ⟨_, rfl, rfl⟩
  have hdocuments : Entity.book.SameDocuments [("published", .string "2020-02-29")]
      [("published", .string "2020-02-29T01:00:00+01:00")] := by
    intro name
    by_cases hn : "published" = name
    · subst hn
      exact .inr ⟨by decide, _, _, rfl, rfl, hday⟩
    · left
      simp [Value.member?, hn]
  have harguments := sameArguments_publishedAt hday
  obtain ⟨hstored, hasked⟩ := filters_know_instants he
  obtain ⟨m, hm⟩ : ∃ m, compile .library "Book" (publishedAt "2020-02-29") = .ok m := ⟨_, rfl⟩
  refine ⟨he, hdocuments, harguments, ?_⟩
  rcases hasked _ _ harguments with ⟨fault, hfault, -⟩ | ⟨m', n, hm', hn, haccepts⟩
  · rw [show Entity.book.name = "Book" from rfl, hm] at hfault
    cases hfault
  · exact ⟨m', n, hm', hn, hstored _ m' hm' _ _ hdocuments, haccepts _⟩

end Filter

end DocumentSchema
