import DocumentSchema.Proofs.Filter.Compile
import DocumentSchema.Proofs.Filter.Parts
import DocumentSchema.Proofs.Schema.Document

/-!
# Filters as conjunctions

A filter selects what each of its arguments selects on its own, with two
exceptions: the bounds for the elements of one field have to be met by one
element together, and of the alternatives one is enough.
-/
namespace DocumentSchema

def FilterOp.isElementMatch : FilterOp → Bool
  | elementLt | elementLte | elementGt | elementGte => true
  | _ => false

namespace Filter

/-- The field for whose elements an argument sets a bound. -/
def elementField? (e : Entity) (name : String) : Option String :=
  ((offer? e name).filter fun o => o.argument.op.isElementMatch).map fun o => o.argument.field

/-- Compiled arguments select a document when they accept it. -/
def Selects (c : Catalog) (e : Entity) (arguments : List (String × Value)) (d : Value) : Prop :=
  ∃ m, compile c e.name arguments = .ok m ∧ m.accepts d = true

/-- What an argument asks for on its own: nothing, a test of its field or a bound for one of the
elements. -/
inductive Asks (a : FilterArgument) : Part → Prop
  | nothing (hb : a.op.isElementMatch = false) : Asks a .nothing
  | test (t : Test) (hb : a.op.isElementMatch = false) (hn : a.op ≠ .nested)
    (hc : a.op = .count → ∃ n, t = .count n) : Asks a (.test a.field t)
  | elementBound (b : Bound) (hb : a.op.isElementMatch = true) : Asks a (.elementBound a.field b)

theorem Asks.spec {a : FilterArgument} {p : Part} (h : Asks a p) :
    p.elementBound?.map Prod.fst = (if a.op.isElementMatch then some a.field else none) ∧
      p.matchers = [] := by
  cases h with
  | nothing hb | test t hb | elementBound b hb =>
    rw [hb]
    exact ⟨rfl, rfl⟩

theorem asks_of_part {name : String} {o : Offer} {v : Value} {p : Part}
    (h : part name o v = .ok p) : Asks o.argument p := by
  obtain ⟨⟨field, op, type⟩, d⟩ := o
  cases op with
  | elementLt | elementLte | elementGt | elementGte =>
    simp only [part, comparison?] at h
    cases h
    exact .elementBound _ rfl
  | count =>
    simp only [part] at h
    split at h
    · split at h
      · cases h
        exact .test _ rfl nofun fun _ => ⟨_, rfl⟩
      · cases h
    · cases h
  | _ =>
    simp only [part] at h
    (repeat' split at h) <;> cases h <;> first | exact .nothing rfl | exact .test _ rfl nofun nofun

section Argument

variable {c : Catalog} {e : Entity} {name : String} {v : Value} {p : Part}

theorem compileOffer_eq_ok {o : Offer} (h : compileOffer c name o v = .ok p) :
    Asks o.argument p ∨
      o.argument.op = .nested ∧ ∃ members target t parts, v = .object members ∧
        o.descriptor.target? = some target ∧ c.get? target = some t ∧
        compileArguments c t members = .ok parts ∧
        p = .embedded o.argument.field (ofParts parts) := by
  unfold compileOffer at h
  split at h
  · rename_i members
    split at h
    · rename_i hop
      split at h
      · cases h
        exact .inl (.nothing (by rw [hop]; rfl))
      · rename_i target htarget
        split at h
        · cases h
        · rename_i t ht
          obtain ⟨parts, hparts, rfl⟩ := Traversal.map_eq_ok.mp h
          exact .inr ⟨hop, members, target, t, parts, rfl, htarget, ht, hparts, rfl⟩
    · exact .inl (asks_of_part h)
  · exact .inl (asks_of_part h)

theorem compileOffer_spec {o : Offer} (h : compileOffer c name o v = .ok p) :
    p.elementBound?.map Prod.fst =
        (if o.argument.op.isElementMatch then some o.argument.field else none) ∧
      p.matchers = [] := by
  rcases compileOffer_eq_ok h with h | ⟨hop, members, target, t, parts, -, -, -, -, rfl⟩
  · exact h.spec
  · rw [hop]
    exact ⟨rfl, rfl⟩

theorem compileArgument_null_eq_ok (h : compileArgument c e name .null = .ok p) :
    name ≠ orName ∧ p = .nothing := by
  by_cases hn : name = orName
  · rw [hn, compileArgument_or_of_ne (by simp)] at h
    cases h
  · rw [compileArgument_null hn] at h
    split at h
    · cases h
    · cases h
      exact ⟨hn, rfl⟩

theorem compileArgument_or_eq_ok (h : compileArgument c e orName v = .ok p) :
    ∃ items ms, v = .array items ∧ items.mapM (compileBranch c e orName) = .ok ms ∧
      p = .alternatives ms := by
  by_cases hv : ∃ items, v = .array items
  · obtain ⟨items, rfl⟩ := hv
    rw [compileArgument_or, Traversal.map_eq_ok] at h
    obtain ⟨ms, hm, rfl⟩ := h
    exact ⟨items, ms, rfl, hm, rfl⟩
  · rw [compileArgument_or_of_ne (by simpa using hv)] at h
    cases h

theorem compileArgument_spec (hn : name ≠ orName) (hv : v.isNull = false)
    (h : compileArgument c e name v = .ok p) :
    p.elementBound?.map Prod.fst = elementField? e name ∧ p.matchers = [] := by
  rw [compileArgument_of_ne hn hv, Traversal.bind_eq_ok] at h
  obtain ⟨o, ho, hp⟩ := h
  obtain ⟨ho, -⟩ := takeUp_eq_ok.mp ho
  obtain ⟨hb, hm⟩ := compileOffer_spec hp
  refine ⟨?_, hm⟩
  rw [hb, elementField?, ho]
  by_cases hop : o.argument.op.isElementMatch = true <;> simp [Option.filter, hop]

end Argument

theorem compileBranch_eq_ok {c : Catalog} {e : Entity} (he : e ∈ c.entities) {name : String}
    {v : Value} {m : Matcher} :
    compileBranch c e name v = .ok m ↔
      ∃ members, v = .object members ∧ compile c e.name members = .ok m := by
  cases v with
  | object members => simp [compileBranch, compile_of_mem he]
  | _ => simp [compileBranch]

theorem elementField?_orName (e : Entity) : elementField? e orName = none := by
  rw [elementField?, Option.map_eq_none_iff, Option.filter_eq_none_iff]
  intro o ho hop
  have hname : o.argument.name = orName := by simpa using List.find?_some ho
  have hl := congrArg String.length hname
  have hlong : orName.length < o.argument.op.suffix.length := by
    revert hop
    cases o.argument.op <;> decide
  rw [FilterArgument.name, String.length_append] at hl
  omega

theorem ne_orName_of_elementField? {e : Entity} {name field : String}
    (h : elementField? e name = some field) : name ≠ orName := by
  rintro rfl
  rw [elementField?_orName] at h
  cases h

section Arguments

variable {c : Catalog} {e : Entity}

def partOf (c : Catalog) (e : Entity) (a : String × Value) : Part :=
  match compileArgument c e a.1 a.2 with
  | .ok p => p
  | .error _ => .nothing

theorem compileArgument_eq_partOf {a : String × Value}
    (h : ∃ p, compileArgument c e a.1 a.2 = .ok p) :
    compileArgument c e a.1 a.2 = .ok (partOf c e a) := by
  obtain ⟨p, hp⟩ := h
  rw [partOf, hp]

theorem compile_isOk (he : e ∈ c.entities) {arguments : List (String × Value)} :
    (∃ m, compile c e.name arguments = .ok m) ↔
      ∀ a ∈ arguments, ∃ p, compileArgument c e a.1 a.2 = .ok p := by
  rw [compile_of_mem he, Traversal.map_isOk, compileArguments_eq_mapM, Traversal.mapM_isOk]

theorem compile_singleton_isOk (he : e ∈ c.entities) {a : String × Value} :
    (∃ m, compile c e.name [a] = .ok m) ↔ ∃ p, compileArgument c e a.1 a.2 = .ok p := by
  rw [compile_isOk he, List.forall_mem_singleton]

theorem compile_singleton_eq_error (he : e ∈ c.entities) {a : String × Value}
    {fault : FilterError} :
    compile c e.name [a] = .error fault ↔ compileArgument c e a.1 a.2 = .error fault := by
  rw [compile_of_mem he, Traversal.map_eq_error, compileArguments]
  cases compileArgument c e a.1 a.2 <;> simp [compileArguments, Except.map]

theorem compile_map (he : e ∈ c.entities) {α : Type} {argument : α → String × Value}
    {toPart : α → Part} {l : List α}
    (h : ∀ x ∈ l, compileArgument c e (argument x).1 (argument x).2 = .ok (toPart x)) :
    compile c e.name (l.map argument) = .ok (ofParts (l.map toPart)) := by
  have hparts : l.mapM ((fun a => compileArgument c e a.1 a.2) ∘ argument) = .ok (l.map toPart) :=
    Traversal.mapM_eq_ok_map h
  rw [compile_of_mem he, compileArguments_eq_mapM, List.mapM_map, hparts]
  rfl

theorem compile_eq_ofParts (he : e ∈ c.entities) {arguments : List (String × Value)}
    (h : ∀ a ∈ arguments, ∃ p, compileArgument c e a.1 a.2 = .ok p) :
    compile c e.name arguments = .ok (ofParts (arguments.map (partOf c e))) := by
  have hmap : compile c e.name (arguments.map id) = .ok (ofParts (arguments.map (partOf c e))) :=
    compile_map he fun a ha => compileArgument_eq_partOf (h a ha)
  rwa [List.map_id] at hmap

/-- The error of a filter is that of its first argument that fails. -/
theorem compile_eq_error (he : e ∈ c.entities) {arguments : List (String × Value)}
    (hs : (arguments.map Prod.fst).Pairwise (· < ·)) {fault : FilterError}
    (h : compile c e.name arguments = .error fault) :
    ∃ a ∈ arguments, compile c e.name [a] = .error fault ∧
      ∀ b ∈ arguments, b.1 < a.1 → ∃ m, compile c e.name [b] = .ok m := by
  rw [compile_of_mem he, Traversal.map_eq_error, compileArguments_eq_mapM] at h
  obtain ⟨before, a, after, rfl, ha, hb⟩ := Traversal.mapM_eq_error h
  refine ⟨a, by simp, (compile_singleton_eq_error he).mpr ha, fun b hm hlt => ?_⟩
  rw [List.map_append, List.map_cons, List.pairwise_append, List.pairwise_cons] at hs
  rw [compile_singleton_isOk he]
  rcases List.mem_append.mp hm with hm | hm
  · exact hb b hm
  · rcases List.mem_cons.mp hm with rfl | hm
    · exact (String.lt_irrefl _ hlt).elim
    · exact (String.lt_asymm hlt (hs.2.1.1 b.1 (List.mem_map_of_mem hm))).elim

theorem partOf_null {a : String × Value} (h : ∃ p, compileArgument c e a.1 a.2 = .ok p)
    (hv : a.2.isNull = true) : partOf c e a = .nothing := by
  obtain ⟨name, v⟩ := a
  cases v <;> cases hv
  exact (compileArgument_null_eq_ok (compileArgument_eq_partOf h)).2

theorem elementBound?_partOf {a : String × Value}
    (h : ∃ p, compileArgument c e a.1 a.2 = .ok p) {x : String × Bound}
    (hx : (partOf c e a).elementBound? = some x) :
    a.2.isNull = false ∧ elementField? e a.1 = some x.1 := by
  have hp := compileArgument_eq_partOf h
  cases hv : a.2.isNull with
  | true =>
    rw [partOf_null h hv] at hx
    cases hx
  | false =>
    by_cases hn : a.1 = orName
    · rw [hn] at hp
      obtain ⟨items, ms, -, -, he⟩ := compileArgument_or_eq_ok hp
      rw [he] at hx
      cases hx
    · have hs := (compileArgument_spec hn hv hp).1
      rw [hx] at hs
      exact ⟨rfl, hs.symm⟩

theorem exists_elementBound {a : String × Value} (h : ∃ p, compileArgument c e a.1 a.2 = .ok p)
    (hv : a.2.isNull = false) {field : String} (hf : elementField? e a.1 = some field) :
    ∃ b, partOf c e a = .elementBound field b := by
  have hn := ne_orName_of_elementField? hf
  have hs := (compileArgument_spec hn hv (compileArgument_eq_partOf h)).1
  rw [hf] at hs
  cases hp : partOf c e a with
  | elementBound f b =>
    rw [hp] at hs
    cases hs
    exact ⟨b, rfl⟩
  | _ =>
    rw [hp] at hs
    cases hs

theorem passes_of_elementField? {a : String × Value}
    (h : ∃ p, compileArgument c e a.1 a.2 = .ok p) {field : String}
    (hf : elementField? e a.1 = some field) {members : List (String × Value)} :
    (partOf c e a).Passes members := by
  cases hv : a.2.isNull with
  | true =>
    rw [partOf_null h hv]
    trivial
  | false =>
    obtain ⟨b, hb⟩ := exists_elementBound h hv hf
    rw [hb]
    trivial

theorem passes_of_eq_orName {a : String × Value}
    (h : ∃ p, compileArgument c e a.1 a.2 = .ok p) (hn : a.1 = orName)
    {members : List (String × Value)} : (partOf c e a).Passes members := by
  have hp := compileArgument_eq_partOf h
  rw [hn] at hp
  obtain ⟨items, ms, -, -, he⟩ := compileArgument_or_eq_ok hp
  rw [he]
  trivial

theorem matchers_partOf {a : String × Value} (h : ∃ p, compileArgument c e a.1 a.2 = .ok p)
    (hn : a.1 ≠ orName) : (partOf c e a).matchers = [] := by
  have hp := compileArgument_eq_partOf h
  cases hv : a.2.isNull with
  | true =>
    rw [partOf_null h hv]
    rfl
  | false => exact (compileArgument_spec hn hv hp).2

theorem mem_matchers_partOf (he : e ∈ c.entities) {v : Value}
    (h : ∃ p, compileArgument c e orName v = .ok p) :
    ∃ items, v = .array items ∧
      (∀ b ∈ items, ∃ members, b = .object members ∧ ∃ m ∈ (partOf c e (orName, v)).matchers,
        compile c e.name members = .ok m) ∧
      ∀ m ∈ (partOf c e (orName, v)).matchers, ∃ members, .object members ∈ items ∧
        compile c e.name members = .ok m := by
  obtain ⟨items, ms, rfl, hm, hp⟩ := compileArgument_or_eq_ok (compileArgument_eq_partOf
    (a := (orName, v)) h)
  rw [hp]
  refine ⟨items, rfl, fun b hb => ?_, fun m hmem => ?_⟩
  · obtain ⟨m, hmem, hbranch⟩ := Traversal.result_of_mem hm hb
    obtain ⟨members, rfl, hc⟩ := (compileBranch_eq_ok he).mp hbranch
    exact ⟨members, rfl, m, hmem, hc⟩
  · obtain ⟨b, hb, hbranch⟩ := Traversal.source_of_mem hm hmem
    obtain ⟨members, rfl, hc⟩ := (compileBranch_eq_ok he).mp hbranch
    exact ⟨members, hb, hc⟩

theorem eq_orName_of_mem_matchers {a : String × Value}
    (h : ∃ p, compileArgument c e a.1 a.2 = .ok p) {m : Matcher}
    (hm : m ∈ (partOf c e a).matchers) : a.1 = orName := by
  by_contra hn
  rw [matchers_partOf h hn] at hm
  cases hm

theorem matchers_partOf_ne_nil (he : e ∈ c.entities) {branches : List Value}
    (h : ∃ p, compileArgument c e orName (.array branches) = .ok p) :
    (∃ m, m ∈ (partOf c e (orName, .array branches)).matchers) ↔ branches ≠ [] := by
  obtain ⟨items, hitems, hsome, hall⟩ := mem_matchers_partOf he h
  cases hitems
  constructor
  · rintro ⟨m, hm⟩
    obtain ⟨members, hmembers, -⟩ := hall m hm
    exact List.ne_nil_of_mem hmembers
  · intro hne
    obtain ⟨b, hb⟩ := List.exists_mem_of_ne_nil branches hne
    obtain ⟨members, -, m, hm, -⟩ := hsome b hb
    exact ⟨m, hm⟩

theorem exists_matcher_accepts_iff (he : e ∈ c.entities) {branches : List Value}
    (h : ∃ p, compileArgument c e orName (.array branches) = .ok p) {d : Value} :
    (∃ m ∈ (partOf c e (orName, .array branches)).matchers, m.accepts d = true) ↔
      ∃ members, .object members ∈ branches ∧ Selects c e members d := by
  obtain ⟨items, hitems, hsome, hall⟩ := mem_matchers_partOf he h
  cases hitems
  constructor
  · rintro ⟨m, hm, hd⟩
    obtain ⟨members, hmembers, hc⟩ := hall m hm
    exact ⟨members, hmembers, m, hc, hd⟩
  · rintro ⟨members, hmembers, m, hc, hd⟩
    obtain ⟨members', hobj, m', hm', hc'⟩ := hsome _ hmembers
    cases hobj
    rw [hc] at hc'
    cases hc'
    exact ⟨m, hm', hd⟩

theorem selects_iff (he : e ∈ c.entities) {arguments : List (String × Value)}
    (h : ∀ a ∈ arguments, ∃ p, compileArgument c e a.1 a.2 = .ok p) {d : Value} :
    Selects c e arguments d ↔ (ofParts (arguments.map (partOf c e))).accepts d = true := by
  simp [Selects, compile_eq_ofParts he h]

theorem boundsOf_partOf {a : String × Value} (h : ∃ p, compileArgument c e a.1 a.2 = .ok p)
    {field : String} (hf : elementField? e a.1 ≠ some field) :
    boundsOf field [partOf c e a] = [] := by
  by_contra hne
  obtain ⟨p, hp, b, hb⟩ := boundsOf_ne_nil.mp hne
  rw [List.mem_singleton.mp hp] at hb
  exact hf (elementBound?_partOf h hb).2

theorem boundsOf_filter {arguments : List (String × Value)}
    (h : ∀ a ∈ arguments, ∃ p, compileArgument c e a.1 a.2 = .ok p) (field : String) :
    boundsOf field ((arguments.filter fun a => elementField? e a.1 = some field).map (partOf c e)) =
      boundsOf field (arguments.map (partOf c e)) := by
  induction arguments with
  | nil => rfl
  | cons a rest ih =>
    obtain ⟨ha, hrest⟩ := List.forall_mem_cons.mp h
    rw [List.map_cons, boundsOf_cons, ← ih hrest]
    by_cases hf : elementField? e a.1 = some field
    · rw [List.filter_cons_of_pos (by simpa using hf), List.map_cons, boundsOf_cons]
    · rw [List.filter_cons_of_neg (by simpa using hf), boundsOf_partOf ha hf, List.nil_append]

/-- An argument that is no bound and takes no alternatives selects what passes its part. -/
theorem selects_singleton (he : e ∈ c.entities) {a : String × Value}
    (h : ∃ p, compileArgument c e a.1 a.2 = .ok p) (hn : a.1 ≠ orName)
    (hf : elementField? e a.1 = none) {members : List (String × Value)} :
    Selects c e [a] (.object members) ↔ (partOf c e a).Passes members := by
  have hb (field : String) : boundsOf field [partOf c e a] = [] :=
    boundsOf_partOf h (by rw [hf]; simp)
  rw [selects_iff he (List.forall_mem_singleton.mpr h), List.map_singleton, accepts_ofParts]
  simp [hb, matchers_partOf h hn]

/-- The bounds of a field select what has an element that meets all of them. -/
theorem selects_bounds (he : e ∈ c.entities) {arguments : List (String × Value)}
    (h : ∀ a ∈ arguments, ∃ p, compileArgument c e a.1 a.2 = .ok p) (field : String)
    {members : List (String × Value)} :
    Selects c e (arguments.filter fun a => elementField? e a.1 = some field) (.object members) ↔
      (boundsOf field (arguments.map (partOf c e)) ≠ [] →
        (Test.elementMatch (boundsOf field (arguments.map (partOf c e)))).holdsOf
          (Value.stored? field members) = true) := by
  have hown {a : String × Value}
      (ha : a ∈ arguments.filter fun a => elementField? e a.1 = some field) :
      (∃ p, compileArgument c e a.1 a.2 = .ok p) ∧ elementField? e a.1 = some field := by
    rw [List.mem_filter, decide_eq_true_iff] at ha
    exact ⟨h a ha.1, ha.2⟩
  rw [selects_iff he fun a ha => (hown ha).1, accepts_ofParts]
  constructor
  · rintro ⟨-, hb, -⟩
    have hfield := hb field
    rwa [boundsOf_filter h] at hfield
  · intro hb
    refine ⟨?_, ?_, ?_⟩
    · intro p hp
      obtain ⟨a, ha, rfl⟩ := List.mem_map.mp hp
      exact passes_of_elementField? (hown ha).1 (hown ha).2
    · intro g hg
      -- Only arguments for `field` are left, so these are its bounds.
      obtain ⟨p, hp, b, hpb⟩ := boundsOf_ne_nil.mp hg
      obtain ⟨a, ha, rfl⟩ := List.mem_map.mp hp
      have hfield : field = g := by
        rw [← Option.some.injEq, ← (hown ha).2]
        exact (elementBound?_partOf (hown ha).1 hpb).2
      rw [← hfield, boundsOf_filter h] at hg ⊢
      exact hb hg
    · intro hm
      refine (hm ?_).elim
      rw [List.flatMap_map, List.flatMap_eq_nil_iff]
      intro a ha
      exact matchers_partOf (hown ha).1 (ne_orName_of_elementField? (hown ha).2)

/-- Of arguments with distinct names at most one takes alternatives. -/
theorem accepts_alternatives (he : e ∈ c.entities) {arguments : List (String × Value)}
    (hs : (arguments.map Prod.fst).Nodup)
    (h : ∀ a ∈ arguments, ∃ p, compileArgument c e a.1 a.2 = .ok p) {d : Value} :
    ((arguments.map (partOf c e)).flatMap Part.matchers ≠ [] →
        ∃ m ∈ (arguments.map (partOf c e)).flatMap Part.matchers, m.accepts d = true) ↔
      ∀ branches, (orName, .array branches) ∈ arguments → branches ≠ [] →
        ∃ members, .object members ∈ branches ∧ Selects c e members d := by
  simp only [List.flatMap_map, List.mem_flatMap]
  constructor
  · intro hm branches hbranches hne
    obtain ⟨m₀, hm₀⟩ := (matchers_partOf_ne_nil he (h _ hbranches)).mpr hne
    obtain ⟨m, ⟨a, ha, hma⟩, hd⟩ :=
      hm (List.ne_nil_of_mem (List.mem_flatMap.mpr ⟨_, hbranches, hm₀⟩))
    -- Names are distinct, so the matcher belongs to these branches.
    obtain rfl : a = (orName, .array branches) :=
      List.inj_on_of_nodup_map hs ha hbranches (eq_orName_of_mem_matchers (h a ha) hma)
    exact (exists_matcher_accepts_iff he (h _ hbranches)).mp ⟨m, hma, hd⟩
  · intro hbranches hne
    obtain ⟨m, hm⟩ := List.exists_mem_of_ne_nil _ hne
    obtain ⟨⟨name, v⟩, ha, hma⟩ := List.mem_flatMap.mp hm
    obtain rfl : name = orName := eq_orName_of_mem_matchers (h _ ha) hma
    obtain ⟨branches, rfl, -, -⟩ := mem_matchers_partOf he (h _ ha)
    have hsome := hbranches branches ha ((matchers_partOf_ne_nil he (h _ ha)).mp ⟨m, hma⟩)
    obtain ⟨m', hm', hd⟩ := (exists_matcher_accepts_iff he (h _ ha)).mpr hsome
    exact ⟨m', ⟨_, ha, hm'⟩, hd⟩

/-- Compiled arguments accept what their parts select: every argument that is given and is no bound
on its own, the bounds of every field together, and some alternative if there are any. -/
theorem accepts_iff (he : e ∈ c.entities) {arguments : List (String × Value)}
    (hs : (arguments.map Prod.fst).Nodup) {m : Matcher}
    (hm : compile c e.name arguments = .ok m) {d : Value} :
    m.accepts d = true ↔
      (∃ members, d = .object members) ∧
        (∀ a ∈ arguments, a.2.isNull = false → a.1 ≠ orName → elementField? e a.1 = none →
          Selects c e [a] d) ∧
        (∀ field, (∃ a ∈ arguments, a.2.isNull = false ∧ elementField? e a.1 = some field) →
          Selects c e (arguments.filter fun a => elementField? e a.1 = some field) d) ∧
        ∀ branches, (orName, .array branches) ∈ arguments → branches ≠ [] →
          ∃ members, .object members ∈ branches ∧ Selects c e members d := by
  have h := (compile_isOk he).mp ⟨m, hm⟩
  rw [compile_eq_ofParts he h] at hm
  cases hm
  rw [← accepts_alternatives he hs h]
  constructor
  · intro hd
    obtain ⟨members, rfl⟩ := eq_object_of_accepts hd
    obtain ⟨hp, hb, ha⟩ := accepts_ofParts.mp hd
    refine ⟨⟨members, rfl⟩, ?_, fun field _ => (selects_bounds he h field).mpr (hb field), ha⟩
    intro a harg _ hn hf
    exact (selects_singleton he (h a harg) hn hf).mpr (hp _ (List.mem_map_of_mem harg))
  · rintro ⟨⟨members, rfl⟩, hp, hb, ha⟩
    refine accepts_ofParts.mpr ⟨?_, ?_, ha⟩
    · intro p hmem
      obtain ⟨a, harg, rfl⟩ := List.mem_map.mp hmem
      cases hv : a.2.isNull with
      | true =>
        rw [partOf_null (h a harg) hv]
        trivial
      | false =>
        by_cases hn : a.1 = orName
        · exact passes_of_eq_orName (h a harg) hn
        · cases hf : elementField? e a.1 with
          | some field => exact passes_of_elementField? (h a harg) hf
          | none => exact (selects_singleton he (h a harg) hn hf).mp (hp a harg hv hn hf)
    · intro field hne
      obtain ⟨p, hmem, b, hpb⟩ := boundsOf_ne_nil.mp hne
      obtain ⟨a, harg, rfl⟩ := List.mem_map.mp hmem
      have hbound := elementBound?_partOf (h a harg) hpb
      exact (selects_bounds he h field).mp (hb field ⟨a, harg, hbound⟩) hne

/-- A filter is the conjunction of its parts. It compiles when each of its arguments does, and its
error is that of the first one in the order of names that fails. It accepts an object when every
argument that is given accepts it, the bounds for the elements of a field being taken together, and
one of the alternatives does, if there are any. -/
theorem compile_conjunction (he : e ∈ c.entities) {arguments : List (String × Value)}
    (hs : (arguments.map Prod.fst).Pairwise (· < ·)) :
    ((∃ m, compile c e.name arguments = .ok m) ↔
        ∀ a ∈ arguments, ∃ m, compile c e.name [a] = .ok m) ∧
      (∀ fault, compile c e.name arguments = .error fault →
        ∃ a ∈ arguments, compile c e.name [a] = .error fault ∧
          ∀ b ∈ arguments, b.1 < a.1 → ∃ m, compile c e.name [b] = .ok m) ∧
      ∀ m, compile c e.name arguments = .ok m → ∀ d, (m.accepts d = true ↔
        (∃ members, d = .object members) ∧
          (∀ a ∈ arguments, a.2.isNull = false → a.1 ≠ orName → elementField? e a.1 = none →
            Selects c e [a] d) ∧
          (∀ field, (∃ a ∈ arguments, a.2.isNull = false ∧ elementField? e a.1 = some field) →
            Selects c e (arguments.filter fun a => elementField? e a.1 = some field) d) ∧
          ∀ branches, (orName, .array branches) ∈ arguments → branches ≠ [] →
            ∃ members, .object members ∈ branches ∧ Selects c e members d) := by
  have hdistinct : (arguments.map Prod.fst).Nodup := by
    refine hs.imp ?_
    rintro a _ hlt rfl
    exact String.lt_irrefl a hlt
  refine ⟨?_, fun fault hf => compile_eq_error he hs hf, fun m hm d => accepts_iff he hdistinct hm⟩
  rw [compile_isOk he]
  exact forall₂_congr fun a _ => (compile_singleton_isOk he).symm

end Arguments

theorem library_conjunction :
    (([("editions_emgt", .number (.int 3)), ("editions_emlt", .number (.int 7)),
        ("title", .null)] : List (String × Value)).map Prod.fst).Pairwise (· < ·) ∧
      Selects .library .book
        [("editions_emgt", .number (.int 3)), ("editions_emlt", .number (.int 7))]
        (.object [("editions", .array [.number (.int 1), .number (.int 5)])]) := by
  -- The arguments as a request may write them; reading puts them in the order of names.
  have hread : Value.ofJson? (.object [("title", .null), ("editions_emlt", .number (.int 7)),
      ("editions_emgt", .number (.int 3))]) =
      some (.object [("editions_emgt", .number (.int 3)), ("editions_emlt", .number (.int 7)),
        ("title", .null)]) := rfl
  have hs := Value.pairwise_of_ofJson? hread
  have he : Entity.book ∈ Catalog.library.entities := List.mem_cons_self
  obtain ⟨-, -, haccepts⟩ := compile_conjunction he hs
  obtain ⟨-, -, hbounds, -⟩ := (haccepts _ rfl
    (.object [("editions", .array [.number (.int 1), .number (.int 5)])])).mp (by decide)
  exact ⟨hs, hbounds "editions" ⟨_, List.mem_cons_self, rfl, rfl⟩⟩

end Filter

end DocumentSchema
