import DocumentSchema.Proofs.Filter.Conjunction
import DocumentSchema.Proofs.Filter.Declared
import DocumentSchema.Proofs.Value

/-!
# Indistinguishable documents

Filters of an entity know its fields, and those of what the fields embed. They
match both of two documents, or neither, when these agree on what is known.
-/
namespace DocumentSchema

mutual

/-- Two values in which an entity's filters know the same: neither is an object, or they agree on
every field that can be filtered by. -/
inductive Indistinguishable (c : Catalog) : Entity → Value → Value → Prop
  | others {e : Entity} {v w : Value} (hv : ∀ members, v ≠ .object members)
    (hw : ∀ members, w ≠ .object members) : Indistinguishable c e v w
  | objects {e : Entity} {ms ns : List (String × Value)}
    (h : ∀ f ∈ e.fields.entries, f.2.isFilterable = true →
      Agree c f.2 (Value.stored? f.1 ms) (Value.stored? f.1 ns)) :
    Indistinguishable c e (.object ms) (.object ns)

/-- What two documents store for a field of a descriptor, as far as filters know: nothing, the same
value, or embedded documents that are indistinguishable one by one. -/
inductive Agree (c : Catalog) : Descriptor → Option Value → Option Value → Prop
  | missing {d : Descriptor} : Agree c d none none
  | same {d : Descriptor} {v w : Value} (hd : d.target? = none) (h : v.same w = true) :
    Agree c d (some v) (some w)
  | document {d : Descriptor} {t : Entity} {v w : Value} (ht : t ∈ c.entities)
    (hd : d.target? = some t.name) (hv : ∀ items, v ≠ .array items)
    (hw : ∀ items, w ≠ .array items) (h : Indistinguishable c t v w) :
    Agree c d (some v) (some w)
  | documents {d : Descriptor} {t : Entity} {vs ws : List Value} (ht : t ∈ c.entities)
    (hd : d.target? = some t.name) (hl : vs.length = ws.length)
    (h : ∀ x ∈ vs.zip ws, Indistinguishable c t x.1 x.2) :
    Agree c d (some (.array vs)) (some (.array ws))

end

variable {c : Catalog}

def Entity.IsPlain (e : Entity) (field : String) : Prop :=
  ∃ d, (field, d) ∈ e.fields.entries ∧ d.isFilterable = true ∧ d.target? = none

/-- A matcher that accepts both of two documents that are indistinguishable, or neither. -/
def Matcher.Blind (c : Catalog) (e : Entity) (m : Matcher) : Prop :=
  ∀ ⦃v w : Value⦄, Indistinguishable c e v w → m.accepts v = m.accepts w

namespace Agree

variable {d : Descriptor} {x y : Option Value}

theorem of_eq (hd : d.target? = none) (v : Value) : Agree c d (some v) (some v) :=
  .same hd v.same_refl

theorem holdsOf (h : Agree c d x y) (hd : d.target? = none) (t : Test) :
    t.holdsOf x = t.holdsOf y := by
  cases h with
  | missing => rfl
  | same _ h => exact t.holds_congr h
  | document _ ht _ _ _ | documents _ ht _ _ =>
    rw [hd] at ht
    cases ht

theorem count (h : Agree c d x y) (n : Nat) :
    (Test.count n).holdsOf x = (Test.count n).holdsOf y := by
  have hnone {v : Value} (hv : ∀ items, v ≠ .array items) :
      (Test.count n).holdsOf (some v) = false := by
    cases v with
    | array items => exact (hv items rfl).elim
    | _ => rfl
  cases h with
  | missing => rfl
  | same _ h => exact (Test.count n).holds_congr h
  | document _ _ hv hw _ => rw [hnone hv, hnone hw]
  | documents _ _ hl _ => simp only [Test.holdsOf, Test.holds, hl]

theorem anyValue (h : Agree c d x y) {t : Entity} (ht : t ∈ c.entities)
    (hd : d.target? = some t.name) {m : Matcher} (hm : m.Blind c t) :
    (∃ v, x = some v ∧ v.anyValue m.accepts = true) ↔
      ∃ v, y = some v ∧ v.anyValue m.accepts = true := by
  have htarget {t' : Entity} (ht' : t' ∈ c.entities) (hd' : d.target? = some t'.name) : t' = t := by
    rw [hd, Option.some.injEq] at hd'
    exact Catalog.eq_of_name_eq ht' ht hd'.symm
  cases h with
  | missing => rfl
  | same hnone _ =>
    rw [hd] at hnone
    cases hnone
  | document ht' hd' hv hw h =>
    rw [htarget ht' hd'] at h
    simp only [Option.some.injEq, exists_eq_left', Value.anyValue_of_ne hv,
      Value.anyValue_of_ne hw, hm h]
  | documents ht' hd' hl h =>
    rw [htarget ht' hd'] at h
    simp only [Option.some.injEq, exists_eq_left', Value.anyValue]
    rw [any_congr_of_forall₂ (fun v w hvw => hm hvw) (List.forall₂_iff_zip.mpr ⟨hl, h _⟩)]

end Agree

theorem Indistinguishable.stored {e : Entity} {ms ns : List (String × Value)}
    (h : Indistinguishable c e (.object ms) (.object ns)) {field : String} {d : Descriptor}
    (hf : (field, d) ∈ e.fields.entries) (hd : d.isFilterable = true) :
    Agree c d (Value.stored? field ms) (Value.stored? field ns) := by
  cases h with
  | others hv _ => exact (hv ms rfl).elim
  | objects h => exact h _ hf hd

namespace Filter

/-- A part that asks nothing but what an entity's filters know. -/
structure Part.Blind (c : Catalog) (e : Entity) (p : Part) : Prop where
  passes : ∀ ms ns, Indistinguishable c e (.object ms) (.object ns) →
    (p.Passes ms ↔ p.Passes ns)
  bound : ∀ x, p.elementBound? = some x → e.IsPlain x.1
  matchers : ∀ m ∈ p.matchers, m.Blind c e

section Parts

variable {e : Entity}

theorem blind_ofParts {parts : List Part} (h : ∀ p ∈ parts, p.Blind c e) :
    (ofParts parts).Blind c e := by
  intro v w hvw
  have hnone {u : Value} (hu : ∀ members, u ≠ .object members) :
      (ofParts parts).accepts u = false := by
    rw [Bool.eq_false_iff]
    intro haccepts
    obtain ⟨members, rfl⟩ := eq_object_of_accepts haccepts
    exact hu members rfl
  cases hvw with
  | others hv hw => rw [hnone hv, hnone hw]
  | @objects _ ms ns hfields =>
    have hvw : Indistinguishable c e (.object ms) (.object ns) := .objects hfields
    rw [Bool.eq_iff_iff, accepts_ofParts, accepts_ofParts]
    refine and_congr (forall₂_congr fun p hp => (h p hp).passes ms ns hvw) (and_congr ?_ ?_)
    · refine forall₂_congr fun field hb => ?_
      -- A field that has bounds embeds nothing, so no test of it can tell the documents apart.
      obtain ⟨p, hp, b, hb⟩ := boundsOf_ne_nil.mp hb
      obtain ⟨d, hf, hd, ht⟩ := (h p hp).bound _ hb
      rw [(hvw.stored hf hd).holdsOf ht]
    · refine imp_congr_right fun _ => exists_congr fun m => and_congr_right fun hm => ?_
      obtain ⟨p, hp, hm⟩ := List.mem_flatMap.mp hm
      rw [(h p hp).matchers m hm hvw]

theorem blind_nothing : Part.nothing.Blind c e := ⟨fun _ _ _ => .rfl, nofun, nofun⟩

theorem blind_alternatives {ms : List Matcher} (h : ∀ m ∈ ms, m.Blind c e) :
    (Part.alternatives ms).Blind c e := ⟨fun _ _ _ => .rfl, nofun, h⟩

theorem blind_test {field : String} {t : Test} (h : ∀ ms ns,
      Indistinguishable c e (.object ms) (.object ns) →
        t.holdsOf (Value.stored? field ms) = t.holdsOf (Value.stored? field ns)) :
    (Part.test field t).Blind c e := by
  refine ⟨fun ms ns hvw => ?_, nofun, nofun⟩
  rw [Part.Passes, Part.Passes, h ms ns hvw]

theorem blind_elementBound {field : String} {b : Bound} (h : e.IsPlain field) :
    (Part.elementBound field b).Blind c e := by
  refine ⟨fun _ _ _ => .rfl, fun x hx => ?_, nofun⟩
  cases hx
  exact h

theorem blind_of_asks {name : String} {o : Offer} (ho : offer? e name = some o) {p : Part}
    (h : Asks o.argument p) : p.Blind c e := by
  obtain ⟨hf, block, hblock, hx⟩ := block_of_offer? ho
  have hd := FilterBlock.isFilterable_of_mem hblock hx
  have hcount (hn : o.argument.op ≠ .nested) (ht : o.descriptor.target? ≠ none) :
      o.argument.op = .count := by
    obtain ⟨t, ht⟩ := Option.ne_none_iff_exists'.mp ht
    exact (FilterBlock.op_of_target ht hblock hx).resolve_right hn
  cases h with
  | nothing => exact blind_nothing
  | test t _ hn hc =>
    refine blind_test fun ms ns hvw => ?_
    have hagree := hvw.stored hf hd
    -- Of embedded documents only the number is asked for here.
    by_cases ht : o.descriptor.target? = none
    · exact hagree.holdsOf ht t
    · obtain ⟨n, rfl⟩ := hc (hcount hn ht)
      exact hagree.count n
  | elementBound b hb =>
    have hn : o.argument.op ≠ .nested := fun hn => by
      rw [hn] at hb
      cases hb
    refine blind_elementBound ⟨o.descriptor, hf, hd, ?_⟩
    by_contra ht
    rw [hcount hn ht] at hb
    cases hb

theorem blind_embedded {name : String} {o : Offer} (ho : offer? e name = some o) {t : Entity}
    (ht : t ∈ c.entities) (hd : o.descriptor.target? = some t.name) {m : Matcher}
    (hm : m.Blind c t) : (Part.embedded o.argument.field m).Blind c e := by
  obtain ⟨hf, block, hblock, hx⟩ := block_of_offer? ho
  refine ⟨fun ms ns hvw => ?_, nofun, nofun⟩
  exact (hvw.stored hf (FilterBlock.isFilterable_of_mem hblock hx)).anyValue ht hd hm

end Parts

/-- What is shown of a value by induction: what it compiles to as an argument of any entity, and as
the arguments of one, is blind. -/
structure CompilesBlind (c : Catalog) (v : Value) : Prop where
  argument : ∀ e name p, compileArgument c e name v = .ok p → p.Blind c e
  arguments : ∀ e members parts, v = .object members →
    compileArguments c e members = .ok parts → (ofParts parts).Blind c e

section Arguments

variable {e : Entity}

theorem blind_compileArguments {members : List (String × Value)}
    (h : ∀ m ∈ members, CompilesBlind c m.2) {parts : List Part}
    (hp : compileArguments c e members = .ok parts) : (ofParts parts).Blind c e := by
  rw [compileArguments_eq_mapM] at hp
  refine blind_ofParts fun p hmem => ?_
  obtain ⟨m, hm, hpart⟩ := Traversal.source_of_mem hp hmem
  exact (h m hm).argument e m.1 p hpart

theorem blind_compileBranches {items : List Value} (h : ∀ i ∈ items, CompilesBlind c i)
    {name : String} {ms : List Matcher} (hm : items.mapM (compileBranch c e name) = .ok ms) :
    ∀ m ∈ ms, m.Blind c e := by
  intro m hmem
  obtain ⟨i, hi, hbranch⟩ := Traversal.source_of_mem hm hmem
  cases i with
  | object members =>
    obtain ⟨parts, hparts, rfl⟩ := Traversal.map_eq_ok.mp hbranch
    exact (h _ hi).arguments e members parts rfl hparts
  | _ => cases hbranch

theorem blind_compileOffer {name : String} {o : Offer} (ho : offer? e name = some o) {v : Value}
    (h : ∀ t members parts, v = .object members →
      compileArguments c t members = .ok parts → (ofParts parts).Blind c t)
    {p : Part} (hp : compileOffer c name o v = .ok p) : p.Blind c e := by
  rcases compileOffer_eq_ok hp with
    hasks | ⟨-, members, target, t, parts, hv, htarget, hget, hparts, rfl⟩
  · exact blind_of_asks ho hasks
  · obtain ⟨ht, rfl⟩ := Catalog.mem_of_get? hget
    exact blind_embedded ho ht htarget (h t members parts hv hparts)

theorem compilesBlind (v : Value) : CompilesBlind c v := by
  induction v using Value.insideInduction with
  | inside v hitems hmembers =>
    have harguments (e : Entity) (members : List (String × Value)) (parts : List Part)
        (hv : v = .object members) (hp : compileArguments c e members = .ok parts) :
        (ofParts parts).Blind c e := blind_compileArguments (hmembers members hv) hp
    refine ⟨fun e name p hp => ?_, harguments⟩
    by_cases hn : name = orName
    · rw [hn] at hp
      obtain ⟨items, ms, hv, hm, rfl⟩ := compileArgument_or_eq_ok hp
      exact blind_alternatives (blind_compileBranches (hitems items hv) hm)
    · cases hv : v.isNull with
      | true =>
        cases v <;> cases hv
        rw [(compileArgument_null_eq_ok hp).2]
        exact blind_nothing
      | false =>
        rw [compileArgument_of_ne hn hv, Traversal.bind_eq_ok] at hp
        obtain ⟨o, ho, hp⟩ := hp
        exact blind_compileOffer (takeUp_eq_ok.mp ho).1 harguments hp

/-- A filter matches both of two documents that are indistinguishable for its entity, or neither. -/
theorem accepts_eq_of_indistinguishable (he : e ∈ c.entities)
    {arguments : List (String × Value)} {m : Matcher} (hm : compile c e.name arguments = .ok m)
    {v w : Value} (h : Indistinguishable c e v w) : m.accepts v = m.accepts w := by
  rw [compile_of_mem he] at hm
  obtain ⟨parts, hparts, rfl⟩ := Traversal.map_eq_ok.mp hm
  exact (compilesBlind (.object arguments)).arguments e arguments parts rfl hparts h

end Arguments

def annotatedEmma : Value := .object
  [("authors", .array [.object [("age", .number (.int 41)), ("name", .string "Jane Austen")]]),
    ("pages", .null), ("shape", .string "round"), ("title", .string "Emma")]

def relatedEmma : Value := .object
  [("authors", .array [.object [("name", .string "Jane Austen")]]), ("related", .array []),
    ("title", .string "Emma")]

theorem indistinguishable_emma : Indistinguishable .library .book annotatedEmma relatedEmma := by
  have hauthor : Indistinguishable .library .author
      (.object [("age", .number (.int 41)), ("name", .string "Jane Austen")])
      (.object [("name", .string "Jane Austen")]) := by
    refine .objects fun f hf _ => ?_
    simp only [Entity.author, List.mem_cons, List.not_mem_nil, or_false] at hf
    rcases hf with rfl | rfl
    · exact .of_eq rfl _
    · exact .missing
  refine .objects fun f hf hd => ?_
  simp only [Entity.book, List.mem_cons, List.not_mem_nil, or_false] at hf
  rcases hf with rfl | rfl | rfl | rfl | rfl | rfl | rfl
  · exact .missing
  · exact .of_eq rfl _
  · exact .missing
  · exact .missing
  · exact .missing
  · cases hd
  · exact .documents (t := .author) (List.mem_cons_of_mem _ List.mem_cons_self) rfl rfl
      (List.forall_mem_singleton.mpr hauthor)

theorem library_books_alike :
    Entity.book ∈ Catalog.library.entities ∧ ∃ m,
      compile .library "Book"
        [("OR", .array [.object [("pages_ne", .number (.int 100))]]),
          ("authors", .object [("latest_count", .null), ("name_startsWith", .string "Jane")]),
          ("authors_count", .number (.int 1))] = .ok m ∧
      Indistinguishable .library .book annotatedEmma relatedEmma ∧
      m.accepts annotatedEmma = m.accepts relatedEmma := by
  have he : Entity.book ∈ Catalog.library.entities := List.mem_cons_self
  obtain ⟨m, hm⟩ : ∃ m, compile .library Entity.book.name
      [("OR", .array [.object [("pages_ne", .number (.int 100))]]),
        ("authors", .object [("latest_count", .null), ("name_startsWith", .string "Jane")]),
        ("authors_count", .number (.int 1))] = .ok m := ⟨_, rfl⟩
  exact ⟨he, m, hm, indistinguishable_emma,
    accepts_eq_of_indistinguishable he hm indistinguishable_emma⟩

end Filter

end DocumentSchema
