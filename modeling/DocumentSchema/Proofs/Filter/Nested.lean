import DocumentSchema.Proofs.Filter.OwnArguments

/-!
# Filters for embedded documents

An argument for an embedded document stands for the arguments of the target, and
accepts an object that holds such a document. Both step down one level at a
time, in a path that may come back to an entity any number of times.
-/
namespace DocumentSchema

/-- A field for documents of a target, one or many, whose name no other field generates. -/
structure Entity.Embeds (e : Entity) (field target : String) : Prop where
  mem : (field, .object target) ∈ e.fields.entries ∨
    (field, .objectArray target) ∈ e.fields.entries
  ne_or : field ≠ Filter.orName
  own : e.OwnsName field ""

theorem FilterBlock.exists_nested {d : Descriptor} {target : String} (hd : d.target? = some target) :
    ∃ block, ofDescriptor? d = some block ∧ (.nested, .filters target) ∈ block := by
  cases d <;> cases hd <;> exact ⟨_, rfl, by simp⟩

/-- A document holds a value under a field, itself or as an element of an array. -/
def Value.Holds (field : String) (document v : Value) : Prop :=
  ∃ members stored, document = .object members ∧ member? field members = some stored ∧
    stored.isNull = false ∧
      ((∃ items, stored = .array items ∧ v ∈ items) ∨
        (∀ items, stored ≠ .array items) ∧ v = stored)

def Value.HoldsAt : List String → Value → Value → Prop
  | [], document, v => v = document
  | field :: path, document, v => ∃ u, Holds field document u ∧ HoldsAt path u v

theorem Value.exists_holds {field : String} {members : List (String × Value)}
    {accept : Value → Bool} :
    (∃ v, Holds field (.object members) v ∧ accept v = true) ↔
      ∃ stored, stored? field members = some stored ∧ stored.anyValue accept = true := by
  constructor
  · rintro ⟨v, ⟨_, stored, ⟨⟩, hm, hnull, hv⟩, ha⟩
    refine ⟨stored, Option.filter_eq_some_iff.mpr ⟨hm, by simp [hnull]⟩, ?_⟩
    rcases hv with ⟨items, rfl, hv⟩ | ⟨hne, rfl⟩
    · exact List.any_eq_true.mpr ⟨v, hv, ha⟩
    · rwa [anyValue_of_ne hne]
  · rintro ⟨stored, hs, ha⟩
    obtain ⟨hm, hnull⟩ := Option.filter_eq_some_iff.mp hs
    have hnull : stored.isNull = false := by simpa using hnull
    by_cases hitems : ∃ items, stored = .array items
    · obtain ⟨items, rfl⟩ := hitems
      obtain ⟨v, hv, ha⟩ := List.any_eq_true.mp ha
      exact ⟨v, ⟨members, _, rfl, hm, hnull, .inl ⟨items, rfl, hv⟩⟩, ha⟩
    · have hne : ∀ items, stored ≠ .array items := by simpa using hitems
      rw [anyValue_of_ne hne] at ha
      exact ⟨stored, ⟨members, _, rfl, hm, hnull, .inr ⟨hne, rfl⟩⟩, ha⟩

namespace Filter

/-- The filter for `arguments` stands for the one for `inner` in the documents that are held. -/
structure Delegates (c : Catalog) (entity : String) (arguments : List (String × Value))
    (target : String) (inner : List (String × Value)) (holds : Value → Value → Prop) : Prop where
  compiles : (∃ m, compile c entity arguments = .ok m) ↔ ∃ n, compile c target inner = .ok n
  fails : ∀ fault, compile c entity arguments = .error fault ↔ compile c target inner = .error fault
  accepts : ∀ m n, compile c entity arguments = .ok m → compile c target inner = .ok n →
    ∀ document, m.accepts document = true ↔ ∃ v, holds document v ∧ n.accepts v = true

/-- A path of fields from one entity to another. The last one need not be in the catalog. -/
inductive Leads (c : Catalog) : String → List String → String → Prop
  | here (entity : String) : Leads c entity [] entity
  | step {e : Entity} {field target last : String} {path : List String} (he : e ∈ c.entities)
      (h : e.Embeds field target) (rest : Leads c target path last) :
      Leads c e.name (field :: path) last

def nestedAt (path : List String) (arguments : List (String × Value)) : List (String × Value) :=
  path.foldr (fun field inner => [(field, .object inner)]) arguments

section Field

variable {c : Catalog} {e : Entity} {field target : String}

theorem offer?_of_embeds (h : e.Embeds field target) :
    ∃ d : Descriptor, d.target? = some target ∧
      offer? e field = some ⟨⟨field, .nested, .filters target⟩, d⟩ := by
  obtain ⟨d, hd, htarget⟩ : ∃ d : Descriptor,
      (field, d) ∈ e.fields.entries ∧ d.target? = some target := by
    rcases h.mem with hd | hd
    · exact ⟨_, hd, rfl⟩
    · exact ⟨_, hd, rfl⟩
  obtain ⟨block, hblock, hx⟩ := FilterBlock.exists_nested htarget
  have hown := offer?_of_ownsName hd hblock hx h.own
  rw [FilterOp.suffix, String.append_empty] at hown
  exact ⟨d, htarget, hown⟩

def embedded (field : String) (n : Matcher) : Matcher := ofParts [.embedded field n]

theorem compileArgument_nested {d : Descriptor} (hn : field ≠ orName)
    (ho : offer? e field = some ⟨⟨field, .nested, .filters target⟩, d⟩)
    (htarget : d.target? = some target) (inner : List (String × Value)) :
    compileArgument c e field (.object inner) =
      (compile c target inner).map (.embedded field) := by
  have hdate : d.isDate = false := by cases d <;> cases htarget <;> rfl
  rw [compileArgument_of_offer? hn rfl ho (check_eq_ok.mpr ⟨rfl, by simp [hdate]⟩)]
  simp only [compileOffer, if_pos, htarget, compile]
  cases c.get? target with
  | none => rfl
  | some t =>
    dsimp only
    cases compileArguments c t inner <;> rfl

theorem compile_embedded (he : e ∈ c.entities) (h : e.Embeds field target)
    (inner : List (String × Value)) :
    compile c e.name [(field, .object inner)] = (compile c target inner).map (embedded field) := by
  obtain ⟨d, htarget, hoffer⟩ := offer?_of_embeds h
  rw [compile_of_mem he, compileArguments, compileArgument_nested h.ne_or hoffer htarget]
  cases compile c target inner <;> rfl

theorem accepts_embedded (n : Matcher) (document : Value) :
    (embedded field n).accepts document = true ↔
      ∃ v, Value.Holds field document v ∧ n.accepts v = true := by
  cases document with
  | object members =>
    rw [Value.exists_holds]
    simp [embedded, accepts_ofParts, Part.Passes, boundsOf, Part.elementBound?, Part.matchers]
  | _ => simp [Value.Holds, embedded, ofParts_eq, Matcher.accepts]

theorem delegates_of_embeds (he : e ∈ c.entities) (h : e.Embeds field target)
    (inner : List (String × Value)) :
    Delegates c e.name [(field, .object inner)] target inner (Value.Holds field) := by
  have hcompile := compile_embedded he h inner
  refine ⟨?_, fun fault => ?_, fun m n hm hn document => ?_⟩
  · rw [hcompile, Traversal.map_isOk]
  · rw [hcompile, Traversal.map_eq_error]
  · rw [hcompile, hn] at hm
    cases hm
    exact accepts_embedded n document

end Field

namespace Delegates

variable {c : Catalog} {a b d : String} {as bs ds : List (String × Value)}
  {r s : Value → Value → Prop}

theorem refl (c : Catalog) (a : String) (as : List (String × Value)) :
    Delegates c a as a as fun document v => v = document := by
  refine ⟨Iff.rfl, fun _ => Iff.rfl, fun m n hm hn document => ?_⟩
  rw [hm, Except.ok.injEq] at hn
  simp [hn]

theorem trans (h : Delegates c a as b bs r) (h' : Delegates c b bs d ds s) :
    Delegates c a as d ds fun document v => ∃ u, r document u ∧ s u v := by
  refine ⟨h.compiles.trans h'.compiles, fun fault => (h.fails fault).trans (h'.fails fault),
    fun m n hm hn document => ?_⟩
  obtain ⟨k, hk⟩ := h.compiles.mp ⟨m, hm⟩
  simp only [h.accepts m k hm hk, h'.accepts k n hk hn]
  constructor
  · rintro ⟨u, hu, v, hv, ha⟩
    exact ⟨v, ⟨u, hu, hv⟩, ha⟩
  · rintro ⟨v, ⟨u, hu, hv⟩, ha⟩
    exact ⟨u, hu, v, hv, ha⟩

end Delegates

theorem delegates_nestedAt {c : Catalog} {a b : String} {path : List String} (h : Leads c a path b)
    (inner : List (String × Value)) :
    Delegates c a (nestedAt path inner) b inner (Value.HoldsAt path) := by
  induction h with
  | here => exact .refl c _ inner
  | step he h _ ih => exact (delegates_of_embeds he h _).trans ih

/-- A filter for embedded documents compiles exactly when the arguments of the target do, with the
same error otherwise, and accepts the documents that hold one the target's filter accepts. The same
is so for filters at the end of any path of such fields. -/
theorem nested_filters_delegate (c : Catalog) :
    (∀ e ∈ c.entities, ∀ field target, e.Embeds field target → ∀ inner,
      Delegates c e.name [(field, .object inner)] target inner (Value.Holds field)) ∧
      ∀ entity path target, Leads c entity path target → ∀ inner,
        Delegates c entity (nestedAt path inner) target inner (Value.HoldsAt path) := by
  constructor
  · intro e he field target h inner
    exact delegates_of_embeds he h inner
  · intro entity path target h inner
    exact delegates_nestedAt h inner

theorem embeds_authors : Entity.book.Embeds "authors" "Author" := by
  refine ⟨.inr (by decide), by decide, ?_⟩
  unfold Entity.OwnsName
  decide

theorem embeds_latest : Entity.author.Embeds "latest" "Book" := by
  refine ⟨.inl (by decide), by decide, ?_⟩
  unfold Entity.OwnsName
  decide

theorem leads_authors_latest : Leads .library "Book" ["authors", "latest"] "Book" :=
  .step (List.mem_cons_self : Entity.book ∈ Catalog.library.entities) embeds_authors
    (.step (List.mem_cons_of_mem _ List.mem_cons_self : Entity.author ∈ Catalog.library.entities)
      embeds_latest (.here _))

theorem library_nested_filters :
    (Entity.book.Embeds "authors" "Author" ∧
      compile .library "Book" [("authors", .object [("age", .null)])] =
        .error (.unknownArgument "Author" "age")) ∧
      Leads .library "Book" ["authors", "latest"] "Book" ∧
        ∃ m, compile .library "Book"
            (nestedAt ["authors", "latest"] [("pages", .number (.int 300))]) = .ok m ∧
          m.accepts (.object [("authors", .array [.object [("name", .string "Jane")],
            .object [("latest", .object [("pages", .number (.int 300))])]])]) = true := by
  obtain ⟨hfield, hpath⟩ := nested_filters_delegate .library
  refine ⟨⟨embeds_authors, ?_⟩, leads_authors_latest, ?_⟩
  · have hbook := hfield .book List.mem_cons_self "authors" "Author" embeds_authors
    exact ((hbook _).fails _).mpr rfl
  · have hlatest := hpath "Book" _ "Book" leads_authors_latest [("pages", .number (.int 300))]
    obtain ⟨n, hn⟩ : ∃ n, compile .library "Book" [("pages", .number (.int 300))] = .ok n :=
      ⟨_, rfl⟩
    obtain ⟨m, hm⟩ := hlatest.compiles.mpr ⟨n, hn⟩
    have hauthor : Value.Holds "latest"
        (.object [("latest", .object [("pages", .number (.int 300))])])
        (.object [("pages", .number (.int 300))]) :=
      ⟨_, _, rfl, rfl, rfl, .inr ⟨nofun, rfl⟩⟩
    refine ⟨m, hm, (hlatest.accepts m n hm hn _).mpr ⟨_, ⟨_, ?_, _, hauthor, rfl⟩, ?_⟩⟩
    · exact ⟨_, _, rfl, rfl, rfl, .inl ⟨_, rfl, by simp⟩⟩
    · cases hn
      decide +kernel

end Filter

end DocumentSchema
