import DocumentSchema.Proofs.Schema.Tokens
import DocumentSchema.Proofs.Sdl.Blocks

/-!
# The text of a document

Without fragments a document is a list of blocks, and its text is these blocks
joined. When what is supplied is made of tokens the text determines the blocks,
and with them the settings, declarations and operations they came from.
-/
namespace DocumentSchema

namespace SchemaDocument

/-- No hand-written text stands in the root types. -/
def WithoutFragments (doc : SchemaDocument) : Prop :=
  ∀ s ∈ doc.entities, s.queryFragments = [] ∧ s.mutationFragments = []

def blocks (doc : SchemaDocument) : List Sdl.Block :=
  (if doc.emitPrelude then .scalar :: Sdl.preludeDeclarations.map .declaration else []) ++
    (doc.entities.flatMap EntitySchema.declarations).map .declaration ++
    Sdl.rootBlocks "Query" (doc.entities.flatMap EntitySchema.queries) ++
    Sdl.rootBlocks "Mutation" (doc.entities.flatMap EntitySchema.mutations)

section Text

variable {w : Sdl.Writer}

theorem spread_prelude :
    Sdl.spread [w.prelude] =
      Sdl.spread ("scalar JSON" :: Sdl.preludeDeclarations.map w.declaration) := by
  have hne : Sdl.preludeDeclarations.map w.declaration ≠ [] := by simp [Sdl.preludeDeclarations]
  rw [Sdl.spread_cons, Sdl.spread_cons, ← Sdl.toList_joinBlocks_append hne]
  simp [Sdl.spread, Sdl.Writer.prelude, Sdl.Writer.declarations]

theorem spread_operations {entities : List EntitySchema} {ops : EntitySchema → List Sdl.Operation}
    {block? : EntitySchema → Option String}
    (h : ∀ s ∈ entities, block? s =
      if (ops s).isEmpty then none else some (Sdl.joinBlocks ((ops s).map w.operation))) :
    Sdl.spread (entities.filterMap block?) =
      Sdl.spread ((entities.flatMap ops).map w.operation) := by
  induction entities with
  | nil => rfl
  | cons s rest ih =>
    obtain ⟨hs, hrest⟩ := List.forall_mem_cons.mp h
    rw [List.flatMap_cons, List.map_append, Sdl.spread_append, ← ih hrest]
    by_cases hops : ops s = []
    · rw [List.filterMap_cons_none (by simpa [hops] using hs), hops]
      rfl
    · have hblock : block? s = some (Sdl.joinBlocks ((ops s).map w.operation)) := by
        simpa [hops] using hs
      rw [List.filterMap_cons_some hblock, Sdl.spread_joinBlocks_cons (by simpa using hops)]

theorem rootType_eq {name : String} {blocks : List String} {operations : List Sdl.Operation}
    (h : Sdl.spread blocks = Sdl.spread (operations.map w.operation)) :
    rootType name blocks = (Sdl.rootBlocks name operations).map w.block := by
  have hnil : blocks = [] ↔ operations = [] := by
    rw [← Sdl.spread_eq_nil, h, Sdl.spread_eq_nil, List.map_eq_nil_iff]
  by_cases hops : operations = []
  · rw [hnil.mpr hops, hops]
    rfl
  · have hjoin := Sdl.joinBlocks_eq_of_spread_eq h
    simp [rootType, Sdl.rootBlocks, hnil, hops, Sdl.Writer.block, Sdl.Writer.rootType, hjoin]

end Text

end SchemaDocument

theorem EntitySchema.rootBlock?_eq {s : EntitySchema} {w : Sdl.Writer} {ops : List Sdl.Operation}
    (ht : s.table = false → ops = []) :
    s.rootBlock? w ops [] =
      if ops.isEmpty then none else some (Sdl.joinBlocks (ops.map w.operation)) := by
  by_cases hops : ops = []
  · simp [rootBlock?, hops]
  · have htable : s.table = true := by
      cases hs : s.table with
      | true => rfl
      | false => exact (hops (ht hs)).elim
    simp [rootBlock?, hops, htable]

theorem SchemaDocument.rootType_rendered {doc : SchemaDocument} {name : String}
    {ops : EntitySchema → List Sdl.Operation} {block? : RenderedEntity → Option String}
    (hb : ∀ s ∈ doc.entities, block? (s.render doc.writer) = s.rootBlock? doc.writer (ops s) [])
    (ht : ∀ s ∈ doc.entities, s.table = false → ops s = []) :
    rootType name (doc.rendered.filterMap block?) =
      (Sdl.rootBlocks name (doc.entities.flatMap ops)).map doc.writer.block := by
  refine rootType_eq ?_
  rw [rendered, List.filterMap_map]
  refine spread_operations fun s hs => ?_
  rw [Function.comp_apply, hb s hs]
  exact EntitySchema.rootBlock?_eq (ht s hs)

namespace Catalog

variable {c : Catalog} {settings : Settings} {source : FragmentSource} {doc : SchemaDocument}

theorem operations_of_document (h : c.document settings source = .ok doc) {s : EntitySchema}
    (hs : s ∈ doc.entities) (ht : s.table = false) : s.queries = [] ∧ s.mutations = [] := by
  obtain ⟨e, -, -, rfl⟩ := exists_entity_of_mem h hs
  have htable : e.table = false := by rwa [← c.table_mark e]
  simp [Entity.permissiveSchema, Entity.operations, htable]

theorem declarations_ne_nil (h : c.document settings source = .ok doc) {s : EntitySchema}
    (hs : s ∈ doc.entities) : s.declarations ≠ [] := by
  obtain ⟨e, -, -, rfl⟩ := exists_entity_of_mem h hs
  simp [Entity.permissiveSchema, Entity.declarations]

theorem text_eq_joinBlocks (h : c.document settings source = .ok doc)
    (hf : doc.WithoutFragments) :
    doc.text = Sdl.joinBlocks (doc.blocks.map doc.writer.block) := by
  have hprelude : Sdl.spread (if doc.emitPrelude then [doc.writer.prelude] else []) =
      Sdl.spread ((if doc.emitPrelude then
        Sdl.Block.scalar :: Sdl.preludeDeclarations.map .declaration else []).map
          doc.writer.block) := by
    cases doc.emitPrelude with
    | false => rfl
    | true => exact SchemaDocument.spread_prelude
  have htypes : Sdl.spread (doc.rendered.map RenderedEntity.types) =
      Sdl.spread (((doc.entities.flatMap EntitySchema.declarations).map
        Sdl.Block.declaration).map doc.writer.block) := by
    have hparts : doc.rendered.map RenderedEntity.types =
        (doc.entities.map fun s => s.declarations.map doc.writer.declaration).map
          Sdl.joinBlocks := by
      simp [SchemaDocument.rendered, EntitySchema.render, Sdl.Writer.declarations]
    rw [hparts, Sdl.spread_map_joinBlocks, ← List.flatMap_def, List.map_map, List.map_flatMap]
    · rfl
    · simpa using fun s hs => declarations_ne_nil h hs
  have hqueries : SchemaDocument.rootType "Query" (doc.rendered.filterMap RenderedEntity.query) =
      (Sdl.rootBlocks "Query" (doc.entities.flatMap EntitySchema.queries)).map doc.writer.block :=
    SchemaDocument.rootType_rendered (fun s hs => by rw [EntitySchema.render, (hf s hs).1])
      (fun s hs ht => (operations_of_document h hs ht).1)
  have hmutations :
      SchemaDocument.rootType "Mutation" (doc.rendered.filterMap RenderedEntity.mutation) =
        (Sdl.rootBlocks "Mutation" (doc.entities.flatMap EntitySchema.mutations)).map
          doc.writer.block :=
    SchemaDocument.rootType_rendered (fun s hs => by rw [EntitySchema.render, (hf s hs).2])
      (fun s hs ht => (operations_of_document h hs ht).2)
  refine Sdl.joinBlocks_eq_of_spread_eq ?_
  simp only [SchemaDocument.blocks, List.map_append, Sdl.spread_append, hprelude, htypes, hqueries,
    hmutations]

theorem ofTokens_of_mem_prelude {d : Sdl.Declaration} (hd : d ∈ Sdl.preludeDeclarations) :
    d.OfTokens := by
  have hname : ∀ d ∈ Sdl.preludeDeclarations, d.name.toList.all isNamePart = true := by decide
  have hfields : ∀ d ∈ Sdl.preludeDeclarations, ∀ n ∈ d.fieldNames,
      n.toList.all isNamePart = true := by decide
  have htypes : ∀ d ∈ Sdl.preludeDeclarations, ∀ u ∈ d.typeUses,
      u.2.toList.all isNamePart = true := by decide
  exact Sdl.Declaration.ofTokens (isToken_of_isWord (isWord_of_all (hname d hd)))
    (fun n hn => isToken_of_isWord (isWord_of_all (hfields d hd n hn)))
    (fun u hu => isToken_of_isWord (isWord_of_all (htypes d hd u hu)))

theorem ofTokens_of_mem_rootBlocks {name : String} (hn : IsToken name)
    {operations : List Sdl.Operation} (ho : ∀ op ∈ operations, op.OfTokens) {b : Sdl.Block}
    (hb : b ∈ Sdl.rootBlocks name operations) : b.OfTokens := by
  rw [Sdl.rootBlocks, List.mem_ite_nil_left, List.mem_singleton] at hb
  obtain ⟨hne, rfl⟩ := hb
  exact ⟨hn, by simpa using hne, ho⟩

theorem block_ofTokens (h : c.document settings source = .ok doc)
    (hs : ∀ e ∈ c.entities, e.SuppliesTokens) {b : Sdl.Block} (hb : b ∈ doc.blocks) :
    b.OfTokens := by
  have hroot (name : String) (hn : name.toList.all isNamePart = true) : IsToken name :=
    isToken_of_isWord (isWord_of_all hn)
  simp only [SchemaDocument.blocks, List.mem_append, List.mem_ite_nil_right, List.mem_cons,
    List.mem_map, List.mem_flatMap] at hb
  rcases hb with ((⟨-, rfl | ⟨d, hd, rfl⟩⟩ | ⟨d, ⟨s, hm, hd⟩, rfl⟩) | hb) | hb
  · trivial
  · exact ofTokens_of_mem_prelude hd
  · exact declaration_ofTokens h hs hm hd
  · refine ofTokens_of_mem_rootBlocks (hroot "Query" (by decide)) (fun op hop => ?_) hb
    obtain ⟨s, hm, hop⟩ := List.mem_flatMap.mp hop
    exact operation_ofTokens h hs hm (List.mem_append_left _ hop)
  · refine ofTokens_of_mem_rootBlocks (hroot "Mutation" (by decide)) (fun op hop => ?_) hb
    obtain ⟨s, hm, hop⟩ := List.mem_flatMap.mp hop
    exact operation_ofTokens h hs hm (List.mem_append_right _ hop)

theorem writer_of_document (h : c.document settings source = .ok doc) :
    doc.writer = ⟨settings.indent⟩ := by
  obtain ⟨-, -, -, rfl⟩ := document_eq_ok.mp h
  rfl

theorem isBlank_writer (h : c.document settings source = .ok doc) : doc.writer.IsBlank := by
  obtain ⟨hne, hblank⟩ := Settings.validate_eq_ok.mp (document_eq_ok.mp h).1
  rw [writer_of_document h, Sdl.Writer.IsBlank]
  cases hi : settings.indent.toList with
  | nil => exact (hne (String.toList_eq_nil_iff.mp hi)).elim
  | cons b rest => exact ⟨b, rest, rfl, hblank b (by simp [hi])⟩

end Catalog

namespace SchemaDocument

variable (doc : SchemaDocument)

theorem scalar_mem_blocks : Sdl.Block.scalar ∈ doc.blocks ↔ doc.emitPrelude = true := by
  simp only [blocks, Sdl.rootBlocks]
  cases doc.emitPrelude <;> simp

theorem declarations_of_blocks : doc.blocks.filterMap Sdl.Block.declaration? =
    (if doc.emitPrelude then Sdl.preludeDeclarations else []) ++
      doc.entities.flatMap EntitySchema.declarations := by
  unfold blocks
  cases doc.emitPrelude <;> simp [List.filterMap_cons, Sdl.Block.declaration?]

theorem queries_of_blocks : doc.blocks.flatMap (Sdl.Block.operationsOf "Query") =
    doc.entities.flatMap EntitySchema.queries := by
  unfold blocks
  cases doc.emitPrelude <;> simp [Sdl.Block.operationsOf]

theorem mutations_of_blocks : doc.blocks.flatMap (Sdl.Block.operationsOf "Mutation") =
    doc.entities.flatMap EntitySchema.mutations := by
  unfold blocks
  cases doc.emitPrelude <;> simp [Sdl.Block.operationsOf]

theorem blocks_eq_iff {doc₁ doc₂ : SchemaDocument} :
    doc₁.blocks = doc₂.blocks ↔
      doc₁.emitPrelude = doc₂.emitPrelude ∧
        doc₁.entities.flatMap EntitySchema.declarations =
          doc₂.entities.flatMap EntitySchema.declarations ∧
        doc₁.entities.flatMap EntitySchema.queries = doc₂.entities.flatMap EntitySchema.queries ∧
        doc₁.entities.flatMap EntitySchema.mutations =
          doc₂.entities.flatMap EntitySchema.mutations := by
  constructor
  · intro h
    have hprelude : doc₁.emitPrelude = doc₂.emitPrelude := by
      rw [Bool.eq_iff_iff, ← scalar_mem_blocks, h, scalar_mem_blocks]
    have hdeclarations := declarations_of_blocks doc₁
    rw [h, declarations_of_blocks, hprelude, List.append_cancel_left_eq] at hdeclarations
    refine ⟨hprelude, hdeclarations.symm, ?_, ?_⟩
    · rw [← queries_of_blocks, h, queries_of_blocks]
    · rw [← mutations_of_blocks, h, mutations_of_blocks]
  · rintro ⟨hprelude, hdeclarations, hqueries, hmutations⟩
    rw [blocks, blocks, hprelude, hdeclarations, hqueries, hmutations]

end SchemaDocument

namespace Catalog

/-- Documents with one indent, without fragments and made of tokens have the same text exactly when
they agree on the prelude, on the declarations and on the operations. -/
theorem document_text_eq_iff {c₁ c₂ : Catalog} {settings₁ settings₂ : Settings}
    {source₁ source₂ : FragmentSource} {doc₁ doc₂ : SchemaDocument}
    (h₁ : c₁.document settings₁ source₁ = .ok doc₁) (h₂ : c₂.document settings₂ source₂ = .ok doc₂)
    (hindent : settings₁.indent = settings₂.indent)
    (hf₁ : doc₁.WithoutFragments) (hf₂ : doc₂.WithoutFragments)
    (hs₁ : ∀ e ∈ c₁.entities, e.SuppliesTokens) (hs₂ : ∀ e ∈ c₂.entities, e.SuppliesTokens) :
    doc₁.text = doc₂.text ↔
      doc₁.emitPrelude = doc₂.emitPrelude ∧
        doc₁.entities.flatMap EntitySchema.declarations =
          doc₂.entities.flatMap EntitySchema.declarations ∧
        doc₁.entities.flatMap EntitySchema.queries = doc₂.entities.flatMap EntitySchema.queries ∧
        doc₁.entities.flatMap EntitySchema.mutations =
          doc₂.entities.flatMap EntitySchema.mutations := by
  have hwriter : doc₁.writer = doc₂.writer := by
    rw [writer_of_document h₁, writer_of_document h₂, hindent]
  rw [text_eq_joinBlocks h₁ hf₁, text_eq_joinBlocks h₂ hf₂, ← hwriter,
    ← SchemaDocument.blocks_eq_iff]
  constructor
  · exact Sdl.Writer.eq_of_joinBlocks_eq (isBlank_writer h₁) (fun _ => block_ofTokens h₁ hs₁)
      (fun _ => block_ofTokens h₂ hs₂)
  · intro h
    rw [h]

theorem withoutFragments_of_none {c : Catalog} {settings : Settings} {doc : SchemaDocument}
    (h : c.document settings .none = .ok doc) : doc.WithoutFragments := by
  intro s hs
  obtain ⟨e, -, -, rfl⟩ := exists_entity_of_mem h hs
  simp [Entity.permissiveSchema, Entity.fragments, FragmentSource.none]

theorem suppliesTokens_book : Entity.book.SuppliesTokens := by
  have htypes : ∀ type, Entity.book.SuppliesType type → type ∈ ["[Point!]", "Float", "Shelf"] := by
    rintro type (⟨f, hf⟩ | ⟨f, hf⟩ | ⟨a, ha, rfl⟩)
    · have hf : f = "shape" ∧ type = "[Point!]" := by simpa [Entity.book] using hf
      simp [hf.2]
    · have hf : f = "score" ∧ type = "Float" := by simpa [Entity.book] using hf
      simp [hf.2]
    · have ha : a = ⟨"shelf", "Shelf"⟩ := by simpa [Entity.book] using ha
      simp [ha]
  have htokens : ∀ type ∈ ["[Point!]", "Float", "Shelf"],
      type.toList.all fun c => !isSeparator c := by decide
  refine ⟨fun type ht => ?_, by decide⟩
  simpa [IsToken] using htokens type (htypes type ht)

theorem suppliesTokens_author (usedInArray : Bool) :
    ({ Entity.author with usedInArray := usedInArray } : Entity).SuppliesTokens := by
  refine ⟨?_, nofun⟩
  rintro type (⟨f, hf⟩ | ⟨f, hf⟩ | ⟨a, ha, -⟩)
  · simp [Entity.author] at hf
  · cases hf
  · cases ha

def markedLibrary : Catalog := ⟨[.book, { Entity.author with usedInArray := true }], by decide⟩

theorem library_text_eq_iff : ∃ doc₁ doc₂, library.document .default .none = .ok doc₁ ∧
    markedLibrary.document { Settings.default with strict := true } .none = .ok doc₂ ∧
    Settings.default.indent = ({ Settings.default with strict := true } : Settings).indent ∧
    doc₁.WithoutFragments ∧ doc₂.WithoutFragments ∧
    (∀ e ∈ library.entities, e.SuppliesTokens) ∧ (∀ e ∈ markedLibrary.entities, e.SuppliesTokens) ∧
    (doc₁.text = doc₂.text ↔
      doc₁.emitPrelude = doc₂.emitPrelude ∧
        doc₁.entities.flatMap EntitySchema.declarations =
          doc₂.entities.flatMap EntitySchema.declarations ∧
        doc₁.entities.flatMap EntitySchema.queries = doc₂.entities.flatMap EntitySchema.queries ∧
        doc₁.entities.flatMap EntitySchema.mutations =
          doc₂.entities.flatMap EntitySchema.mutations) := by
  have h₁ := document_library .none
  have h₂ : markedLibrary.document { Settings.default with strict := true } .none =
      .ok (markedLibrary.permissiveDocument { Settings.default with strict := true } .none) :=
    document_eq_ok.mpr ⟨rfl, rfl, by decide, rfl⟩
  have hf₁ := withoutFragments_of_none h₁
  have hf₂ := withoutFragments_of_none h₂
  have hs₁ : ∀ e ∈ library.entities, e.SuppliesTokens := by
    simpa [library] using ⟨suppliesTokens_book, suppliesTokens_author false⟩
  have hs₂ : ∀ e ∈ markedLibrary.entities, e.SuppliesTokens := by
    simpa [markedLibrary] using ⟨suppliesTokens_book, suppliesTokens_author true⟩
  exact ⟨_, _, h₁, h₂, rfl, hf₁, hf₂, hs₁, hs₂, document_text_eq_iff h₁ h₂ rfl hf₁ hf₂ hs₁ hs₂⟩

end Catalog

end DocumentSchema
