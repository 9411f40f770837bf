import DocumentSchema.Proofs.Schema.TypeNames

/-!
# Clashes of declared names

Declared names are entity names with endings, so two entities can declare the
same name when one of them is named like the other with more text behind it. The
texts for which this happens are the endings themselves and what stands before
an ending inside a longer one.
-/
namespace DocumentSchema

namespace TypeName

/-- The texts that turn the name of an entity with the flags `table` and `usedInArray` into that of
one, a stored one if `table'`, with which it shares a declared name. -/
def Clashing (table usedInArray table' : Prop) (r : String) : Prop :=
  r ∈ ["Input", "MutationInput", "Sort", "Filters", "Mutation"] ∨
    (table ∧ r ∈ resultEndings) ∨
    (usedInArray ∧ r ∈ ["ArrayMutationInput", "ArrayMutation", "Array"]) ∨
    (table ∧ table' ∧ r = "Bulk")

def before (ending part : String) : String :=
  String.ofList (ending.toList.take (ending.toList.length - part.toList.length))

theorem before_append (r part : String) : before (r ++ part) part = r := by
  simp [before]

theorem before_mem : ∀ x ∈ endings true true, ∀ y ∈ endings true true,
    y.2.toList <:+ x.2.toList → x.2 = y.2 ∨
      before x.2 y.2 ∈ ["Input", "MutationInput", "Sort", "Filters", "Mutation"] ∨
      (x.2 ∈ resultEndings ∧ before x.2 y.2 ∈ resultEndings) ∨
      (x.2 = "ArrayMutationInput" ∧
        before x.2 y.2 ∈ ["ArrayMutationInput", "ArrayMutation", "Array"]) ∨
      (x.2 ∈ resultEndings ∧ y.2 ∈ resultEndings ∧ before x.2 y.2 = "Bulk") := by decide +kernel

theorem table_of_mem_endings : ∀ {table usedInArray : Bool}, ∀ x ∈ endings table usedInArray,
    x.2 ∈ resultEndings → table = true := by decide

theorem usedInArray_of_mem_endings : ∀ {table usedInArray : Bool},
    ∀ x ∈ endings table usedInArray, x.2 = "ArrayMutationInput" → usedInArray = true := by decide

theorem endings_nodup : ∀ table usedInArray : Bool,
    ((endings table usedInArray).map Prod.snd).Nodup := by decide

theorem ne_empty_of_clashing {table usedInArray table' : Prop} {r : String}
    (h : Clashing table usedInArray table' r) : r ≠ "" := by
  rintro rfl
  revert h
  simp [Clashing, resultEndings]

/-- A text that clashes is in front of an ending in another ending. -/
theorem exists_endings_of_clashing {table usedInArray table' usedInArray' : Bool} {r : String}
    (h : Clashing (table = true) (usedInArray = true) (table' = true) r) :
    ∃ x ∈ endings table usedInArray, ∃ y ∈ endings table' usedInArray', x.2 = r ++ y.2 := by
  have hplain : ∀ r ∈ ["Input", "MutationInput", "Sort", "Filters", "Mutation"],
      ∃ x ∈ endings false false, ∃ y ∈ endings false false, x.2 = r ++ y.2 := by decide
  have hresult : ∀ r ∈ resultEndings,
      ∃ x ∈ endings true false, ∃ y ∈ endings false false, x.2 = r ++ y.2 := by decide
  have harray : ∀ r ∈ ["ArrayMutationInput", "ArrayMutation", "Array"],
      ∃ x ∈ endings false true, ∃ y ∈ endings false false, x.2 = r ++ y.2 := by decide
  have hbulk : ∃ x ∈ endings true false, ∃ y ∈ endings true false, x.2 = "Bulk" ++ y.2 := by
    decide
  rcases h with h | ⟨rfl, h⟩ | ⟨rfl, h⟩ | ⟨rfl, rfl, rfl⟩
  · obtain ⟨x, hx, y, hy, he⟩ := hplain r h
    exact ⟨x, endings_mono hx nofun nofun, y, endings_mono hy nofun nofun, he⟩
  · obtain ⟨x, hx, y, hy, he⟩ := hresult r h
    exact ⟨x, endings_mono hx id nofun, y, endings_mono hy nofun nofun, he⟩
  · obtain ⟨x, hx, y, hy, he⟩ := harray r h
    exact ⟨x, endings_mono hx nofun id, y, endings_mono hy nofun nofun, he⟩
  · obtain ⟨x, hx, y, hy, he⟩ := hbulk
    exact ⟨x, endings_mono hx id nofun, y, endings_mono hy id nofun, he⟩

theorem clashing_of_endings {table usedInArray table' usedInArray' : Bool} {r : String}
    (hr : r ≠ "") {x y : Sdl.Kind × String} (hx : x ∈ endings table usedInArray)
    (hy : y ∈ endings table' usedInArray') (he : x.2 = r ++ y.2) :
    Clashing (table = true) (usedInArray = true) (table' = true) r := by
  have hb : before x.2 y.2 = r := by rw [he, before_append]
  have hne : x.2 ≠ y.2 := by
    intro h
    have hl := congrArg String.length (he.symm.trans h)
    simp at hl
    exact hr hl
  have hs : y.2.toList <:+ x.2.toList := ⟨r.toList, by rw [he, String.toList_append]⟩
  -- All overlaps are among the endings that both flags allow.
  have hm := before_mem x (endings_mono hx (fun _ => rfl) (fun _ => rfl)) y
    (endings_mono hy (fun _ => rfl) (fun _ => rfl)) hs
  rw [hb] at hm
  rcases hm with h | h | ⟨hx', h⟩ | ⟨hx', h⟩ | ⟨hx', hy', h⟩
  · exact (hne h).elim
  · exact Or.inl h
  · exact Or.inr (Or.inl ⟨table_of_mem_endings x hx hx', h⟩)
  · exact Or.inr (Or.inr (Or.inl ⟨usedInArray_of_mem_endings x hx hx', h⟩))
  · refine Or.inr (Or.inr (Or.inr ?_))
    exact ⟨table_of_mem_endings x hx hx', table_of_mem_endings y hy hy', h⟩

end TypeName

theorem eq_empty_of_eq_append {s r : String} (h : s = s ++ r) : r = "" := by
  have hl := congrArg String.length h
  simpa using hl

theorem ne_empty_of_eq_append {s t r : String} (h : s = t ++ r) (hne : s ≠ t) : r ≠ "" := by
  rintro rfl
  rw [String.append_empty] at h
  exact hne h

theorem append_eq_append_cases {a b x y : String} (h : a ++ x = b ++ y) :
    (∃ r, b = a ++ r ∧ x = r ++ y) ∨ ∃ r, a = b ++ r ∧ y = r ++ x := by
  have hl := congrArg String.toList h
  rw [String.toList_append, String.toList_append, List.append_eq_append_iff] at hl
  rcases hl with ⟨r, hb, hx⟩ | ⟨r, ha, hy⟩
  · exact Or.inl ⟨String.ofList r, by simp [← String.toList_inj, hb],
      by simp [← String.toList_inj, hx]⟩
  · exact Or.inr ⟨String.ofList r, by simp [← String.toList_inj, ha],
      by simp [← String.toList_inj, hy]⟩

/-- The names that no entity owns: those of shared declarations and of the root types. -/
def SchemaDocument.reservedNames : List String :=
  ["JSON"] ++ Sdl.preludeDeclarations.map Sdl.Declaration.name ++ ["Query", "Mutation"]

theorem TypeName.eq_object_of_reserved : ∀ n ∈ SchemaDocument.reservedNames,
    ∀ x ∈ endings true true, x.2.toList <:+ n.toList → x = (.object, "") := by decide

namespace Entity

theorem declarations_map_name (e : Entity) :
    e.declarations.map Sdl.Declaration.name =
      (TypeName.endings e.table e.usedInArray).map fun x => e.name ++ x.2 := by
  have h := congrArg (List.map Prod.snd) e.declared_eq
  simpa [Function.comp_def] using h

theorem declarations_map_name_nodup (e : Entity) :
    (e.declarations.map Sdl.Declaration.name).Nodup := by
  have hinj : Function.Injective (e.name ++ ·) := fun s t h =>
    (String.append_right_inj e.name).mp h
  have hn := (TypeName.endings_nodup e.table e.usedInArray).map hinj
  rw [declarations_map_name]
  simpa [Function.comp_def] using hn

/-- Entities of different names share a declared name when the name of one is that of the other
with a clashing text behind it. -/
theorem shares_name_iff {a b : Entity} (hne : a.name ≠ b.name) :
    (∃ n ∈ a.declarations.map Sdl.Declaration.name, n ∈ b.declarations.map Sdl.Declaration.name) ↔
      (∃ r, b.name = a.name ++ r ∧
        TypeName.Clashing (a.table = true) (a.usedInArray = true) (b.table = true) r) ∨
      ∃ r, a.name = b.name ++ r ∧
        TypeName.Clashing (b.table = true) (b.usedInArray = true) (a.table = true) r := by
  simp only [declarations_map_name, List.mem_map]
  constructor
  · rintro ⟨n, ⟨x, hx, rfl⟩, y, hy, he⟩
    rcases append_eq_append_cases he.symm with ⟨r, hb, hxy⟩ | ⟨r, ha, hyx⟩
    · have hr := ne_empty_of_eq_append hb hne.symm
      exact Or.inl ⟨r, hb, TypeName.clashing_of_endings hr hx hy hxy⟩
    · have hr := ne_empty_of_eq_append ha hne
      exact Or.inr ⟨r, ha, TypeName.clashing_of_endings hr hy hx hyx⟩
  · rintro (⟨r, hb, hc⟩ | ⟨r, ha, hc⟩)
    · obtain ⟨x, hx, y, hy, he⟩ := TypeName.exists_endings_of_clashing hc
      exact ⟨_, ⟨x, hx, rfl⟩, y, hy, by rw [hb, he, String.append_assoc]⟩
    · obtain ⟨x, hx, y, hy, he⟩ := TypeName.exists_endings_of_clashing hc
      exact ⟨_, ⟨y, hy, rfl⟩, x, hx, by rw [ha, he, String.append_assoc]⟩

theorem eq_name_of_reserved {e : Entity} {d : Sdl.Declaration} (hd : d ∈ e.declarations)
    (hn : d.name ∈ SchemaDocument.reservedNames) : d.kind = .object ∧ e.name = d.name := by
  obtain ⟨ending, hx, he⟩ := declares_iff.mp ⟨d, hd, rfl, rfl⟩
  have hs : ending.toList <:+ d.name.toList := ⟨e.name.toList, by rw [he, String.toList_append]⟩
  have ho := TypeName.eq_object_of_reserved d.name hn (d.kind, ending)
    (TypeName.endings_mono hx (fun _ => rfl) (fun _ => rfl)) hs
  rw [Prod.mk.injEq] at ho
  rw [he, ho.2, String.append_empty]
  exact ⟨ho.1, rfl⟩

end Entity

namespace Catalog

/-- All declared names are distinct when no two entities share one. -/
theorem declared_nodup_iff (c : Catalog) :
    (c.entities.flatMap fun e => (c.mark e).declarations.map Sdl.Declaration.name).Nodup ↔
      ∀ a ∈ c.entities, ∀ b ∈ c.entities, a.name ≠ b.name →
        ¬ ∃ n ∈ (c.mark a).declarations.map Sdl.Declaration.name,
          n ∈ (c.mark b).declarations.map Sdl.Declaration.name :=
  c.nodup_flatMap_iff fun e => (c.mark e).declarations_map_name_nodup

theorem exists_shared_iff (c : Catalog) :
    (∃ a ∈ c.entities, ∃ b ∈ c.entities, a.name ≠ b.name ∧
      ∃ n ∈ (c.mark a).declarations.map Sdl.Declaration.name,
        n ∈ (c.mark b).declarations.map Sdl.Declaration.name) ↔
      ∃ a ∈ c.entities, ∃ b ∈ c.entities, ∃ r, b.name = a.name ++ r ∧
        TypeName.Clashing (a.table = true) (c.UsedInArray a) (b.table = true) r := by
  have hshares {a b : Entity} (hne : a.name ≠ b.name) :=
    Entity.shares_name_iff (a := c.mark a) (b := c.mark b) (by simpa using hne)
  simp only [name_mark, table_mark, usedInArray_mark] at hshares
  constructor
  · rintro ⟨a, ha, b, hb, hne, hs⟩
    rcases (hshares hne).mp hs with ⟨r, hr, hc⟩ | ⟨r, hr, hc⟩
    · exact ⟨a, ha, b, hb, r, hr, hc⟩
    · exact ⟨b, hb, a, ha, r, hr, hc⟩
  · rintro ⟨a, ha, b, hb, r, hr, hc⟩
    have hne : a.name ≠ b.name := fun h =>
      TypeName.ne_empty_of_clashing hc (eq_empty_of_eq_append (h.trans hr))
    exact ⟨a, ha, b, hb, hne, (hshares hne).mpr (Or.inl ⟨r, hr, hc⟩)⟩

/-- The exact condition for clashes in the document of a catalog. The second part says that shared
and root names are taken only by an entity that is called so. -/
theorem declaration_names_nodup_iff {c : Catalog} {settings : Settings} {source : FragmentSource}
    {doc : SchemaDocument} (h : c.document settings source = .ok doc) :
    (((doc.entities.flatMap EntitySchema.declarations).map Sdl.Declaration.name).Nodup ↔
        ¬ ∃ a ∈ c.entities, ∃ b ∈ c.entities, ∃ r, b.name = a.name ++ r ∧
          TypeName.Clashing (a.table = true) (c.UsedInArray a) (b.table = true) r) ∧
      ∀ s ∈ doc.entities, ∀ d ∈ s.declarations, d.name ∈ SchemaDocument.reservedNames →
        d.kind = .object ∧ s.name = d.name := by
  have hnames : (doc.entities.flatMap EntitySchema.declarations).map Sdl.Declaration.name =
      c.entities.flatMap fun e => (c.mark e).declarations.map Sdl.Declaration.name := by
    rw [entities_of_document h, List.flatMap_map, List.map_flatMap]
    rfl
  constructor
  · rw [hnames, declared_nodup_iff, ← exists_shared_iff]
    refine ⟨fun h => ?_, fun h a ha b hb hne hs => h ⟨a, ha, b, hb, hne, hs⟩⟩
    rintro ⟨a, ha, b, hb, hne, hs⟩
    exact h a ha b hb hne hs
  · intro s hs d hd hn
    rw [entities_of_document h] at hs
    obtain ⟨e, -, rfl⟩ := List.mem_map.mp hs
    exact Entity.eq_name_of_reserved hd hn

theorem library_declaration_names_nodup : ∃ doc, library.document .default .none = .ok doc ∧
    ((doc.entities.flatMap EntitySchema.declarations).map Sdl.Declaration.name).Nodup := by
  refine ⟨_, document_library .none, ?_⟩
  refine (declaration_names_nodup_iff (document_library .none)).1.mpr ?_
  rintro ⟨a, ha, b, hb, r, hr, hc⟩
  simp only [library, List.mem_cons, List.not_mem_nil, or_false] at ha hb
  rcases ha with rfl | rfl <;> rcases hb with rfl | rfl
  · exact TypeName.ne_empty_of_clashing hc (eq_empty_of_eq_append hr)
  · have hl := congrArg String.toList hr
    simp [Entity.book, Entity.author] at hl
  · have hl := congrArg String.toList hr
    simp [Entity.book, Entity.author] at hl
  · exact TypeName.ne_empty_of_clashing hc (eq_empty_of_eq_append hr)

end Catalog

end DocumentSchema
