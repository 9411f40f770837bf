import DocumentSchema.Proofs.Schema.NameClash

/-!
# Clashes of root operations

A root operation is named by a verb, its entity and an ending. Operations with
different verbs never share a name. With one verb only updates of many documents
have endings, and what they update may be called like another entity.
-/
namespace DocumentSchema

namespace RootOperation

def verb : RootOperation → String
  | create => "create"
  | update | updateMany | updateBulk => "update"
  | delete => "delete"
  | all => "all"
  | get => "get"

def ending : RootOperation → String
  | updateMany | all => "s"
  | updateBulk => "sBulk"
  | _ => ""

theorem name_eq_append (op : RootOperation) (entity : String) :
    op.name entity = op.verb ++ (entity ++ op.ending) := by
  cases op <;> simp [name, verb, ending, String.append_assoc]

theorem verb_eq_of_head {op op' : RootOperation}
    (h : op.verb.toList.head? = op'.verb.toList.head?) : op.verb = op'.verb := by
  revert h
  cases op <;> cases op' <;> decide

theorem eq_append_of_name_eq {a b : String} {op op' : RootOperation}
    (h : op.name a = op'.name b) : op.verb = op'.verb ∧ a ++ op.ending = b ++ op'.ending := by
  rw [name_eq_append, name_eq_append] at h
  have hverb : op.verb = op'.verb := by
    apply verb_eq_of_head
    have hhead (o : RootOperation) (s : String) :
        (o.verb ++ s).toList.head? = o.verb.toList.head? := by
      cases o <;> simp [verb]
    rw [← hhead op (a ++ op.ending), h, hhead]
  rw [hverb, String.append_right_inj] at h
  exact ⟨hverb, h⟩

/-- The operation on the entity `a` that is named like an update of `b`, if the name of `b` is that
of `a` with its ending. -/
def Pluralizes (op : RootOperation) (a b : String) : Prop :=
  (op = updateMany ∧ b = a ++ "s") ∨ (op = updateBulk ∧ b = a ++ "sBulk")

theorem ending_overlap {op op' : RootOperation} (hv : op.verb = op'.verb)
    (hs : op'.ending.toList <:+ op.ending.toList)
    (hne : TypeName.before op.ending op'.ending ≠ "") :
    op' = update ∧
      ((op = updateMany ∧ TypeName.before op.ending op'.ending = "s") ∨
        (op = updateBulk ∧ TypeName.before op.ending op'.ending = "sBulk")) := by
  revert hv hs hne
  cases op <;> cases op' <;> decide

theorem pluralizes_of_ending {a b r : String} {op op' : RootOperation} (hv : op.verb = op'.verb)
    (hr : r ≠ "") (hb : b = a ++ r) (he : op.ending = r ++ op'.ending) :
    op' = update ∧ op.Pluralizes a b := by
  have hbefore : TypeName.before op.ending op'.ending = r := by
    rw [he, TypeName.before_append]
  have hs : op'.ending.toList <:+ op.ending.toList :=
    ⟨r.toList, by rw [he, String.toList_append]⟩
  obtain ⟨hop', hop⟩ := ending_overlap hv hs (hbefore ▸ hr)
  rw [hbefore] at hop
  refine ⟨hop', ?_⟩
  rcases hop with ⟨hop, rfl⟩ | ⟨hop, rfl⟩
  · exact Or.inl ⟨hop, hb⟩
  · exact Or.inr ⟨hop, hb⟩

/-- Operations on two entities share their name when one is an update and the other updates many. -/
theorem name_eq_name_iff {a b : String} (hne : a ≠ b) {op op' : RootOperation} :
    op.name a = op'.name b ↔
      (op' = update ∧ op.Pluralizes a b) ∨ (op = update ∧ op'.Pluralizes b a) := by
  constructor
  · intro h
    obtain ⟨hv, he⟩ := eq_append_of_name_eq h
    rcases append_eq_append_cases he with ⟨r, hb, he⟩ | ⟨r, ha, he⟩
    · exact Or.inl (pluralizes_of_ending hv (ne_empty_of_eq_append hb hne.symm) hb he)
    · exact Or.inr (pluralizes_of_ending hv.symm (ne_empty_of_eq_append ha hne) ha he)
  · rintro (⟨rfl, ⟨rfl, rfl⟩ | ⟨rfl, rfl⟩⟩ | ⟨rfl, ⟨rfl, rfl⟩ | ⟨rfl, rfl⟩⟩) <;>
      simp [name, String.append_assoc]

theorem name_injective (entity : String) : Function.Injective fun op => name entity op := by
  intro op op' h
  obtain ⟨hv, he⟩ := eq_append_of_name_eq h
  rw [String.append_right_inj] at he
  revert hv he
  cases op <;> cases op' <;> decide

end RootOperation

namespace Entity

def Has (e : Entity) (op : RootOperation) : Prop := e.table = true ∧ e.overrides op = false

theorem mem_operations_map_name {e : Entity} {ops : List RootOperation} {n : String} :
    n ∈ (e.operations ops).map Sdl.Operation.name ↔ ∃ op ∈ ops, e.Has op ∧ op.name e.name = n := by
  unfold operations Has
  cases e.table <;> simp [operation, and_assoc]

theorem operations_map_name_nodup (e : Entity) {ops : List RootOperation} (hops : ops.Nodup) :
    ((e.operations ops).map Sdl.Operation.name).Nodup := by
  unfold operations
  split
  · rw [List.map_map]
    exact (hops.filter _).map (RootOperation.name_injective e.name)
  · exact List.nodup_nil

end Entity

namespace Catalog

@[simp] theorem has_mark {c : Catalog} {e : Entity} {op : RootOperation} :
    (c.mark e).Has op ↔ e.Has op := by
  rw [mark_eq]
  rfl

/-- The operations of a kind have distinct names unless two entities share one. -/
theorem operations_nodup_iff (c : Catalog) {ops : List RootOperation} (hops : ops.Nodup) :
    (c.entities.flatMap fun e => ((c.mark e).operations ops).map Sdl.Operation.name).Nodup ↔
      ¬ ∃ a ∈ c.entities, ∃ b ∈ c.entities, a.name ≠ b.name ∧
        ∃ op ∈ ops, ∃ op' ∈ ops, a.Has op ∧ b.Has op' ∧ op.name a.name = op'.name b.name := by
  rw [c.nodup_flatMap_iff fun e => (c.mark e).operations_map_name_nodup hops]
  simp only [Entity.mem_operations_map_name, has_mark, name_mark]
  constructor
  · rintro h ⟨a, ha, b, hb, hne, op, hop, op', hop', hasa, hasb, hn⟩
    exact h a ha b hb hne ⟨_, ⟨op, hop, hasa, rfl⟩, op', hop', hasb, hn.symm⟩
  · rintro h a ha b hb hne ⟨_, ⟨op, hop, hasa, rfl⟩, op', hop', hasb, hn⟩
    exact h ⟨a, ha, b, hb, hne, op, hop, op', hop', hasa, hasb, hn.symm⟩

theorem ne_of_pluralizes {op : RootOperation} {a b : String} (h : op.Pluralizes a b) : a ≠ b := by
  rintro rfl
  rcases h with ⟨-, h⟩ | ⟨-, h⟩ <;> exact absurd (eq_empty_of_eq_append h) (by decide)

theorem exists_shared_mutation_iff (c : Catalog) :
    (∃ a ∈ c.entities, ∃ b ∈ c.entities, a.name ≠ b.name ∧
      ∃ op ∈ RootOperation.mutations, ∃ op' ∈ RootOperation.mutations,
        a.Has op ∧ b.Has op' ∧ op.name a.name = op'.name b.name) ↔
      ∃ a ∈ c.entities, ∃ b ∈ c.entities, ∃ op : RootOperation,
        op.Pluralizes a.name b.name ∧ a.Has op ∧ b.Has .update := by
  constructor
  · rintro ⟨a, ha, b, hb, hne, op, -, op', -, hop, hop', hn⟩
    rcases (RootOperation.name_eq_name_iff hne).mp hn with ⟨rfl, hp⟩ | ⟨rfl, hp⟩
    · exact ⟨a, ha, b, hb, op, hp, hop, hop'⟩
    · exact ⟨b, hb, a, ha, op', hp, hop', hop⟩
  · rintro ⟨a, ha, b, hb, op, hp, hop, hupdate⟩
    have hne : a.name ≠ b.name := ne_of_pluralizes hp
    have hmutation : op ∈ RootOperation.mutations := by
      rcases hp with ⟨rfl, -⟩ | ⟨rfl, -⟩ <;> decide
    refine ⟨a, ha, b, hb, hne, op, hmutation, .update, by decide, hop, hupdate, ?_⟩
    exact (RootOperation.name_eq_name_iff hne).mpr (Or.inl ⟨rfl, hp⟩)

/-- The names of all queries are distinct. Those of the mutations are, too, unless a stored entity
is called like another one in the plural, or in the plural with `Bulk` behind it, where the other
one updates many and the first one updates. -/
theorem operation_names_nodup {c : Catalog} {settings : Settings} {source : FragmentSource}
    {doc : SchemaDocument} (h : c.document settings source = .ok doc) :
    ((doc.entities.flatMap EntitySchema.queries).map Sdl.Operation.name).Nodup ∧
      (((doc.entities.flatMap EntitySchema.mutations).map Sdl.Operation.name).Nodup ↔
        ¬ ∃ a ∈ c.entities, ∃ b ∈ c.entities, a.table = true ∧ b.table = true ∧
          ((b.name = a.name ++ "s" ∧ a.overrides .updateMany = false ∧
              b.overrides .update = false) ∨
            (b.name = a.name ++ "sBulk" ∧ a.overrides .updateBulk = false ∧
              b.overrides .update = false))) := by
  have hqueries : (doc.entities.flatMap EntitySchema.queries).map Sdl.Operation.name =
      c.entities.flatMap fun e =>
        ((c.mark e).operations RootOperation.queries).map Sdl.Operation.name := by
    rw [entities_of_document h, List.flatMap_map, List.map_flatMap]
    rfl
  have hmutations : (doc.entities.flatMap EntitySchema.mutations).map Sdl.Operation.name =
      c.entities.flatMap fun e =>
        ((c.mark e).operations RootOperation.mutations).map Sdl.Operation.name := by
    rw [entities_of_document h, List.flatMap_map, List.map_flatMap]
    rfl
  constructor
  · rw [hqueries, c.operations_nodup_iff (by decide)]
    rintro ⟨a, -, b, -, hne, op, hop, op', hop', -, -, hn⟩
    rcases (RootOperation.name_eq_name_iff hne).mp hn with ⟨rfl, -⟩ | ⟨rfl, -⟩
    · exact absurd hop' (by decide)
    · exact absurd hop (by decide)
  · rw [hmutations, c.operations_nodup_iff (by decide), exists_shared_mutation_iff]
    refine not_congr (exists_congr fun a => and_congr_right fun _ => exists_congr fun b =>
      and_congr_right fun _ => ?_)
    constructor
    · rintro ⟨op, ⟨rfl, hn⟩ | ⟨rfl, hn⟩, ⟨hta, hoa⟩, htb, hob⟩
      · exact ⟨hta, htb, Or.inl ⟨hn, hoa, hob⟩⟩
      · exact ⟨hta, htb, Or.inr ⟨hn, hoa, hob⟩⟩
    · rintro ⟨hta, htb, ⟨hn, hoa, hob⟩ | ⟨hn, hoa, hob⟩⟩
      · exact ⟨.updateMany, Or.inl ⟨rfl, hn⟩, ⟨hta, hoa⟩, htb, hob⟩
      · exact ⟨.updateBulk, Or.inr ⟨rfl, hn⟩, ⟨hta, hoa⟩, htb, hob⟩

/-- Books and a stored collection of that name in the plural: an update of the collection is called
like an update of many books. -/
theorem plural_entity_operation_names : ∃ (c : Catalog) (doc : SchemaDocument),
    c.entities = [.book, .author, { Entity.book with name := "Books" }] ∧
      c.document .default .none = .ok doc ∧
      ((doc.entities.flatMap EntitySchema.queries).map Sdl.Operation.name).Nodup ∧
      ¬ ((doc.entities.flatMap EntitySchema.mutations).map Sdl.Operation.name).Nodup := by
  let c : Catalog := ⟨[.book, .author, { Entity.book with name := "Books" }], by decide⟩
  have hdoc : c.document .default .none = .ok (c.permissiveDocument .default .none) :=
    document_eq_ok.mpr ⟨rfl, rfl, nofun, rfl⟩
  obtain ⟨hqueries, hmutations⟩ := operation_names_nodup hdoc
  refine ⟨c, _, rfl, hdoc, hqueries, fun hn => hmutations.mp hn ?_⟩
  exact ⟨.book, by simp [c], { Entity.book with name := "Books" }, by simp [c], rfl, rfl,
    Or.inl ⟨rfl, rfl, rfl⟩⟩

end Catalog

end DocumentSchema
