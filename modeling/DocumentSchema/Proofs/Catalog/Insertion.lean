import DocumentSchema.Proofs.Catalog
import DocumentSchema.Proofs.NamedList
import Mathlib.Data.Finset.Card
import Mathlib.Data.Finset.Dedup

/-!
# Insertions into a catalog

A catalog keeps the first definition of every name. Insertions that come later
under a name fail and change nothing, whatever came between, so that a run of
insertions leaves the entities whose names were new when they came. Building a
catalog from a list stops at the first entity whose name came before.
-/
namespace DocumentSchema

namespace Catalog

/-- The catalog that insertions one after another leave, whether or not each of them succeeds. -/
def afterInserts (es : List Entity) : Catalog :=
  es.foldl (fun c e => (c.registered e).2) empty

/-- The entities of a list whose names no earlier one has. -/
def firsts (es : List Entity) : List Entity :=
  (es.zipIdx.filter fun x => x.1.name ∉ (es.take x.2).map Entity.name).map Prod.fst

section Step

variable {c : Catalog} {e : Entity}

/-- A registration fails under a name in use only, and leaves the catalog as it was then. -/
theorem registered_eq_error {fault : ModelError} {d : Catalog} :
    c.registered e = (.error fault, d) ↔
      e.name ∈ c.names ∧ fault = .duplicateEntity e.name ∧ d = c := by
  by_cases h : e.name ∈ c.names
  · rw [registered_of_mem h, Prod.mk.injEq, Except.error.injEq, and_iff_right h,
      eq_comm (a := fault), eq_comm (a := d)]
  · rw [registered_of_not_mem h]
    exact iff_of_false nofun fun hname => h hname.1

theorem entities_add (h : e.name ∉ c.names) : (c.add e h).entities = c.entities ++ [e] := rfl

theorem entities_registered (c : Catalog) (e : Entity) :
    (c.registered e).2.entities =
      if e.name ∈ c.names then c.entities else c.entities ++ [e] := by
  split
  · rename_i h
    rw [registered_of_mem h]
  · rename_i h
    rw [registered_of_not_mem h, entities_add]

end Step

def keyed (c : Catalog) : NamedList Entity :=
  ⟨c.entities.map fun e => (e.name, e), by
    rw [List.map_map]
    exact c.distinct⟩

theorem entries_keyed (c : Catalog) : c.keyed.entries = c.entities.map fun e => (e.name, e) := rfl

theorem names_keyed (c : Catalog) : c.keyed.names = c.names := by
  rw [NamedList.names, keyed, List.map_map]
  rfl

theorem values_keyed (c : Catalog) : c.keyed.values = c.entities := by
  rw [NamedList.values, keyed, List.map_map]
  exact List.map_id _

theorem get?_keyed (c : Catalog) (name : String) : c.keyed.get? name = c.get? name := by
  have general (es : List Entity) :
      (es.map fun e => (e.name, e)).lookup name = es.find? fun e => e.name = name := by
    induction es with
    | nil => rfl
    | cons e es ih =>
      rw [List.map_cons, List.lookup_cons, List.find?_cons, ih]
      by_cases h : e.name = name
      · simp [h]
      · simp [h, beq_eq_false_iff_ne.mpr (Ne.symm h)]
  exact general c.entities

/-- An entity is put under its own name, unless the name is in use. -/
def putNew (l : NamedList Entity) (e : Entity) : NamedList Entity :=
  if l.contains e.name then l else l.insert e.name e

theorem keyed_registered (c : Catalog) (e : Entity) :
    (c.registered e).2.keyed = putNew c.keyed e := by
  have hcontains : c.keyed.contains e.name = true ↔ e.name ∈ c.names := by
    rw [NamedList.contains, names_keyed, List.contains_iff_mem]
  by_cases h : e.name ∈ c.names
  · rw [putNew, if_pos (hcontains.mpr h), registered_of_mem h]
  · rw [putNew, if_neg (mt hcontains.mp h)]
    apply NamedList.ext
    rw [NamedList.entries_insert_of_not_mem (by rwa [names_keyed]), entries_keyed,
      entities_registered, if_neg h, List.map_append]
    rfl

theorem afterInserts_concat (es : List Entity) (e : Entity) :
    afterInserts (es ++ [e]) = ((afterInserts es).registered e).2 := by
  rw [afterInserts, List.foldl_append]
  rfl

theorem names_afterInserts (es : List Entity) (name : String) :
    name ∈ (afterInserts es).names ↔ name ∈ es.map Entity.name := by
  induction es using List.reverseRecOn with
  | nil => rfl
  | append_singleton es e ih =>
    rw [afterInserts_concat, names, entities_registered, List.map_append, List.mem_append, ← ih]
    split
    · rename_i h
      -- The name of an entity that is skipped was in the catalog before.
      refine ⟨Or.inl, fun hn => hn.elim id fun hn => ?_⟩
      rwa [List.mem_singleton.mp hn]
    · rw [List.map_append, List.mem_append]
      rfl

theorem firsts_concat (es : List Entity) (e : Entity) :
    firsts (es ++ [e]) = if e.name ∈ es.map Entity.name then firsts es else firsts es ++ [e] := by
  have hbefore : (es.zipIdx.filter fun x => x.1.name ∉ ((es ++ [e]).take x.2).map Entity.name) =
      es.zipIdx.filter fun x => x.1.name ∉ (es.take x.2).map Entity.name := by
    refine List.filter_congr fun x hx => ?_
    have hlt : x.2 < es.length := by
      have := List.snd_lt_of_mem_zipIdx hx
      omega
    rw [List.take_append_of_le_length hlt.le]
  rw [firsts, List.zipIdx_append, List.filter_append, hbefore, List.map_append]
  by_cases h : e.name ∈ es.map Entity.name <;> simp [firsts, h]

theorem entities_afterInserts (es : List Entity) : (afterInserts es).entities = firsts es := by
  induction es using List.reverseRecOn with
  | nil => rfl
  | append_singleton es e ih =>
    rw [afterInserts_concat, entities_registered, firsts_concat, ih]
    simp only [names_afterInserts]

theorem get?_afterInserts (es : List Entity) (name : String) :
    (afterInserts es).get? name = es.find? fun e => e.name = name := by
  induction es using List.reverseRecOn with
  | nil => rfl
  | append_singleton es e ih =>
    rw [afterInserts_concat, List.find?_append, ← ih, get?, entities_registered]
    split
    · rename_i h
      rw [← get?]
      cases hget : (afterInserts es).get? name with
      | some x => rfl
      | none =>
        have hne : e.name ≠ name := by
          rintro rfl
          have hsome := get?_isSome.mpr h
          rw [hget] at hsome
          cases hsome
        simp [hne]
    · rw [List.find?_append]
      rfl

theorem size_afterInserts (es : List Entity) :
    (afterInserts es).size = (es.map Entity.name).toFinset.card := by
  have hnames : (afterInserts es).names.toFinset = (es.map Entity.name).toFinset := by
    ext name
    rw [List.mem_toFinset, List.mem_toFinset, names_afterInserts]
  have hcard := List.toFinset_card_of_nodup (afterInserts es).distinct
  rw [List.length_map] at hcard
  rw [← hnames]
  exact hcard.symm

theorem keyed_afterInserts (es : List Entity) :
    (afterInserts es).keyed = es.foldl putNew NamedList.empty := by
  induction es using List.reverseRecOn with
  | nil => rfl
  | append_singleton es e ih =>
    rw [afterInserts_concat, keyed_registered, ih, List.foldl_append]
    rfl

/-- Where keys repeat, some element is the first whose key an earlier one has. -/
theorem exists_first_repeat {α : Type} {key : α → String} {l : List α}
    (h : ¬ (l.map key).Nodup) :
    ∃ before a after, l = before ++ a :: after ∧ (before.map key).Nodup ∧
      key a ∈ before.map key := by
  induction l using List.reverseRecOn with
  | nil => exact (h List.nodup_nil).elim
  | append_singleton l a ih =>
    rw [List.map_append, List.map_singleton, ← List.concat_eq_append, List.nodup_concat] at h
    by_cases hl : (l.map key).Nodup
    · exact ⟨l, a, [], rfl, hl, not_not.mp fun ha => h ⟨ha, hl⟩⟩
    · obtain ⟨before, x, after, rfl, hx⟩ := ih hl
      exact ⟨before, x, after ++ [a], by simp, hx⟩

theorem ofEntities_append {before : List Entity} {c : Catalog} (h : ofEntities before = .ok c)
    (after : List Entity) : ofEntities (before ++ after) = after.foldlM insert c := by
  rw [ofEntities, List.foldlM_append, ← ofEntities, h]
  rfl

theorem ofEntities_of_nodup {es : List Entity} (h : (es.map Entity.name).Nodup) :
    ofEntities es = .ok (afterInserts es) := by
  induction es using List.reverseRecOn with
  | nil => rfl
  | append_singleton es e ih =>
    rw [List.map_append, List.map_singleton, ← List.concat_eq_append, List.nodup_concat,
      ← names_afterInserts] at h
    rw [ofEntities_append (ih h.2), List.foldlM_cons, insert_of_not_mem h.1, afterInserts_concat,
      registered_of_not_mem h.1]
    rfl

theorem ofEntities_of_repeat {before after : List Entity} {e : Entity}
    (h : (before.map Entity.name).Nodup) (he : e.name ∈ before.map Entity.name) :
    ofEntities (before ++ e :: after) = .error (.duplicateEntity e.name) := by
  rw [ofEntities_append (ofEntities_of_nodup h), List.foldlM_cons,
    insert_of_mem ((names_afterInserts before e.name).mpr he)]
  rfl

theorem ofEntities_eq_ok {es : List Entity} {c : Catalog} :
    ofEntities es = .ok c ↔ (es.map Entity.name).Nodup ∧ c = afterInserts es := by
  by_cases h : (es.map Entity.name).Nodup
  · rw [ofEntities_of_nodup h, Except.ok.injEq, eq_comm, and_iff_right h]
  · obtain ⟨before, e, after, rfl, hbefore, he⟩ := exists_first_repeat h
    rw [ofEntities_of_repeat hbefore he]
    exact iff_of_false nofun fun hc => h hc.1

theorem ofEntities_eq_error {es : List Entity} {fault : ModelError} :
    ofEntities es = .error fault ↔ ∃ before e after, es = before ++ e :: after ∧
      (before.map Entity.name).Nodup ∧ e.name ∈ before.map Entity.name ∧
        fault = .duplicateEntity e.name := by
  constructor
  · intro h
    have hrepeat : ¬ (es.map Entity.name).Nodup := by
      intro hnodup
      rw [ofEntities_of_nodup hnodup] at h
      cases h
    obtain ⟨before, e, after, rfl, hbefore, he⟩ := exists_first_repeat hrepeat
    rw [ofEntities_of_repeat hbefore he, Except.error.injEq] at h
    exact ⟨before, e, after, rfl, hbefore, he, h.symm⟩
  · rintro ⟨before, e, after, rfl, hbefore, he, rfl⟩
    exact ofEntities_of_repeat hbefore he

/-- A catalog that holds the first definition of every name of a list, and no other entity. -/
structure HoldsFirsts (c : Catalog) (es : List Entity) : Prop where
  /-- A registration under a name of the list fails and changes nothing. -/
  registered_repeated : ∀ e, e.name ∈ es.map Entity.name →
    c.registered e = (.error (.duplicateEntity e.name), c)
  registered_new : ∀ e, e.name ∉ es.map Entity.name →
    ∃ d, c.registered e = (.ok (), d) ∧ d.entities = c.entities ++ [e]
  /-- Whatever registration fails, its error names the entity and its catalog is as before. -/
  registered_eq_error : ∀ e fault d, c.registered e = (.error fault, d) ↔
    e.name ∈ es.map Entity.name ∧ fault = .duplicateEntity e.name ∧ d = c
  entities_eq : c.entities = firsts es
  get?_eq : ∀ name, c.get? name = es.find? fun e => e.name = name
  name_of_get? : ∀ name e, c.get? name = some e → e.name = name
  get?_eq_none : ∀ name, c.get? name = none ↔ name ∉ es.map Entity.name
  size_eq : c.size = (es.map Entity.name).toFinset.card
  /-- Each entity stands under its own name, and reading the catalog is reading these values. -/
  keyed_eq : c.keyed = es.foldl putNew NamedList.empty
  get?_keyed : ∀ name, c.keyed.get? name = c.get? name
  values_keyed : c.keyed.values = c.entities

theorem holdsFirsts_afterInserts (es : List Entity) : (afterInserts es).HoldsFirsts es where
  registered_repeated e he := registered_of_mem ((names_afterInserts es e.name).mpr he)
  registered_new e he :=
    ⟨_, registered_of_not_mem (mt (names_afterInserts es e.name).mp he), entities_add _⟩
  registered_eq_error e fault d := by
    rw [Catalog.registered_eq_error, names_afterInserts]
  entities_eq := entities_afterInserts es
  get?_eq := get?_afterInserts es
  name_of_get? _ _ h := (mem_of_get? h).2
  get?_eq_none name := by
    rw [← names_afterInserts, ← get?_isSome, Bool.not_eq_true, Option.isSome_eq_false_iff,
      Option.isNone_iff_eq_none]
  size_eq := size_afterInserts es
  keyed_eq := keyed_afterInserts es
  get?_keyed := get?_keyed _
  values_keyed := values_keyed _

/-- A catalog keeps the first definition of every name, in the order in which names were first
used. A list makes a catalog exactly when its names are distinct, and otherwise the error names the
first entity whose name came before. -/
theorem keeps_first_definitions (es : List Entity) :
    (afterInserts es).HoldsFirsts es ∧
      ((∃ c, ofEntities es = .ok c) ↔ (es.map Entity.name).Nodup) ∧
      (∀ c, ofEntities es = .ok c ↔ (es.map Entity.name).Nodup ∧ c = afterInserts es) ∧
      ∀ fault, ofEntities es = .error fault ↔ ∃ before e after, es = before ++ e :: after ∧
        (before.map Entity.name).Nodup ∧ e.name ∈ before.map Entity.name ∧
          fault = .duplicateEntity e.name := by
  refine ⟨holdsFirsts_afterInserts es, ?_, fun c => ofEntities_eq_ok, fun fault =>
    ofEntities_eq_error⟩
  constructor
  · rintro ⟨c, hc⟩
    exact (ofEntities_eq_ok.mp hc).1
  · exact fun h => ⟨_, ofEntities_of_nodup h⟩

end Catalog

end DocumentSchema
