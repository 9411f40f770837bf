import DocumentSchema.Proofs.Schema.Document
import Mathlib.Data.List.DropRight

/-!
# The names an entity declares

Every declaration of an entity is named by the entity and one of eleven
endings. Which endings occur depends on two flags only.
-/
namespace DocumentSchema

namespace TypeName

/-- The endings of the types that wrap results. -/
def resultEndings : List String :=
  ["QueryResults", "SingleQueryResult", "MutationResult", "MutationResultMulti",
    "BulkMutationResult"]

/-- The endings of the declared names, with the kinds of the declarations. -/
def endings (table usedInArray : Bool) : List (Sdl.Kind × String) :=
  let object (ending : String) : Sdl.Kind × String := (.object, ending)
  let input (ending : String) : Sdl.Kind × String := (.input, ending)
  [object ""] ++ (if table then resultEndings.map object else []) ++
    ["Input", "MutationInput"].map input ++
    (if usedInArray then [input "ArrayMutationInput"] else []) ++ ["Sort", "Filters"].map input

theorem endings_mono {table usedInArray table' usedInArray' : Bool} {x : Sdl.Kind × String}
    (hx : x ∈ endings table usedInArray) (ht : table = true → table' = true)
    (hu : usedInArray = true → usedInArray' = true) : x ∈ endings table' usedInArray' := by
  have hall : ∀ t u t' u' : Bool, (t = true → t' = true) → (u = true → u' = true) →
      ∀ x ∈ endings t u, x ∈ endings t' u' := by decide
  exact hall _ _ _ _ ht hu x hx

end TypeName

namespace Entity

theorem declared_eq (e : Entity) :
    e.declarations.map (fun d => (d.kind, d.name)) =
      (TypeName.endings e.table e.usedInArray).map fun x => (x.1, e.name ++ x.2) := by
  unfold declarations TypeName.endings
  cases e.table <;> cases e.usedInArray <;>
    simp [TypeName.resultEndings, objectType, resultTypes, inputType, mutationInputType,
      arrayMutationInputType, sortType, filtersType, TypeName.input, TypeName.mutationInput,
      TypeName.arrayMutationInput, TypeName.sort, TypeName.filters, TypeName.queryResults,
      TypeName.singleQueryResult, TypeName.mutationResult, TypeName.mutationResultMulti,
      TypeName.bulkMutationResult]

theorem declares_iff {e : Entity} {kind : Sdl.Kind} {name : String} :
    (∃ d ∈ e.declarations, d.kind = kind ∧ d.name = name) ↔
      ∃ ending, (kind, ending) ∈ TypeName.endings e.table e.usedInArray ∧
        name = e.name ++ ending := by
  have hmem : (∃ d ∈ e.declarations, d.kind = kind ∧ d.name = name) ↔
      (kind, name) ∈ e.declarations.map fun d => (d.kind, d.name) := by simp
  rw [hmem, declared_eq]
  simp [eq_comm]

end Entity

/-- A text made of the characters of names. -/
def IsWord (s : String) : Prop := ∀ c ∈ s.toList, isNamePart c = true

theorem isWord_of_all {s : String} (h : s.toList.all isNamePart = true) : IsWord s :=
  List.all_eq_true.mp h

theorem isWord_append {s t : String} (hs : IsWord s) (ht : IsWord t) : IsWord (s ++ t) := by
  intro c hc
  rw [String.toList_append, List.mem_append] at hc
  exact hc.elim (hs c) (ht c)

theorem isWord_of_isName {s : String} (h : isName s = true) : IsWord s := by
  unfold isName at h
  intro c hc
  split at h
  · rename_i he
    simp [he] at hc
  · rename_i first rest he
    simp only [Bool.and_eq_true, List.all_eq_true] at h
    rw [he] at hc
    rcases List.mem_cons.mp hc with rfl | hc
    · have hstart := h.1
      simp only [isNameStart, isNamePart, Bool.or_eq_true, Char.isAlphanum] at hstart ⊢
      tauto
    · exact h.2 c hc

theorem isWord_ending {table usedInArray : Bool} {x : Sdl.Kind × String}
    (h : x ∈ TypeName.endings table usedInArray) : IsWord x.2 := by
  have hall : ∀ table usedInArray, ∀ x ∈ TypeName.endings table usedInArray,
      x.2.toList.all isNamePart = true := by decide
  exact isWord_of_all (hall table usedInArray x h)

/-- The name inside the list brackets of a type. -/
def bareName (type : String) : String :=
  String.ofList ((type.toList.dropWhile (· = '[')).rdropWhile (· = ']'))

@[simp] theorem bareName_listOf (type : String) : bareName (listOf type) = bareName type := by
  have hl : (listOf type).toList = '[' :: (type.toList ++ [']']) := by
    simp [listOf]
  have hd : (type.toList ++ [']']).dropWhile (· = '[') =
      type.toList.dropWhile (· = '[') ++ [']'] := by
    rw [List.dropWhile_append]
    split
    · rename_i he
      rw [List.isEmpty_iff.mp he]
      rfl
    · rfl
  rw [bareName, bareName, hl, List.dropWhile_cons_of_pos (by decide), hd,
    List.rdropWhile_concat_pos _ _ _ (by decide)]

theorem bareName_of_isWord {s : String} (h : IsWord s) : bareName s = s := by
  have hne (c : Char) (hc : c ∈ s.toList) : c ≠ '[' ∧ c ≠ ']' := by
    have := h c hc
    refine ⟨?_, ?_⟩ <;> rintro rfl <;> revert this <;> decide
  have hd : s.toList.dropWhile (· = '[') = s.toList := by
    rw [List.dropWhile_eq_self_iff]
    intro hl
    simpa using (hne _ (List.getElem_mem hl)).1
  rw [bareName, hd, List.rdropWhile_eq_self_iff.mpr, String.ofList_toList]
  intro hl
  simpa using (hne _ (List.getLast_mem hl)).2

end DocumentSchema
