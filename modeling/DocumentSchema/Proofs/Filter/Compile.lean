import DocumentSchema.Proofs.Catalog
import DocumentSchema.Filter

/-!
# Compilation, argument by argument

Arguments and alternatives are walked in `Except`, and every argument is
compiled on its own: the one that takes alternatives by itself, any other one by
the offer of its name.
-/
namespace DocumentSchema

namespace Filter

def compileBranch (c : Catalog) (e : Entity) (name : String) : Value → Except FilterError Matcher
  | .object members => (compileArguments c e members).map ofParts
  | _ => .error (.invalidValue name (TypeName.filters e.name))

def compileOffer (c : Catalog) (name : String) (o : Offer) (v : Value) : Except FilterError Part :=
  match v with
  | .object members =>
    if o.argument.op = .nested then
      match o.descriptor.target? with
      | none => .ok .nothing
      | some target =>
        match c.get? target with
        | none => .error (.unknownEntity target)
        | some t =>
          (compileArguments c t members).map fun parts => .embedded o.argument.field (ofParts parts)
    else part name o v
  | v => part name o v

section Walks

variable (c : Catalog) (e : Entity)

theorem compileArguments_eq_mapM (arguments : List (String × Value)) :
    compileArguments c e arguments = arguments.mapM fun a => compileArgument c e a.1 a.2 := by
  induction arguments with
  | nil => rfl
  | cons a rest ih =>
    rw [compileArguments, ih, List.mapM_cons]
    cases compileArgument c e a.1 a.2 with
    | error fault => rfl
    | ok p => cases rest.mapM fun a => compileArgument c e a.1 a.2 <;> rfl

theorem compileBranches_eq_mapM (name : String) (items : List Value) :
    compileBranches c e name items = items.mapM (compileBranch c e name) := by
  induction items with
  | nil => rfl
  | cons v rest ih =>
    rw [List.mapM_cons]
    cases v with
    | object members =>
      rw [compileBranches, ih, compileBranch]
      cases compileArguments c e members with
      | error fault => rfl
      | ok parts => cases rest.mapM (compileBranch c e name) <;> rfl
    | _ => rfl

end Walks

section Argument

variable {c : Catalog} {e : Entity} {name : String} {v : Value}

theorem compileArgument_or (items : List Value) :
    compileArgument c e orName (.array items) =
      (items.mapM (compileBranch c e orName)).map .alternatives := by
  rw [compileArgument, if_pos rfl, compileBranches_eq_mapM]

theorem compileArgument_or_of_ne (hv : ∀ items, v ≠ .array items) :
    compileArgument c e orName v =
      .error (.invalidValue orName (listOf (TypeName.filters e.name))) := by
  cases v with
  | array items => exact (hv items rfl).elim
  | object members => rw [compileArgument, if_pos rfl, compileLeaf, if_pos rfl]
  | _ => rfl

theorem compileArgument_null (hn : name ≠ orName) :
    compileArgument c e name .null =
      match offer? e name with
      | none => .error (.unknownArgument e.name name)
      | some _ => .ok .nothing := by
  have hleaf : compileArgument c e name .null = compileLeaf e name .null := rfl
  rw [hleaf, compileLeaf, if_neg hn]
  rfl

theorem compileArgument_of_ne (hn : name ≠ orName) (hv : v.isNull = false) :
    compileArgument c e name v = takeUp e name v >>= fun o => compileOffer c name o v := by
  have hleaf : compileLeaf e name v = takeUp e name v >>= fun o => part name o v := by
    rw [compileLeaf, if_neg hn, if_neg (by simp [hv])]
  cases v with
  | null => cases hv
  | object members =>
    rw [compileArgument, if_neg hn]
    cases takeUp e name (.object members) <;> rfl
  | array items =>
    rw [compileArgument, if_neg hn]
    exact hleaf
  | bool b => exact hleaf
  | number n => exact hleaf
  | string s => exact hleaf

theorem check_eq_ok {o : Offer} :
    check name o v = .ok () ↔
      o.argument.type.admits v = true ∧ (o.descriptor.isDate = true → areDates v = true) := by
  unfold check
  cases o.argument.type.admits v <;> cases o.descriptor.isDate <;> cases areDates v <;> simp

theorem takeUp_eq_ok {o : Offer} :
    takeUp e name v = .ok o ↔ offer? e name = some o ∧ check name o v = .ok () := by
  unfold takeUp
  cases offer? e name with
  | none => simp
  | some a =>
    simp only [Option.some.injEq, Traversal.map_eq_ok]
    constructor
    · rintro ⟨⟨⟩, hc, rfl⟩
      exact ⟨rfl, hc⟩
    · rintro ⟨rfl, hc⟩
      exact ⟨(), hc, rfl⟩

theorem compileArgument_of_offer? {o : Offer} (hn : name ≠ orName) (hv : v.isNull = false)
    (ho : offer? e name = some o) (hc : check name o v = .ok ()) :
    compileArgument c e name v = compileOffer c name o v := by
  rw [compileArgument_of_ne hn hv, takeUp_eq_ok.mpr ⟨ho, hc⟩]
  rfl

theorem compileOffer_eq_part {o : Offer} (hop : o.argument.op ≠ .nested) :
    compileOffer c name o v = part name o v := by
  cases v <;> simp [compileOffer, hop]

end Argument

theorem compile_of_mem {c : Catalog} {e : Entity} (he : e ∈ c.entities)
    (arguments : List (String × Value)) :
    compile c e.name arguments = (compileArguments c e arguments).map ofParts := by
  rw [compile, Catalog.get?_of_mem he]

end Filter

end DocumentSchema
