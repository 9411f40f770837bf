import DocumentSchema.Proofs.Sdl.Writer

/-!
# Blocks

A document is a list of blocks with empty lines between them: the scalar of JSON
values, declarations and root types. Blocks of tokens can be read back from it.
-/
namespace DocumentSchema

namespace Sdl

/-- What is laid out in one piece. -/
inductive Block
  | scalar
  | declaration (d : Declaration)
  | root (name : String) (operations : List Operation)

namespace Block

def OfTokens : Block → Prop
  | scalar => True
  | declaration d => d.OfTokens
  | root name operations => IsToken name ∧ operations ≠ [] ∧ ∀ op ∈ operations, op.OfTokens

def declaration? : Block → Option Declaration
  | declaration d => some d
  | _ => none

def operationsOf (name : String) : Block → List Operation
  | root n operations => if n = name then operations else []
  | _ => []

end Block

def rootBlocks (name : String) (operations : List Operation) : List Block :=
  if operations.isEmpty then [] else [.root name operations]

section Contents

variable (name : String) (operations : List Operation)

@[simp] theorem declaration?_comp_declaration :
    Block.declaration? ∘ Block.declaration = some := rfl

@[simp] theorem filterMap_declaration?_rootBlocks :
    (rootBlocks name operations).filterMap Block.declaration? = [] := by
  cases operations <;> rfl

@[simp] theorem flatMap_operationsOf_map (ds : List Declaration) :
    (ds.map Block.declaration).flatMap (Block.operationsOf name) = [] := by
  simp [List.flatMap_map, Block.operationsOf]

@[simp] theorem flatMap_operationsOf_rootBlocks (n : String) :
    (rootBlocks name operations).flatMap (Block.operationsOf n) =
      if name = n then operations else [] := by
  cases operations <;> simp [rootBlocks, Block.operationsOf]

end Contents

/-- Blocks with an empty line after each of them. -/
def spread (blocks : List String) : List Char :=
  blocks.flatMap fun b => b.toList ++ ['\n', '\n']

theorem spread_eq_nil {blocks : List String} : spread blocks = [] ↔ blocks = [] := by
  cases blocks <;> simp [spread]

theorem spread_cons (b : String) (bs : List String) :
    spread (b :: bs) = b.toList ++ ['\n', '\n'] ++ spread bs := rfl

theorem spread_append (as bs : List String) : spread (as ++ bs) = spread as ++ spread bs :=
  List.flatMap_append

theorem toList_joinBlocks_append {blocks : List String} (h : blocks ≠ []) :
    (joinBlocks blocks).toList ++ ['\n', '\n'] = spread blocks := by
  have hne : blocks.map String.toList ≠ [] := by simpa using h
  have hjoin := intercalate_append "\n\n".toList hne
  rw [List.flatMap_map] at hjoin
  rw [joinBlocks, String.toList_intercalate]
  exact hjoin

theorem spread_joinBlocks_cons {p : List String} (hp : p ≠ []) (bs : List String) :
    spread (joinBlocks p :: bs) = spread p ++ spread bs := by
  rw [← toList_joinBlocks_append hp]
  rfl

theorem spread_map_joinBlocks {parts : List (List String)} (h : ∀ p ∈ parts, p ≠ []) :
    spread (parts.map joinBlocks) = spread parts.flatten := by
  induction parts with
  | nil => rfl
  | cons p ps ih =>
    obtain ⟨hp, hps⟩ := List.forall_mem_cons.mp h
    rw [List.map_cons, spread_joinBlocks_cons hp, ih hps, List.flatten_cons, spread_append]

theorem joinBlocks_eq_of_spread_eq {as bs : List String} (h : spread as = spread bs) :
    joinBlocks as = joinBlocks bs := by
  have hnil : as = [] ↔ bs = [] := by rw [← spread_eq_nil, h, spread_eq_nil]
  by_cases ha : as = []
  · rw [ha, hnil.mp ha]
  · rw [← toList_joinBlocks_append ha, ← toList_joinBlocks_append (hnil.not.mp ha)] at h
    exact String.toList_injective (List.append_cancel_right h)

namespace Writer

variable {w : Writer}

def block (w : Writer) : Block → String
  | .scalar => "scalar JSON"
  | .declaration d => w.declaration d
  | .root name operations => rootType name (operations.map w.operation)

theorem toList_rootType {name : String} {operations : List Operation} (h : operations ≠ []) :
    (rootType name (operations.map w.operation)).toList =
      header .object name ++ ('\n' ::
        (operations.flatMap (fun op => (w.operation op).toList ++ ['\n', '\n']) ++ ['\x7d'])) := by
  have hne : operations.map w.operation ≠ [] := by simpa using h
  have hjoin := toList_joinBlocks_append hne
  rw [spread, List.flatMap_map] at hjoin
  rw [← hjoin]
  simp [rootType, header, Kind.keyword]

theorem block_append_ne_newline (b : Block) (s t : List Char) :
    (w.block b).toList ++ s ≠ '\n' :: t := by
  cases b with
  | scalar => simp [block]
  | declaration d =>
    obtain ⟨kind, name, fields⟩ := d
    cases kind <;> simp [block, declaration, Kind.keyword]
  | root name operations => simp [block, rootType]

theorem legible_declaration (hw : w.IsBlank) :
    Legible Declaration.OfTokens (fun _ => True) fun d => (w.declaration d).toList := by
  rintro ⟨k, n, fs⟩ ⟨l, m, gs⟩ ha hb s t _ _ h
  simp only [toList_declaration, List.append_assoc] at h
  obtain ⟨hheader, hfields⟩ :=
    legible_header (a := (k, n)) (b := (l, m)) ha.name hb.name trivial trivial h
  cases hheader
  obtain ⟨rfl, hend⟩ :=
    legible_fields hw ha.fields hb.fields ⟨_, _, rfl, rfl⟩ ⟨_, _, rfl, rfl⟩ hfields
  exact ⟨rfl, (List.cons.inj hend).2⟩

theorem legible_rootType (hw : w.IsBlank) :
    Legible (fun x : String × List Operation => (Block.root x.1 x.2).OfTokens) (fun _ => True)
      fun x => (rootType x.1 (x.2.map w.operation)).toList := by
  rintro ⟨n, as⟩ ⟨m, bs⟩ ha hb s t _ _ h
  simp only [toList_rootType ha.2.1, toList_rootType hb.2.1, List.append_assoc,
    List.cons_append] at h
  obtain ⟨hheader, hoperations⟩ :=
    legible_header (a := (_, n)) (b := (_, m)) ha.1 hb.1 trivial trivial h
  cases hheader
  obtain ⟨rfl, hend⟩ := legible_operations hw ha.2.2 hb.2.2 ⟨_, _, rfl, rfl⟩ ⟨_, _, rfl, rfl⟩
    (List.cons.inj hoperations).2
  exact ⟨rfl, (List.cons.inj hend).2⟩

/-- A body of fields begins with an indent or ends at once, one of operations begins with an empty
line. -/
theorem declaration_append_ne (hw : w.IsBlank) {d : Declaration} (hd : d.OfTokens) {name : String}
    {operations : List Operation} (ho : (Block.root name operations).OfTokens) (s t : List Char) :
    (w.declaration d).toList ++ s ≠ (rootType name (operations.map w.operation)).toList ++ t := by
  intro h
  simp only [toList_declaration, toList_rootType ho.2.1, List.append_assoc, List.cons_append] at h
  obtain ⟨-, hbody⟩ := legible_header (a := (d.kind, d.name)) (b := (_, name)) hd.name ho.1
    trivial trivial h
  cases hf : d.fields with
  | nil => simp [hf] at hbody
  | cons f fs =>
    rw [hf, List.flatMap_cons, toList_field, List.append_assoc, List.append_assoc] at hbody
    exact hw.indent_append_ne (by decide) _ _ hbody

theorem scalar_append_ne {b : Block} (hb : b ≠ .scalar) (s t : List Char) :
    "scalar JSON".toList ++ s ≠ (w.block b).toList ++ t := by
  cases b with
  | scalar => exact (hb rfl).elim
  | declaration d =>
    obtain ⟨kind, name, fields⟩ := d
    cases kind <;> simp [block, declaration, Kind.keyword]
  | root name operations => simp [block, rootType]

theorem legible_block (hw : w.IsBlank) :
    Legible Block.OfTokens (fun _ => True) fun b => (w.block b).toList := by
  intro a b ha hb s t hs ht h
  cases a with
  | scalar =>
    cases b with
    | scalar => exact ⟨rfl, List.append_cancel_left h⟩
    | declaration d | root name ops => exact (scalar_append_ne (by simp) _ _ h).elim
  | declaration d =>
    cases b with
    | scalar => exact (scalar_append_ne (by simp) _ _ h.symm).elim
    | declaration d' =>
      obtain ⟨rfl, hrest⟩ := legible_declaration hw ha hb hs ht h
      exact ⟨rfl, hrest⟩
    | root name ops => exact (declaration_append_ne hw ha hb _ _ h).elim
  | root name ops =>
    cases b with
    | scalar => exact (scalar_append_ne (by simp) _ _ h.symm).elim
    | declaration d => exact (declaration_append_ne hw hb ha _ _ h.symm).elim
    | root name' ops' =>
      obtain ⟨hroot, hrest⟩ :=
        legible_rootType hw (a := (name, ops)) (b := (name', ops')) ha hb hs ht h
      cases hroot
      exact ⟨rfl, hrest⟩

/-- Joined blocks of tokens determine the blocks. -/
theorem eq_of_joinBlocks_eq (hw : w.IsBlank) {as bs : List Block} (ha : ∀ a ∈ as, a.OfTokens)
    (hb : ∀ b ∈ bs, b.OfTokens)
    (h : joinBlocks (as.map w.block) = joinBlocks (bs.map w.block)) : as = bs := by
  have hblocks : Legible (fun bs : List Block => ∀ b ∈ bs, b.OfTokens) (· = [])
      (List.flatMap fun b => (w.block b).toList ++ ['\n', '\n']) := by
    refine Legible.flatMap (R := fun _ => True) ?_ (fun _ _ => trivial) fun b _ s => ⟨trivial, ?_⟩
    · intro a b ha hb s t _ _ h
      rw [List.append_assoc, List.append_assoc] at h
      obtain ⟨rfl, hrest⟩ := legible_block hw ha hb trivial trivial h
      exact ⟨rfl, by simpa using hrest⟩
    · simp
  -- Of no blocks and some, the first line of the latter is missing in the former.
  have hnil {b : Block} {bs : List Block} : joinBlocks [] ≠ joinBlocks ((b :: bs).map w.block) := by
    intro h
    have hspread := toList_joinBlocks_append (List.cons_ne_nil (w.block b) (bs.map w.block))
    rw [← List.map_cons, ← h, List.map_cons, spread_cons, List.append_assoc] at hspread
    exact block_append_ne_newline b _ _ hspread.symm
  cases as with
  | nil =>
    cases bs with
    | nil => rfl
    | cons b bs => exact (hnil h).elim
  | cons a as =>
    cases bs with
    | nil => exact (hnil h.symm).elim
    | cons b bs =>
      have hspread : spread ((a :: as).map w.block) = spread ((b :: bs).map w.block) := by
        rw [← toList_joinBlocks_append (by simp), h, toList_joinBlocks_append (by simp)]
      rw [spread, spread, List.flatMap_map, List.flatMap_map] at hspread
      exact (hblocks ha hb rfl rfl (congrArg (· ++ []) hspread)).1

end Writer

end Sdl

end DocumentSchema
