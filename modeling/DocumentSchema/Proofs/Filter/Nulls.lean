import DocumentSchema.Proofs.Filter.Conjunction
import DocumentSchema.Proofs.Filter.Declared
import DocumentSchema.Proofs.Value

/-!
# Filters with nulls left out

Arguments stand on levels: those of the filter itself, those of every
alternative and those of every nested filter. Where the names on all levels are
declared, leaving out the nulls on all levels changes nothing about the result,
unless a null is given for alternatives. That is an error.
-/
namespace DocumentSchema

namespace Filter

def filterTarget? (c : Catalog) (e : Entity) (name : String) : Option Entity :=
  if name = orName then none
  else ((offer? e name).filter fun o => o.argument.op = .nested).bind fun o =>
    o.descriptor.target?.bind c.get?

/-- The arguments of an entity that are part of a filter. -/
inductive Level (c : Catalog) :
    Entity → List (String × Value) → Entity → List (String × Value) → Prop
  | top {e arguments} : Level c e arguments e arguments
  | branch {e arguments items members e' arguments'} (ha : (orName, .array items) ∈ arguments)
    (hi : .object members ∈ items) (h : Level c e members e' arguments') :
    Level c e arguments e' arguments'
  | nested {e arguments name t members e' arguments'} (ha : (name, .object members) ∈ arguments)
    (ht : filterTarget? c e name = some t) (h : Level c t members e' arguments') :
    Level c e arguments e' arguments'

mutual

/-- An argument's value without the nulls on the levels in it. -/
def valueWithoutNulls (c : Catalog) (e : Entity) (name : String) : Value → Value
  | .array items => if name = orName then .array (branchesWithoutNulls c e items) else .array items
  | .object members =>
    match filterTarget? c e name with
    | some t => .object (withoutNulls c t members)
    | none => .object members
  | v => v

/-- Arguments without the nulls on any level. -/
def withoutNulls (c : Catalog) (e : Entity) : List (String × Value) → List (String × Value)
  | [] => []
  | (name, v) :: rest =>
    if v.isNull then withoutNulls c e rest
    else (name, valueWithoutNulls c e name v) :: withoutNulls c e rest

def branchesWithoutNulls (c : Catalog) (e : Entity) : List Value → List Value
  | [] => []
  | .object members :: rest => .object (withoutNulls c e members) :: branchesWithoutNulls c e rest
  | v :: rest => v :: branchesWithoutNulls c e rest

end

def branchWithoutNulls (c : Catalog) (e : Entity) : Value → Value
  | .object members => .object (withoutNulls c e members)
  | v => v

/-- The names on all levels are declared in the filter inputs of their entities. -/
def Declared (c : Catalog) (e : Entity) (arguments : List (String × Value)) : Prop :=
  ∀ e' arguments', Level c e arguments e' arguments' →
    ∀ a ∈ arguments', ∃ type, c.filterType? e' a.1 = some type

/-- The fault of a null that is given for alternatives on some level. -/
def NullAlternatives (c : Catalog) (e : Entity) (arguments : List (String × Value))
    (fault : FilterError) : Prop :=
  ∃ e' arguments', Level c e arguments e' arguments' ∧ (orName, .null) ∈ arguments' ∧
    fault = .invalidValue orName (listOf (TypeName.filters e'.name))

section Walks

variable (c : Catalog) (e : Entity)

theorem withoutNulls_eq (arguments : List (String × Value)) :
    withoutNulls c e arguments = (arguments.filter fun a => !a.2.isNull).map fun a =>
      (a.1, valueWithoutNulls c e a.1 a.2) := by
  induction arguments with
  | nil => rfl
  | cons a rest ih =>
    obtain ⟨name, v⟩ := a
    rw [withoutNulls, ih]
    cases hv : v.isNull with
    | true => rw [if_pos rfl, List.filter_cons_of_neg (by simp [hv])]
    | false => rw [if_neg (by simp), List.filter_cons_of_pos (by simp [hv]), List.map_cons]

theorem branchesWithoutNulls_eq (items : List Value) :
    branchesWithoutNulls c e items = items.map (branchWithoutNulls c e) := by
  induction items with
  | nil => rfl
  | cons v rest ih =>
    rw [List.map_cons, ← ih]
    cases v <;> rfl

end Walks

section Inside

variable {c : Catalog} {e : Entity} {name : String} {arguments : List (String × Value)}

/-- What holds on all levels holds on the top one and on all levels of alternatives and of nested
filters. -/
theorem Level.forall_iff {motive : Entity → List (String × Value) → Prop} :
    (∀ e' arguments', Level c e arguments e' arguments' → motive e' arguments') ↔
      motive e arguments ∧
        (∀ items, (orName, .array items) ∈ arguments → ∀ members, .object members ∈ items →
          ∀ e' arguments', Level c e members e' arguments' → motive e' arguments') ∧
        ∀ name members, (name, .object members) ∈ arguments →
          ∀ t, filterTarget? c e name = some t →
            ∀ e' arguments', Level c t members e' arguments' → motive e' arguments' := by
  constructor
  · intro h
    refine ⟨h _ _ .top, fun items ha members hi e' arguments' hl => ?_,
      fun name members ha t ht e' arguments' hl => ?_⟩
    · exact h _ _ (.branch ha hi hl)
    · exact h _ _ (.nested ha ht hl)
  · rintro ⟨htop, hbranch, hnested⟩ e' arguments' hl
    cases hl with
    | top => exact htop
    | branch ha hi hl => exact hbranch _ ha _ hi _ _ hl
    | nested ha ht hl => exact hnested _ _ ha _ ht _ _ hl

theorem Level.mono {others : List (String × Value)} (hsub : arguments ⊆ others) {e' : Entity}
    {arguments' : List (String × Value)} (h : Level c e arguments e' arguments') :
    e' = e ∧ arguments' = arguments ∨ Level c e others e' arguments' := by
  cases h with
  | top => exact .inl ⟨rfl, rfl⟩
  | branch ha hi h => exact .inr (.branch (hsub ha) hi h)
  | nested ha ht h => exact .inr (.nested (hsub ha) ht h)

theorem Declared.mono {others : List (String × Value)} (h : Declared c e others)
    (hsub : arguments ⊆ others) : Declared c e arguments := by
  intro e' arguments' hl
  rcases hl.mono hsub with ⟨rfl, rfl⟩ | hl
  · exact fun a ha => h _ _ .top a (hsub ha)
  · exact h e' arguments' hl

theorem NullAlternatives.mono {others : List (String × Value)} {fault : FilterError}
    (h : NullAlternatives c e arguments fault) (hsub : arguments ⊆ others) :
    NullAlternatives c e others fault := by
  obtain ⟨e', arguments', hl, hnull, hfault⟩ := h
  rcases hl.mono hsub with ⟨rfl, rfl⟩ | hl
  · exact ⟨e', others, .top, hsub hnull, hfault⟩
  · exact ⟨e', arguments', hl, hnull, hfault⟩

theorem filterTarget?_eq_some (hn : name ≠ orName) {t : Entity} :
    filterTarget? c e name = some t ↔
      ∃ o, offer? e name = some o ∧ o.argument.op = .nested ∧
        ∃ target, o.descriptor.target? = some target ∧ c.get? target = some t := by
  simp only [filterTarget?, if_neg hn, Option.bind_eq_some_iff, Option.filter_eq_some_iff,
    decide_eq_true_eq, and_assoc]

theorem ne_orName_of_filterTarget? {t : Entity} (h : filterTarget? c e name = some t) :
    name ≠ orName := by
  rintro rfl
  rw [filterTarget?, if_pos rfl] at h
  cases h

end Inside

def Part.isGiven : Part → Bool
  | .nothing => false
  | _ => true

theorem filterMap_filter_isGiven {β : Type} {f : Part → Option β} (hf : f .nothing = none)
    (parts : List Part) : (parts.filter Part.isGiven).filterMap f = parts.filterMap f := by
  rw [List.filterMap_filter]
  congr 1
  funext p
  cases p <;> simp [Part.isGiven, hf]

theorem ofParts_filter_isGiven (parts : List Part) :
    ofParts (parts.filter Part.isGiven) = ofParts parts := by
  have hmatchers : (parts.filter Part.isGiven).flatMap Part.matchers =
      parts.flatMap Part.matchers := by
    induction parts with
    | nil => rfl
    | cons p parts ih => cases p <;> simp [List.filter_cons, Part.isGiven, Part.matchers, ih]
  rw [ofParts_eq, ofParts_eq, hmatchers, filterMap_filter_isGiven rfl,
    filterMap_filter_isGiven rfl, filterMap_filter_isGiven rfl]

section Compile

variable {c : Catalog} {e : Entity} {name : String}

theorem takeUp_object (members members' : List (String × Value)) :
    takeUp e name (.object members) = takeUp e name (.object members') := by
  have hadmits (type : FilterType) :
      type.admits (.object members) = type.admits (.object members') := by
    cases type <;> rfl
  unfold takeUp check
  simp only [hadmits]
  rfl

/-- What is shown of a value by induction: without the nulls in it, it compiles to the same part as
an argument and, when it is an object, to the same matcher as arguments, unless the fault is that
of a null for alternatives. -/
structure IgnoresNulls (c : Catalog) (v : Value) : Prop where
  argument : ∀ {e : Entity} {name : String}, Declared c e [(name, v)] →
    Traversal.SameUnless (NullAlternatives c e [(name, v)]) (compileArgument c e name v)
      (compileArgument c e name (valueWithoutNulls c e name v))
  arguments : ∀ {e : Entity} {members : List (String × Value)}, v = .object members →
    Declared c e members →
    Traversal.SameUnless (NullAlternatives c e members)
      ((compileArguments c e members).map ofParts)
      ((compileArguments c e (withoutNulls c e members)).map ofParts)

theorem compileArgument_null_of_declared (hd : Declared c e [(name, .null)]) :
    compileArgument c e name .null = .ok .nothing ∨
      ∃ fault, NullAlternatives c e [(name, .null)] fault ∧
        compileArgument c e name .null = .error fault := by
  by_cases hn : name = orName
  · subst hn
    exact .inr ⟨_, ⟨e, _, .top, List.mem_singleton_self _, rfl⟩, rfl⟩
  · have hdeclared := hd _ _ .top _ (List.mem_singleton_self _)
    obtain ⟨o, ho⟩ := (c.exists_filterType? e hn).mp hdeclared
    rw [compileArgument_null hn, ho]
    exact .inl rfl

section Arguments

variable {members : List (String × Value)} (hd : Declared c e members)
include hd

/-- Nulls on the top level add nothing that is asked for. -/
theorem compileArguments_filter_nulls :
    Traversal.SameUnless (NullAlternatives c e members)
      ((compileArguments c e members).map (List.filter Part.isGiven))
      ((compileArguments c e (members.filter fun m => !m.2.isNull)).map
        (List.filter Part.isGiven)) := by
  rw [compileArguments_eq_mapM, compileArguments_eq_mapM]
  refine .mapM_filter fun m hm hv => ?_
  have hsub : [m] ⊆ members := List.cons_subset.mpr ⟨hm, List.nil_subset _⟩
  obtain ⟨name, v⟩ := m
  cases v with
  | null =>
    rcases compileArgument_null_of_declared (hd.mono hsub) with hnull | ⟨fault, hfault, hnull⟩
    · exact .inl ⟨_, hnull, rfl⟩
    · exact .inr ⟨fault, hfault.mono hsub, hnull⟩
  | _ => cases hv

theorem compileArguments_withoutNulls (h : ∀ m ∈ members, IgnoresNulls c m.2) :
    Traversal.SameUnless (NullAlternatives c e members)
      ((compileArguments c e members).map ofParts)
      ((compileArguments c e (withoutNulls c e members)).map ofParts) := by
  have hinside : Traversal.SameUnless (NullAlternatives c e members)
      (compileArguments c e (members.filter fun m => !m.2.isNull))
      (compileArguments c e (withoutNulls c e members)) := by
    rw [compileArguments_eq_mapM, compileArguments_eq_mapM, withoutNulls_eq, List.mapM_map]
    refine .mapM fun m hm => ?_
    have hm := List.mem_of_mem_filter hm
    have hsub : [m] ⊆ members := List.cons_subset.mpr ⟨hm, List.nil_subset _⟩
    exact ((h m hm).argument (hd.mono hsub)).mono fun _ hfault => hfault.mono hsub
  have hparts (x : Except FilterError (List Part)) :
      x.map ofParts = (x.map (List.filter Part.isGiven)).map ofParts := by
    cases x <;> simp [Except.map, ofParts_filter_isGiven]
  rw [hparts, hparts (compileArguments c e (withoutNulls c e members))]
  exact ((compileArguments_filter_nulls hd).trans (hinside.map _)).map _

end Arguments

theorem compileBranch_withoutNulls {items : List Value}
    (hd : Declared c e [(orName, .array items)]) (h : ∀ i ∈ items, IgnoresNulls c i) {i : Value}
    (hi : i ∈ items) :
    Traversal.SameUnless (NullAlternatives c e [(orName, .array items)])
      (compileBranch c e orName i) (compileBranch c e orName (branchWithoutNulls c e i)) := by
  cases i with
  | object members =>
    have hdeclared : Declared c e members := fun e' arguments' hl =>
      hd e' arguments' (.branch (List.mem_singleton_self _) hi hl)
    refine ((h _ hi).arguments rfl hdeclared).mono ?_
    rintro fault ⟨e', arguments', hl, hnull, hfault⟩
    exact ⟨e', arguments', .branch (List.mem_singleton_self _) hi hl, hnull, hfault⟩
  | _ => exact .of_eq rfl

theorem compileArgument_object {t : Entity} (ht : filterTarget? c e name = some t) :
    ∃ o, offer? e name = some o ∧ o.argument.op = .nested ∧ ∀ members,
      compileArgument c e name (.object members) = (takeUp e name (.object members)).bind fun _ =>
        ((compileArguments c t members).map ofParts).map (.embedded o.argument.field) := by
  have hn := ne_orName_of_filterTarget? ht
  obtain ⟨o, ho, hop, target, htarget, hget⟩ := (filterTarget?_eq_some hn).mp ht
  refine ⟨o, ho, hop, fun members => ?_⟩
  rw [compileArgument_of_ne hn rfl]
  cases htake : takeUp e name (.object members) with
  | error fault => rfl
  | ok o' =>
    obtain ⟨ho', -⟩ := takeUp_eq_ok.mp htake
    rw [ho, Option.some.injEq] at ho'
    subst ho'
    simp only [bind, Except.bind, compileOffer, if_pos hop, htarget, hget]
    cases compileArguments c t members <;> rfl

theorem ignoresNulls_of_inside {v : Value}
    (hitems : ∀ items, v = .array items → ∀ i ∈ items, IgnoresNulls c i)
    (hmembers : ∀ members, v = .object members → ∀ m ∈ members, IgnoresNulls c m.2) :
    IgnoresNulls c v := by
  have harguments {e : Entity} {members : List (String × Value)} (hv : v = .object members)
      (hd : Declared c e members) :=
    compileArguments_withoutNulls hd (hmembers members hv)
  refine ⟨fun {e name} hd => ?_, harguments⟩
  cases v with
  | array items =>
    by_cases hn : name = orName
    · subst hn
      rw [valueWithoutNulls, if_pos rfl, branchesWithoutNulls_eq, compileArgument_or,
        compileArgument_or, List.mapM_map]
      exact (Traversal.SameUnless.mapM fun i hi =>
        compileBranch_withoutNulls hd (hitems items rfl) hi).map _
    · rw [valueWithoutNulls, if_neg hn]
      exact .of_eq rfl
  | object members =>
    rw [valueWithoutNulls]
    cases ht : filterTarget? c e name with
    | none => exact .of_eq rfl
    | some t =>
      have hdeclared : Declared c t members := fun e' arguments' hl =>
        hd e' arguments' (.nested (List.mem_singleton_self _) ht hl)
      -- The argument itself is checked in the same way, so only what is nested in it differs.
      obtain ⟨_, -, -, hcompile⟩ := compileArgument_object ht
      rw [hcompile, hcompile, takeUp_object (withoutNulls c t members) members]
      cases takeUp e name (.object members) with
      | error fault => exact .of_eq rfl
      | ok o =>
        refine ((harguments rfl hdeclared).map _).mono ?_
        rintro fault ⟨e', arguments', hl, hnull, hfault⟩
        exact ⟨e', arguments', .nested (List.mem_singleton_self _) ht hl, hnull, hfault⟩
  | _ => exact .of_eq rfl

theorem ignoresNulls (c : Catalog) (v : Value) : IgnoresNulls c v := by
  induction v using Value.insideInduction with
  | inside v hitems hmembers => exact ignoresNulls_of_inside hitems hmembers

/-- Arguments compile only when those on all of their levels do. -/
theorem Level.compileArguments_isOk {arguments : List (String × Value)} {e' : Entity}
    {arguments' : List (String × Value)} (h : Level c e arguments e' arguments')
    (hok : ∃ parts, compileArguments c e arguments = .ok parts) :
    ∃ parts, compileArguments c e' arguments' = .ok parts := by
  induction h with
  | top => exact hok
  | branch ha hi h ih =>
    rw [compileArguments_eq_mapM, Traversal.mapM_isOk] at hok
    have hbranches := hok _ ha
    rw [compileArgument_or, Traversal.map_isOk, Traversal.mapM_isOk] at hbranches
    exact ih (Traversal.map_isOk.mp (hbranches _ hi))
  | nested ha ht h ih =>
    rw [compileArguments_eq_mapM, Traversal.mapM_isOk] at hok
    obtain ⟨p, hp⟩ := hok _ ha
    obtain ⟨_, -, -, hcompile⟩ := compileArgument_object ht
    rw [hcompile] at hp
    obtain ⟨o, -, hp⟩ := Traversal.bind_eq_ok.mp hp
    exact ih (Traversal.map_isOk.mp (Traversal.map_isOk.mp ⟨p, hp⟩))

theorem compileArguments_nullAlternatives {arguments : List (String × Value)}
    (h : (orName, .null) ∈ arguments) : ¬ ∃ parts, compileArguments c e arguments = .ok parts := by
  rw [compileArguments_eq_mapM, Traversal.mapM_isOk]
  intro hok
  obtain ⟨p, hp⟩ := hok _ h
  cases hp

/-- A null is as good as no argument, except for alternatives. Where the names on all levels are
declared, a filter compiles to the same result without the nulls on its levels when none of them is
given for alternatives. When one is, the filter does not compile, and its error is that of the
filter without nulls or the one about a null for alternatives. -/
theorem compile_withoutNulls (he : e ∈ c.entities) {arguments : List (String × Value)}
    (hd : Declared c e arguments) :
    ((∀ e' arguments', Level c e arguments e' arguments' → (orName, .null) ∉ arguments') →
        compile c e.name arguments = compile c e.name (withoutNulls c e arguments)) ∧
      (∀ e' arguments', Level c e arguments e' arguments' → (orName, .null) ∈ arguments' →
        ∃ fault, compile c e.name arguments = .error fault) ∧
      ∀ fault, compile c e.name arguments = .error fault →
        compile c e.name (withoutNulls c e arguments) = .error fault ∨
          ∃ e' arguments', Level c e arguments e' arguments' ∧ (orName, .null) ∈ arguments' ∧
            fault = .invalidValue orName (listOf (TypeName.filters e'.name)) := by
  have hsame := (ignoresNulls c (.object arguments)).arguments rfl hd
  rw [← compile_of_mem he, ← compile_of_mem he] at hsame
  refine ⟨fun hnone => ?_, fun e' arguments' hl hnull => ?_, fun fault hfault => ?_⟩
  · rcases hsame with hsame | ⟨fault, ⟨e', arguments', hl, hnull, -⟩, -⟩
    · exact hsame
    · exact (hnone e' arguments' hl hnull).elim
  · cases hm : compile c e.name arguments with
    | error fault => exact ⟨fault, rfl⟩
    | ok m =>
      have hok : ∃ m, compile c e.name arguments = .ok m := ⟨m, hm⟩
      rw [compile_of_mem he, Traversal.map_isOk] at hok
      exact (compileArguments_nullAlternatives hnull (hl.compileArguments_isOk hok)).elim
  · rcases hsame with hsame | ⟨fault', hnull, herror⟩
    · exact .inl (hsame ▸ hfault)
    · rw [herror, Except.error.injEq] at hfault
      exact .inr (hfault ▸ hnull)

end Compile

def nullFilters : List (String × Value) :=
  [("OR", .array [.object [("title", .null), ("pages", .number (.int 3))]]),
    ("authors", .object [("name", .null)]), ("published", .null)]

theorem forall_level_nullFilters {motive : Entity → List (String × Value) → Prop}
    (htop : motive .book nullFilters)
    (hbranch : motive .book [("title", .null), ("pages", .number (.int 3))])
    (hnested : motive .author [("name", .null)]) :
    ∀ e' arguments', Level .library .book nullFilters e' arguments' → motive e' arguments' := by
  refine Level.forall_iff.mpr ⟨htop, ?_, ?_⟩
  · intro items ha members hi
    simp only [nullFilters, orName, List.mem_cons, Prod.mk.injEq, Value.array.injEq, true_and,
      String.reduceEq, reduceCtorEq, and_self, List.not_mem_nil, or_self, or_false] at ha
    subst ha
    simp only [List.mem_cons, Value.object.injEq, List.not_mem_nil, or_false] at hi
    subst hi
    exact Level.forall_iff.mpr ⟨hbranch, by simp, by simp⟩
  · intro name members ha t ht
    simp only [nullFilters, List.mem_cons, Prod.mk.injEq, reduceCtorEq, and_false,
      Value.object.injEq, List.not_mem_nil, or_self, or_false, false_or] at ha
    obtain ⟨rfl, rfl⟩ := ha
    cases ht
    exact Level.forall_iff.mpr ⟨hnested, by simp, by simp⟩

theorem library_filters_without_nulls :
    Entity.book ∈ Catalog.library.entities ∧ Declared .library .book nullFilters ∧
      compile .library "Book" nullFilters =
        compile .library "Book" [("OR", .array [.object [("pages", .number (.int 3))]]),
          ("authors", .object [])] := by
  have he : Entity.book ∈ Catalog.library.entities := List.mem_cons_self
  have hd : Declared .library .book nullFilters :=
    forall_level_nullFilters
      (by simpa [nullFilters] using ⟨⟨_, rfl⟩, ⟨_, rfl⟩, ⟨_, rfl⟩⟩)
      (by simpa using ⟨⟨_, rfl⟩, ⟨_, rfl⟩⟩)
      (by simpa using ⟨_, rfl⟩)
  obtain ⟨hsame, -, -⟩ := compile_withoutNulls he hd
  exact ⟨he, hd, hsame (forall_level_nullFilters (by simp [nullFilters, orName])
    (by simp [orName]) (by simp [orName]))⟩

/-- A null for alternatives is an error; without it the filter compiles. -/
theorem library_null_alternatives :
    Declared .library .book [("OR", .null)] ∧
      withoutNulls .library .book [("OR", .null)] = [] ∧
      compile .library "Book" [("OR", .null)] = .error (.invalidValue "OR" "[BookFilters]") ∧
      compile .library "Book" [] = .ok .all := by
  refine ⟨Level.forall_iff.mpr ⟨?_, by simp, by simp⟩, rfl, rfl, rfl⟩
  simpa using ⟨_, rfl⟩

end Filter

end DocumentSchema
