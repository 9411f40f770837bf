import DocumentSchema.Proofs.Filter.Conjunction
import DocumentSchema.Proofs.Schema.OperatorNames

/-!
# Arguments of one field

Where no other field generates a name of a field's operators, an argument with
such a name is taken up by the field itself. On its own it compiles to the test
of its operator.
-/
namespace DocumentSchema

/-- A field of the descriptor `d`, of which no operator shares its name with one of another field or
with the argument for alternatives. -/
structure Entity.Owns (e : Entity) (field : String) (d : Descriptor) : Prop where
  mem : (field, d) ∈ e.fields.entries
  ne_or : field ≠ Filter.orName
  own : ∀ g ∈ e.fields.entries, g.1 ≠ field →
    ∀ s ∈ d.filterSuffixes, ∀ t ∈ g.2.filterSuffixes, g.1 ++ t ≠ field ++ s

/-- No other field generates the name of this argument. -/
def Entity.OwnsName (e : Entity) (field suffix : String) : Prop :=
  ∀ g ∈ e.fields.entries, g.1 ≠ field → ∀ t ∈ g.2.filterSuffixes, g.1 ++ t ≠ field ++ suffix

/-- An operator of a field that takes values of the type. Its argument has a name that neither
another field nor the argument for alternatives has. -/
structure Entity.OwnsOperator (e : Entity) (field : String) (d : Descriptor) (op : FilterOp)
    (type : FilterType) : Prop where
  mem : (field, d) ∈ e.fields.entries
  offered : d.operatorType? op = some type
  own : e.OwnsName field op.suffix
  ne_or : field ++ op.suffix ≠ Filter.orName

theorem Descriptor.suffix_mem_filterSuffixes {d : Descriptor} {block : FilterBlock}
    (h : FilterBlock.ofDescriptor? d = some block) {x : FilterOp × FilterType} (hx : x ∈ block) :
    x.1.suffix ∈ d.filterSuffixes := by
  rw [filterSuffixes, h, Option.getD_some]
  exact List.mem_map_of_mem hx

theorem FilterBlock.eq_of_suffix_eq {d : Descriptor} {block : FilterBlock}
    (h : ofDescriptor? d = some block) {x y : FilterOp × FilterType} (hx : x ∈ block)
    (hy : y ∈ block) (hs : x.1.suffix = y.1.suffix) : x = y := by
  have hnodup := d.areSuffixes_filterSuffixes.nodup
  rw [Descriptor.filterSuffixes, h, Option.getD_some] at hnodup
  exact List.inj_on_of_nodup_map hnodup hx hy hs

namespace Filter

/-- The arguments compile, and accept the document under exactly one condition. -/
def Decides (c : Catalog) (e : Entity) (arguments : List (String × Value)) (document : Value)
    (condition : Prop) : Prop :=
  ∃ m, compile c e.name arguments = .ok m ∧ (m.accepts document = true ↔ condition)

theorem append_suffix_ne_orName {field suffix : String} (hf : field ≠ orName)
    (hs : IsSuffix suffix) : field ++ suffix ≠ orName := by
  intro h
  rw [eq_empty_of_append_eq_orName hs h, String.append_empty] at h
  exact hf h

section Own

variable {e : Entity} {field : String} {d : Descriptor} {block : FilterBlock}
  {op : FilterOp} {type : FilterType}

theorem ne_orName_of_owns (h : e.Owns field d) (hb : FilterBlock.ofDescriptor? d = some block)
    (hx : (op, type) ∈ block) : field ++ op.suffix ≠ orName := by
  have hs := Descriptor.suffix_mem_filterSuffixes hb hx
  exact append_suffix_ne_orName h.ne_or (d.areSuffixes_filterSuffixes.isSuffix _ hs)

theorem ownsName_of_owns (h : e.Owns field d) (hb : FilterBlock.ofDescriptor? d = some block)
    (hx : (op, type) ∈ block) : e.OwnsName field op.suffix :=
  fun g hg hgf => h.own g hg hgf _ (Descriptor.suffix_mem_filterSuffixes hb hx)

/-- An operator's name belongs to no other offer. -/
theorem eq_of_mem_offers_of_ownsName (hd : (field, d) ∈ e.fields.entries)
    (hb : FilterBlock.ofDescriptor? d = some block) (hx : (op, type) ∈ block)
    (h : e.OwnsName field op.suffix) {o : Offer}
    (ho : o ∈ offers e) (hn : o.argument.name = field ++ op.suffix) :
    o = ⟨⟨field, op, type⟩, d⟩ := by
  obtain ⟨⟨g, d'⟩, hg, ho⟩ := List.mem_flatMap.mp ho
  obtain ⟨a, ha, rfl⟩ := List.mem_map.mp ho
  obtain ⟨block', hb', ⟨op', type'⟩, hy, rfl⟩ :
      ∃ block', FilterBlock.ofDescriptor? d' = some block' ∧
        ∃ y ∈ block', ⟨g, y.1, y.2⟩ = a := by
    cases hb' : FilterBlock.ofDescriptor? d' with
    | none =>
      rw [filterArguments?, hb'] at ha
      cases ha
    | some block' =>
      rw [filterArguments?, hb'] at ha
      exact ⟨block', rfl, List.mem_map.mp ha⟩
  have hn : g ++ op'.suffix = field ++ op.suffix := hn
  -- Of the field itself the suffix tells the operator; no other field generates the name.
  by_cases hgf : g = field
  · subst hgf
    have hdd : d' = d := by
      have heq := List.inj_on_of_nodup_map e.fields.distinct hg hd rfl
      exact congrArg Prod.snd heq
    subst hdd
    rw [hb, Option.some.injEq] at hb'
    subst hb'
    have hsuffix : op'.suffix = op.suffix := (String.append_right_inj g).mp hn
    cases FilterBlock.eq_of_suffix_eq hb hy hx hsuffix
    rfl
  · have ht := Descriptor.suffix_mem_filterSuffixes hb' hy
    exact (h (g, d') hg hgf _ ht hn).elim

theorem mem_offers (hd : (field, d) ∈ e.fields.entries)
    (hb : FilterBlock.ofDescriptor? d = some block) (hx : (op, type) ∈ block) :
    (⟨⟨field, op, type⟩, d⟩ : Offer) ∈ offers e := by
  have hargument : (⟨field, op, type⟩ : FilterArgument) ∈ (filterArguments? field d).getD [] := by
    rw [filterArguments?, hb]
    exact List.mem_map.mpr ⟨(op, type), hx, rfl⟩
  exact List.mem_flatMap.mpr ⟨(field, d), hd, List.mem_map.mpr ⟨_, hargument, rfl⟩⟩

theorem offer?_of_ownsName (hd : (field, d) ∈ e.fields.entries)
    (hb : FilterBlock.ofDescriptor? d = some block) (hx : (op, type) ∈ block)
    (h : e.OwnsName field op.suffix) :
    offer? e (field ++ op.suffix) = some ⟨⟨field, op, type⟩, d⟩ := by
  have hmem := mem_offers hd hb hx
  cases ho : offer? e (field ++ op.suffix) with
  | none =>
    have hnone := List.find?_eq_none.mp ho _ (List.mem_reverse.mpr hmem)
    exact (hnone (decide_eq_true_iff.mpr rfl)).elim
  | some o =>
    have hmem' := List.mem_reverse.mp (List.mem_of_find?_eq_some ho)
    have hname : o.argument.name = field ++ op.suffix := by simpa using List.find?_some ho
    rw [eq_of_mem_offers_of_ownsName hd hb hx h hmem' hname]

theorem offer?_of_owns (h : e.Owns field d) (hb : FilterBlock.ofDescriptor? d = some block)
    (hx : (op, type) ∈ block) :
    offer? e (field ++ op.suffix) = some ⟨⟨field, op, type⟩, d⟩ :=
  offer?_of_ownsName h.mem hb hx (ownsName_of_owns h hb hx)

theorem ownsOperator_of_owns (h : e.Owns field d) (ht : d.operatorType? op = some type) :
    e.OwnsOperator field d op type := by
  obtain ⟨block, hb, hx⟩ := Descriptor.mem_of_operatorType? ht
  exact ⟨h.mem, ht, ownsName_of_owns h hb hx, ne_orName_of_owns h hb hx⟩

theorem compileArgument_of_ownsOperator {c : Catalog} (h : e.OwnsOperator field d op type)
    (hop : op ≠ .nested) {v : Value} (hv : v.isNull = false) :
    compileArgument c e (field ++ op.suffix) v =
      check (field ++ op.suffix) ⟨⟨field, op, type⟩, d⟩ v >>= fun _ =>
        part (field ++ op.suffix) ⟨⟨field, op, type⟩, d⟩ v := by
  obtain ⟨block, hb, hx⟩ := Descriptor.mem_of_operatorType? h.offered
  have hoffer := offer?_of_ownsName h.mem hb hx h.own
  rw [compileArgument_of_ne h.ne_or hv, takeUp, hoffer]
  dsimp only
  cases check (field ++ op.suffix) ⟨⟨field, op, type⟩, d⟩ v with
  | error fault => rfl
  | ok _ => exact compileOffer_eq_part hop

end Own

theorem owns_editions : Entity.book.Owns "editions" (.scalarArray .int) :=
  ⟨by decide, by decide, by decide⟩

end Filter

end DocumentSchema
