import DocumentSchema.Proofs.Sdl.Legible

/-!
# Reading what the writer lays out

When names and types are tokens and the indent is blank, declarations and root
types can be read back from a text: they are told by their first words and by
how their bodies begin, and a body ends where no indent stands.
-/
namespace DocumentSchema

namespace Sdl

structure Argument.OfTokens (a : Argument) : Prop where
  name : IsToken a.name
  type : IsToken a.type

structure Operation.OfTokens (op : Operation) : Prop where
  name : IsToken op.name
  arguments : ∀ a ∈ op.arguments, a.OfTokens
  returns : IsToken op.returns

def Field.toOperation (f : Field) : Operation := ⟨f.name, f.arguments, f.type⟩

theorem Field.toOperation_injective : Function.Injective toOperation := by
  rintro ⟨⟩ ⟨⟩ h
  simpa [toOperation] using h

structure Declaration.OfTokens (d : Declaration) : Prop where
  name : IsToken d.name
  fields : ∀ f ∈ d.fields, f.toOperation.OfTokens

namespace Writer

variable {w : Writer}

/-- A writer whose indent begins with a blank. -/
def IsBlank (w : Writer) : Prop := Begins (fun c => c = ' ' ∨ c = '\t') w.indent.toList

theorem IsBlank.indent_append_ne (hw : w.IsBlank) {c : Char} (hc : c ≠ ' ' ∧ c ≠ '\t')
    (s t : List Char) : w.indent.toList ++ s ≠ c :: t := by
  obtain ⟨b, rest, hindent, hb⟩ := hw
  rw [hindent, List.cons_append]
  rintro h
  rw [List.cons.injEq] at h
  rcases hb with rfl | rfl
  · exact hc.1 h.1.symm
  · exact hc.2 h.1.symm

theorem toList_argument (a : Argument) :
    (argument a).toList = a.name.toList ++ ':' :: ' ' :: a.type.toList := by
  simp [argument]

theorem legible_argument : Legible Argument.OfTokens (Begins (isSeparator · = true))
    fun a => (argument a).toList := by
  rintro ⟨n, t⟩ ⟨m, u⟩ ha hb r s hr hs h
  simp only [toList_argument, List.append_assoc, List.cons_append] at h
  obtain ⟨rfl, htype⟩ := legible_token ha.name hb.name ⟨_, _, rfl, rfl⟩ ⟨_, _, rfl, rfl⟩ h
  simp only [List.cons.injEq, true_and] at htype
  obtain ⟨rfl, hrest⟩ := legible_token ha.type hb.type hr hs htype
  exact ⟨rfl, hrest⟩

/-- A way to lay out arguments that can be read before the colon of a type. -/
structure IsLayout (layout : List Argument → List Char) : Prop where
  legible : Legible (fun as => ∀ a ∈ as, a.OfTokens) (Begins (· = ':')) layout
  begins : ∀ as s, Begins (isSeparator · = true) (layout as ++ ':' :: s)

/-- Some arguments after a parenthesis, or nothing at all. -/
def parenthesized (body : List Argument → List Char) : List Argument → List Char
  | [] => []
  | a :: as => '(' :: body (a :: as)

theorem isLayout_parenthesized {body : List Argument → List Char}
    (h : Legible (fun as => as ≠ [] ∧ ∀ a ∈ as, a.OfTokens) (fun _ => True) body) :
    IsLayout (parenthesized body) := by
  constructor
  · rintro as bs ha hb _ _ ⟨c, s, rfl, rfl⟩ ⟨d, t, rfl, rfl⟩ hst
    cases as with
    | nil =>
      cases bs with
      | nil => exact ⟨rfl, hst⟩
      | cons b bs => simp [parenthesized] at hst
    | cons a as =>
      cases bs with
      | nil => simp [parenthesized] at hst
      | cons b bs =>
        simp only [parenthesized, List.cons_append, List.cons.injEq, true_and] at hst
        exact h ⟨List.cons_ne_nil a as, ha⟩ ⟨List.cons_ne_nil b bs, hb⟩ trivial trivial hst
  · intro as s
    cases as <;> exact ⟨_, _, rfl, rfl⟩

def onLine (as : List Argument) : List Char :=
  (", ".intercalate (as.map argument)).toList ++ [')']

def more (as : List Argument) : List Char :=
  as.flatMap fun b => ',' :: ' ' :: (argument b).toList

theorem onLine_cons (a : Argument) (as : List Argument) :
    onLine (a :: as) = (argument a).toList ++ (more as ++ [')']) := by
  simp [onLine, more, intercalate_cons, List.flatMap_map]

theorem legible_more : Legible (fun as => ∀ a ∈ as, a.OfTokens) (Begins (· = ')')) more := by
  refine Legible.flatMap (R := Begins (isSeparator · = true)) ?_ ?_ ?_
  · intro a b ha hb s t hs ht h
    simp only [List.cons_append, List.cons.injEq, true_and] at h
    exact legible_argument ha hb hs ht h
  · rintro _ ⟨c, s, rfl, rfl⟩
    exact ⟨_, _, rfl, rfl⟩
  · intro a _ s
    refine ⟨⟨_, _, rfl, rfl⟩, ?_⟩
    rintro ⟨c, t, h, rfl⟩
    simp at h

theorem legible_onLine :
    Legible (fun as => as ≠ [] ∧ ∀ a ∈ as, a.OfTokens) (fun _ => True) onLine := by
  have hbegins (as : List Argument) (s : List Char) :
      Begins (isSeparator · = true) (more as ++ ')' :: s) := by
    cases as <;> exact ⟨_, _, rfl, rfl⟩
  rintro as bs ⟨hane, ha⟩ ⟨hbne, hb⟩ s t _ _ h
  obtain ⟨a, as, rfl⟩ := List.exists_cons_of_ne_nil hane
  obtain ⟨b, bs, rfl⟩ := List.exists_cons_of_ne_nil hbne
  obtain ⟨ha, has⟩ := List.forall_mem_cons.mp ha
  obtain ⟨hb, hbs⟩ := List.forall_mem_cons.mp hb
  simp only [onLine_cons, List.append_assoc, List.cons_append, List.nil_append] at h
  obtain ⟨rfl, hmore⟩ := legible_argument ha hb (hbegins _ _) (hbegins _ _) h
  obtain ⟨rfl, hend⟩ := legible_more has hbs ⟨_, _, rfl, rfl⟩ ⟨_, _, rfl, rfl⟩ hmore
  exact ⟨rfl, (List.cons.inj hend).2⟩

def line (w : Writer) (a : Argument) : List Char :=
  w.indent.toList ++ (w.indent.toList ++ ((argument a).toList ++ ['\n']))

def onLines (w : Writer) (as : List Argument) : List Char :=
  '\n' :: (as.flatMap w.line ++ (w.indent.toList ++ [')']))

theorem legible_lines (hw : w.IsBlank) :
    Legible (fun as => ∀ a ∈ as, a.OfTokens) (fun s => ∃ t, s = w.indent.toList ++ ')' :: t)
      (List.flatMap w.line) := by
  refine Legible.flatMap (R := fun _ => True) ?_ (fun _ _ => trivial) ?_
  · intro a b ha hb s t _ _ h
    simp only [line, List.append_assoc, List.cons_append, List.nil_append,
      List.append_cancel_left_eq] at h
    obtain ⟨rfl, hend⟩ := legible_argument ha hb ⟨_, _, rfl, rfl⟩ ⟨_, _, rfl, rfl⟩ h
    exact ⟨rfl, (List.cons.inj hend).2⟩
  · intro a _ s
    refine ⟨trivial, ?_⟩
    rintro ⟨t, h⟩
    -- After the first indent a line has another one.
    simp only [line, List.append_assoc, List.append_cancel_left_eq] at h
    exact hw.indent_append_ne (by decide) _ _ h

theorem legible_onLines (hw : w.IsBlank) :
    Legible (fun as => as ≠ [] ∧ ∀ a ∈ as, a.OfTokens) (fun _ => True) w.onLines := by
  rintro as bs ⟨-, ha⟩ ⟨-, hb⟩ s t _ _ h
  simp only [onLines, List.cons_append, List.append_assoc, List.nil_append, List.cons.injEq,
    true_and] at h
  obtain ⟨hab, hend⟩ := legible_lines hw ha hb ⟨_, rfl⟩ ⟨_, rfl⟩ h
  exact ⟨hab, (List.cons.inj (List.append_cancel_left hend)).2⟩

def signature (layout : List Argument → List Char) (op : Operation) : List Char :=
  op.name.toList ++ (layout op.arguments ++ ':' :: ' ' :: op.returns.toList)

theorem legible_signature {layout : List Argument → List Char} (hl : IsLayout layout) :
    Legible Operation.OfTokens (Begins (isSeparator · = true)) (signature layout) := by
  rintro ⟨n, as, t⟩ ⟨m, bs, u⟩ ha hb r s hr hs h
  simp only [signature, List.append_assoc, List.cons_append] at h
  obtain ⟨rfl, harguments⟩ := legible_token ha.name hb.name (hl.begins _ _) (hl.begins _ _) h
  obtain ⟨rfl, hreturns⟩ :=
    hl.legible ha.arguments hb.arguments ⟨_, _, rfl, rfl⟩ ⟨_, _, rfl, rfl⟩ harguments
  simp only [List.cons.injEq, true_and] at hreturns
  obtain ⟨rfl, hrest⟩ := legible_token ha.returns hb.returns hr hs hreturns
  exact ⟨rfl, hrest⟩

theorem toList_field (f : Field) :
    (w.field f).toList = w.indent.toList ++ (signature (parenthesized onLine) f.toOperation ++ ['\n']) := by
  obtain ⟨name, as, type⟩ := f
  cases as with
  | nil => simp [field, signature, parenthesized, Field.toOperation]
  | cons a as => simp [field, signature, parenthesized, onLine, Field.toOperation]

theorem toList_operation (op : Operation) :
    (w.operation op).toList = w.indent.toList ++ signature (parenthesized w.onLines) op := by
  obtain ⟨name, as, type⟩ := op
  cases as with
  | nil => simp [operation, signature, parenthesized]
  | cons a as =>
    have hline (as : List Argument) : as.flatMap w.line = as.flatMap fun a =>
        w.indent.toList ++ (w.indent.toList ++ ((argument a).toList ++ ['\n'])) := rfl
    simp [operation, signature, parenthesized, onLines, hline, List.flatMap_map]

theorem legible_field : Legible (fun f : Field => f.toOperation.OfTokens) (fun _ => True)
    fun f => (w.field f).toList := by
  intro f g hf hg s t _ _ h
  simp only [toList_field, List.append_assoc, List.append_cancel_left_eq, List.cons_append,
    List.nil_append] at h
  have hsignature := legible_signature (isLayout_parenthesized legible_onLine)
  obtain ⟨hfg, hend⟩ := hsignature hf hg ⟨_, _, rfl, rfl⟩ ⟨_, _, rfl, rfl⟩ h
  exact ⟨Field.toOperation_injective hfg, (List.cons.inj hend).2⟩

theorem legible_operation (hw : w.IsBlank) :
    Legible Operation.OfTokens (Begins (isSeparator · = true)) fun op => (w.operation op).toList := by
  intro a b ha hb s t hs ht h
  simp only [toList_operation, List.append_assoc, List.append_cancel_left_eq] at h
  exact legible_signature (isLayout_parenthesized (legible_onLines hw)) ha hb hs ht h

def header (kind : Kind) (name : String) : List Char :=
  kind.keyword.toList ++ ' ' :: (name.toList ++ [' ', '\x7b', '\n'])

theorem toList_declaration (d : Declaration) :
    (w.declaration d).toList =
      header d.kind d.name ++ (d.fields.flatMap (fun f => (w.field f).toList) ++ ['\x7d']) := by
  simp [declaration, header, List.flatMap_map]

theorem legible_header : Legible (fun x : Kind × String => IsToken x.2) (fun _ => True)
    fun x => header x.1 x.2 := by
  have hkeyword (k : Kind) : IsToken k.keyword := by
    refine isToken_of_isWord (isWord_of_all ?_)
    cases k <;> decide
  rintro ⟨k, n⟩ ⟨l, m⟩ ha hb s t _ _ h
  simp only [header, List.append_assoc, List.cons_append] at h
  obtain ⟨hkl, hname⟩ :=
    legible_token (hkeyword k) (hkeyword l) ⟨_, _, rfl, rfl⟩ ⟨_, _, rfl, rfl⟩ h
  simp only [List.cons.injEq, true_and] at hname
  obtain ⟨rfl, hrest⟩ := legible_token ha hb ⟨_, _, rfl, rfl⟩ ⟨_, _, rfl, rfl⟩ hname
  have hkind : k = l := by
    revert hkl
    cases k <;> cases l <;> decide
  exact ⟨by rw [hkind], by simpa using hrest⟩

theorem legible_fields (hw : w.IsBlank) :
    Legible (fun fs : List Field => ∀ f ∈ fs, f.toOperation.OfTokens) (Begins (· = '\x7d'))
      (List.flatMap fun f => (w.field f).toList) := by
  refine legible_field.flatMap (fun _ _ => trivial) fun f _ s => ⟨trivial, ?_⟩
  rintro ⟨c, t, h, rfl⟩
  rw [toList_field, List.append_assoc] at h
  exact hw.indent_append_ne (by decide) _ _ h

theorem legible_operations (hw : w.IsBlank) :
    Legible (fun ops : List Operation => ∀ op ∈ ops, op.OfTokens) (Begins (· = '\x7d'))
      (List.flatMap fun op => (w.operation op).toList ++ ['\n', '\n']) := by
  refine Legible.flatMap (R := fun _ => True) ?_ (fun _ _ => trivial) fun op _ s => ⟨trivial, ?_⟩
  · intro a b ha hb s t _ _ h
    simp only [List.append_assoc] at h
    obtain ⟨rfl, hrest⟩ := legible_operation hw ha hb ⟨_, _, rfl, rfl⟩ ⟨_, _, rfl, rfl⟩ h
    exact ⟨rfl, by simpa using hrest⟩
  · rintro ⟨c, t, h, rfl⟩
    simp only [toList_operation, List.append_assoc] at h
    exact hw.indent_append_ne (by decide) _ _ h

end Writer

end Sdl

end DocumentSchema
