import DocumentSchema.Proofs.Filter.Bounds

/-!
# Texts and their parts

The operators for texts look at the same texts: a stored one, or the texts in a
stored array. A text that is the one asked for starts and ends with it, and what
starts or ends with it contains it. So each operator finds what a narrower one
does, and less of a text finds more documents.
-/
namespace DocumentSchema

/-- How a text that is asked for stands in one that is stored. -/
def TextMode.Relates (mode : TextMode) (needle text : List Char) : Prop :=
  match mode with
  | contains => needle <:+: text
  | startsWith => needle <+: text
  | endsWith => needle <:+ text

theorem occursIn_iff {needle text : List Char} :
    occursIn needle text = true ↔ needle <:+: text := by
  induction text with
  | nil => rw [occursIn, List.isEmpty_iff, List.infix_nil]
  | cons c cs ih =>
    rw [occursIn, Bool.or_eq_true, ih, List.isPrefixOf_iff_prefix, List.infix_cons_iff]

namespace TextMode

variable {mode : TextMode} {needle part text : List Char}

theorem accepts_iff : mode.accepts text needle = true ↔ mode.Relates needle text := by
  cases mode with
  | contains => exact occursIn_iff
  | startsWith => exact List.isPrefixOf_iff_prefix
  | endsWith => exact List.isSuffixOf_iff_suffix

theorem relates_self (mode : TextMode) (text : List Char) : mode.Relates text text := by
  cases mode with
  | contains => exact List.infix_rfl
  | startsWith => exact List.prefix_rfl
  | endsWith => exact List.suffix_rfl

theorem Relates.infix (h : mode.Relates needle text) : contains.Relates needle text := by
  cases mode with
  | contains => exact h
  | startsWith => exact h.isInfix
  | endsWith => exact h.isInfix

theorem Relates.trans (h : mode.Relates part needle) (h' : mode.Relates needle text) :
    mode.Relates part text := by
  cases mode with
  | contains => exact List.IsInfix.trans h h'
  | startsWith => exact List.IsPrefix.trans h h'
  | endsWith => exact List.IsSuffix.trans h h'

end TextMode

namespace Value

def text? : Value → Option String
  | .string s => some s
  | _ => none

/-- The texts that a document stores under a field, on their own or in an array. -/
def textsIn (field : String) (document : Value) : List String :=
  (document.storedIn? field).toList.flatMap fun x => x.compared.filterMap text?

theorem mem_textsIn {field : String} {document : Value} {s : String} :
    s ∈ document.textsIn field ↔
      ∃ x, document.storedIn? field = some x ∧ .string s ∈ x.compared := by
  have htext (y : Value) : y.text? = some s ↔ y = .string s := by
    cases y <;> simp [text?]
  simp [textsIn, htext]

theorem anyText_iff {accept : String → Bool} {x : Value} :
    x.anyText accept = true ↔ ∃ s, .string s ∈ x.compared ∧ accept s = true := by
  rw [anyText, anyValue_eq_any, List.any_eq_true]
  constructor
  · rintro ⟨y, hy, h⟩
    cases y with
    | string s => exact ⟨s, hy, h⟩
    | _ => cases h
  · rintro ⟨s, hs, h⟩
    exact ⟨.string s, hs, h⟩

end Value

namespace Test

variable {field v : String} {document : Value}

theorem passedBy_text {mode : TextMode} :
    (text mode v).PassedBy field document ↔
      ∃ s ∈ document.textsIn field, mode.Relates v.toList s.toList := by
  rw [passedBy_iff rfl]
  simp only [holds, Value.anyText_iff, TextMode.accepts_iff, Value.mem_textsIn]
  constructor
  · rintro ⟨x, hx, s, hs, hrelates⟩
    exact ⟨s, ⟨x, hx, hs⟩, hrelates⟩
  · rintro ⟨s, ⟨x, hx, hs⟩, hrelates⟩
    exact ⟨x, hx, s, hs, hrelates⟩

theorem eq_of_equals_string {x : Value} (h : x.equals false (.string v) = true) :
    x = .string v := by
  cases x with
  | string s => simpa [Value.equals, Value.equalTexts] using h
  | _ => cases h

theorem mem_textsIn_of_equals (h : (equals (.string v) false false).PassedBy field document) :
    v ∈ document.textsIn field := by
  obtain ⟨x, hx, hholds⟩ := (passedBy_iff rfl).mp h
  rw [holds, Bool.bne_false] at hholds
  obtain rfl := eq_of_equals_string hholds
  exact Value.mem_textsIn.mpr ⟨_, hx, List.mem_singleton_self _⟩

theorem mem_textsIn_of_containsElement
    (h : (containsElement (.string v)).PassedBy field document) :
    v ∈ document.textsIn field := by
  obtain ⟨x, hx, hholds⟩ := (passedBy_iff rfl).mp h
  obtain ⟨y, hy, hequals⟩ := List.any_eq_true.mp hholds
  obtain rfl := eq_of_equals_string hequals
  cases x with
  | array items => exact Value.mem_textsIn.mpr ⟨_, hx, hy⟩
  | _ => cases hy

end Test

namespace Filter

/-- Whatever one argument selects, the other selects as well. -/
def Narrows (c : Catalog) (e : Entity) (a b : String × Value) : Prop :=
  ∀ document, Selects c e [a] document → Selects c e [b] document

/-- Operators for texts, from a whole text over its beginning or end to any of its parts. -/
structure TextHierarchy (c : Catalog) (e : Entity) (field whole search : String) : Prop where
  compiles : ∀ v : String, Compiles c e whole (.string v) ∧
    Compiles c e (field ++ "_startsWith") (.string v) ∧
    Compiles c e (field ++ "_endsWith") (.string v) ∧ Compiles c e search (.string v)
  whole_startsWith : ∀ v : String,
    Narrows c e (whole, .string v) (field ++ "_startsWith", .string v)
  whole_endsWith : ∀ v : String, Narrows c e (whole, .string v) (field ++ "_endsWith", .string v)
  startsWith_search : ∀ v : String,
    Narrows c e (field ++ "_startsWith", .string v) (search, .string v)
  endsWith_search : ∀ v : String, Narrows c e (field ++ "_endsWith", .string v) (search, .string v)
  startsWith : ∀ v w : String, v.toList <+: w.toList →
    Narrows c e (field ++ "_startsWith", .string w) (field ++ "_startsWith", .string v)
  endsWith : ∀ v w : String, v.toList <:+ w.toList →
    Narrows c e (field ++ "_endsWith", .string w) (field ++ "_endsWith", .string v)
  search : ∀ v w : String, v.toList <:+: w.toList →
    Narrows c e (search, .string w) (search, .string v)

def Finds (c : Catalog) (e : Entity) (field : String) (mode : TextMode) (name : String) : Prop :=
  ∀ v : String, Tests c e (name, .string v) True field (.text mode v)

section Finds

variable {c : Catalog} {e : Entity} {field name name' : String} {mode mode' : TextMode}
  {v w : String} {document : Value}

theorem Finds.selects_iff (h : Finds c e field mode name) :
    Selects c e [(name, .string v)] document ↔
      ∃ s ∈ document.textsIn field, mode.Relates v.toList s.toList := by
  rw [(h v).selects_iff, true_and, Test.passedBy_text]

theorem Finds.narrows (h : Finds c e field mode name) (h' : Finds c e field mode' name')
    (hrelates : ∀ text, mode.Relates w.toList text → mode'.Relates v.toList text) :
    Narrows c e (name, .string w) (name', .string v) := by
  intro document hw
  obtain ⟨s, hs, hmode⟩ := h.selects_iff.mp hw
  exact h'.selects_iff.mpr ⟨s, hs, hrelates _ hmode⟩

theorem Finds.narrows_of_part (h : Finds c e field mode name)
    (hpart : mode.Relates v.toList w.toList) :
    Narrows c e (name, .string w) (name, .string v) :=
  h.narrows h fun _ hmode => hpart.trans hmode

theorem Finds.narrows_of_mem {whole : String} (h : Finds c e field mode name)
    (hwhole : ∀ document, Selects c e [(whole, .string v)] document → v ∈ document.textsIn field) :
    Narrows c e (whole, .string v) (name, .string v) :=
  fun document hv => h.selects_iff.mpr ⟨v, hwhole document hv, mode.relates_self _⟩

/-- Arguments that look for texts form a hierarchy, below one that asks for a text as a whole. -/
theorem textHierarchy_of_finds {whole search : String} {t : String → Test}
    (hwhole : ∀ v : String, Tests c e (whole, .string v) True field (t v))
    (hmem : ∀ v document, (t v).PassedBy field document → v ∈ document.textsIn field)
    (hstarts : Finds c e field .startsWith (field ++ "_startsWith"))
    (hends : Finds c e field .endsWith (field ++ "_endsWith"))
    (hsearch : Finds c e field .contains search) : TextHierarchy c e field whole search := by
  have htext (v : String) (document : Value) (hv : Selects c e [(whole, .string v)] document) :
      v ∈ document.textsIn field :=
    hmem v document ((hwhole v).selects_iff.mp hv).2
  constructor
  · intro v
    exact ⟨(hwhole v).compiles.mpr trivial, (hstarts v).compiles.mpr trivial,
      (hends v).compiles.mpr trivial, (hsearch v).compiles.mpr trivial⟩
  · exact fun v => hstarts.narrows_of_mem (htext v)
  · exact fun v => hends.narrows_of_mem (htext v)
  · exact fun v => hstarts.narrows hsearch fun _ => TextMode.Relates.infix
  · exact fun v => hends.narrows hsearch fun _ => TextMode.Relates.infix
  · exact fun v w h => hstarts.narrows_of_part h
  · exact fun v w h => hends.narrows_of_part h
  · exact fun v w h => hsearch.narrows_of_part h

end Finds

section Operators

variable {c : Catalog} {e : Entity} {field : String}

theorem tests_string (he : e ∈ c.entities) {d : Descriptor} (h : e.Owns field d)
    (op : FilterOp) (ht : d.operatorType? op = some .string) (hd : d.isDate = false)
    {v : String} {t : Test}
    (hpart : part (field ++ op.suffix) ⟨⟨field, op, .string⟩, d⟩ (.string v) =
      .ok (.test field t)) :
    Tests c e (field ++ op.suffix, .string v) True field t := by
  have hop : op ≠ .nested := by
    intro hnested
    obtain ⟨block, hblock, hx⟩ := Descriptor.mem_of_operatorType? ht
    obtain ⟨_, -, hfilters⟩ := (FilterBlock.fits_of_mem hblock hx).nested hnested
    cases hfilters
  have htests := tests_of_part he (ownsOperator_of_owns h ht) hop rfl hpart
  have htakes : d.Takes .string (.string v) ↔ True := by
    simp [Descriptor.Takes, FilterType.admits, hd]
  rwa [propext htakes] at htests

/-- Operators for texts form a hierarchy, in fields of texts and of arrays of texts. Whatever a
document stores, it is found by the beginning and by the end if it is found by the whole text, and
by a search for the text if it is found by either. It is also found by a shorter text: by any part
of the one searched for, and by a shorter beginning or end. -/
theorem text_operators_form_hierarchy (he : e ∈ c.entities) :
    (e.Owns field (.scalar .string) →
      TextHierarchy c e field field (field ++ "_contains")) ∧
    (e.Owns field (.scalarArray .string) →
      TextHierarchy c e field (field ++ "_contains") (field ++ "_textContains")) := by
  constructor
  · intro h
    refine textHierarchy_of_finds (t := fun v => .equals (.string v) false false) (fun v => ?_)
      (fun v document => Test.mem_textsIn_of_equals)
      (fun v => tests_string he h .startsWith rfl rfl rfl)
      (fun v => tests_string he h .endsWith rfl rfl rfl)
      (fun v => tests_string he h .contains rfl rfl rfl)
    have hequals := tests_string he h .eq (v := v) rfl rfl rfl
    rwa [FilterOp.suffix, String.append_empty] at hequals
  · intro h
    exact textHierarchy_of_finds (t := fun v => .containsElement (.string v))
      (fun v => tests_string he h .contains rfl rfl rfl)
      (fun v document => Test.mem_textsIn_of_containsElement)
      (fun v => tests_string he h .startsWith rfl rfl rfl)
      (fun v => tests_string he h .endsWith rfl rfl rfl)
      (fun v => tests_string he h .textContains rfl rfl rfl)

end Operators

end Filter

def Entity.article : Entity where
  name := "Article"
  fields := ⟨[("_id", .scalar .id), ("title", .scalar .string),
    ("keywords", .scalarArray .string)], by decide⟩
  relationships := .empty
  resolvedFields := .empty
  manualArguments := []
  extras := .none
  table := true
  usedInArray := false

def Catalog.press : Catalog := ⟨[.article], by decide⟩

namespace Filter

theorem owns_title : Entity.article.Owns "title" (.scalar .string) :=
  ⟨by decide, by decide, by decide⟩

theorem owns_keywords : Entity.article.Owns "keywords" (.scalarArray .string) :=
  ⟨by decide, by decide, by decide⟩

theorem press_text_hierarchy :
    Entity.article ∈ Catalog.press.entities ∧
      Entity.article.Owns "title" (.scalar .string) ∧
      Entity.article.Owns "keywords" (.scalarArray .string) ∧
      Selects .press .article [("title" ++ "_contains", .string "mm")]
        (.object [("title", .array [.null, .string "Emma"])]) ∧
      Selects .press .article [("keywords" ++ "_endsWith", .string "son")]
        (.object [("keywords", .array [.string "novel", .string "reason"])]) := by
  have he : Entity.article ∈ Catalog.press.entities := List.mem_cons_self
  have htitle := (text_operators_form_hierarchy he).1 owns_title
  have hkeywords := (text_operators_form_hierarchy he).2 owns_keywords
  refine ⟨he, owns_title, owns_keywords, ?_, ?_⟩
  · refine htitle.search "mm" "Emm" (by decide) _ (htitle.startsWith_search "Emm" _ ?_)
    exact ⟨_, rfl, rfl⟩
  · refine hkeywords.endsWith "son" "reason" (by decide) _ (hkeywords.whole_endsWith "reason" _ ?_)
    exact ⟨_, rfl, rfl⟩

end Filter

end DocumentSchema
