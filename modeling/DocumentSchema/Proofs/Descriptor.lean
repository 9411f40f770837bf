import DocumentSchema.Descriptor
import DocumentSchema.Proofs.Value

/-!
# The written form of descriptors

Reading a descriptor succeeds on every tree that denotes a value, and writing
what was read loses nothing: a supported descriptor is written as it was read,
and any other one is read again as itself. The one ambiguity is a token that
stands as the text of an unsupported descriptor. Reading never produces it,
since a token starts with a capital letter and no printed value does.
-/
namespace DocumentSchema

def HasNoCapital (s : String) : Prop := ∀ c ∈ s.toList, c.isUpper = false

theorem hasNoCapital_of_all {s : String} (h : (s.toList.all fun c => !c.isUpper) = true) :
    HasNoCapital s := by
  simpa [HasNoCapital] using h

theorem HasNoCapital.append {s t : String} (hs : HasNoCapital s) (ht : HasNoCapital t) :
    HasNoCapital (s ++ t) := by
  intro c hc
  rw [String.toList_append, List.mem_append] at hc
  exact hc.elim (hs c) (ht c)

theorem isUpper_of_isDigit {c : Char} (h : c.isDigit = true) : c.isUpper = false := by
  have hnine : c.toNat ≤ '9'.toNat := (Char.isDigit_iff_toNat.mp h).2
  have hbelow : '9'.toNat < 'A'.toNat := by decide
  rw [Bool.eq_false_iff]
  intro hupper
  delta Char.isUpper at hupper
  have hcapital : 'A'.toNat ≤ c.toNat := UInt32.le_iff_toNat_le.mp (of_decide_eq_true hupper).1
  omega

theorem hasNoCapital_digits {cs : List Char} (h : ∀ c ∈ cs, c.isDigit = true) :
    HasNoCapital (String.ofList cs) := by
  intro c hc
  rw [String.toList_ofList] at hc
  exact isUpper_of_isDigit (h c hc)

theorem hasNoCapital_natRepr (n : Nat) : HasNoCapital n.repr := by
  rw [Nat.repr_eq_ofList_toDigits]
  exact hasNoCapital_digits fun c hc => Nat.isDigit_of_mem_toDigits (by decide) (by decide) hc

theorem hasNoCapital_intRepr (n : Int) : HasNoCapital n.repr := by
  rw [Int.repr_eq_if]
  split
  · exact hasNoCapital_natRepr _
  · exact (hasNoCapital_of_all (by decide)).append (hasNoCapital_natRepr _)

namespace Double

theorem mem_of_mem_trimZeros {digits : List Char} {c : Char} (h : c ∈ trimZeros digits) :
    c ∈ digits := by
  unfold trimZeros at h
  rw [List.mem_reverse] at h
  exact List.mem_reverse.mp ((List.dropWhile_sublist _).mem h)

theorem isDigit_of_mem_zeros {k : Nat} {c : Char} (h : c ∈ List.replicate k '0') :
    c.isDigit = true := by
  rw [List.eq_of_mem_replicate h]
  rfl

theorem hasNoCapital_magnitudeText (place : Nat) : HasNoCapital (magnitudeText place) := by
  unfold magnitudeText
  split
  · exact hasNoCapital_of_all (by decide)
  · obtain ⟨c, q⟩ := shortest place
    have hdigit (x : Char) (hx : x ∈ trimZeros (Nat.toDigits 10 c)) : x.isDigit = true :=
      Nat.isDigit_of_mem_toDigits (by decide) (by decide) (mem_of_mem_trimZeros hx)
    have htake (k : Nat) (x : Char) (hx : x ∈ (trimZeros (Nat.toDigits 10 c)).take k) :
        x.isDigit = true := hdigit x (List.mem_of_mem_take hx)
    have hdrop (k : Nat) (x : Char) (hx : x ∈ (trimZeros (Nat.toDigits 10 c)).drop k) :
        x.isDigit = true := hdigit x (List.mem_of_mem_drop hx)
    dsimp only
    split
    · split
      · -- zeros stand between the point and the digits
        refine (hasNoCapital_of_all (by decide)).append (hasNoCapital_digits fun x hx => ?_)
        exact (List.mem_append.mp hx).elim isDigit_of_mem_zeros (hdigit x)
      · -- digits, maybe with zeros after them, stand on both sides of the point
        refine HasNoCapital.append (HasNoCapital.append ?_ (hasNoCapital_of_all (by decide))) ?_
        · exact hasNoCapital_digits fun x hx =>
            (List.mem_append.mp hx).elim (htake _ x) isDigit_of_mem_zeros
        split
        · exact hasNoCapital_of_all (by decide)
        · exact hasNoCapital_digits (hdrop _)
    · -- one digit, the others after a point, and the exponent
      refine HasNoCapital.append (HasNoCapital.append (HasNoCapital.append ?_ ?_) ?_) ?_
      · exact hasNoCapital_digits (htake 1)
      · split
        · exact hasNoCapital_of_all (by decide)
        · exact (hasNoCapital_of_all (by decide)).append (hasNoCapital_digits (hdrop 1))
      · split <;> exact hasNoCapital_of_all (by decide)
      · exact hasNoCapital_natRepr _

theorem hasNoCapital_text (d : Double) : HasNoCapital d.text := by
  unfold text
  refine HasNoCapital.append ?_ (hasNoCapital_magnitudeText _)
  split <;> exact hasNoCapital_of_all (by decide)

end Double

def StartsWithCapital (s : String) : Prop := s.toList.head?.any Char.isUpper = true

instance (s : String) : Decidable (StartsWithCapital s) :=
  inferInstanceAs (Decidable (s.toList.head?.any Char.isUpper = true))

theorem HasNoCapital.not_startsWithCapital {s : String} (h : HasNoCapital s) :
    ¬ StartsWithCapital s := by
  unfold StartsWithCapital
  cases hs : s.toList with
  | nil => simp
  | cons c cs => simp [h c (by simp [hs])]

theorem Value.not_startsWithCapital_print (v : Value) : ¬ StartsWithCapital v.print := by
  cases v with
  | null => exact (hasNoCapital_of_all (by decide)).not_startsWithCapital
  | bool b => cases b <;> exact (hasNoCapital_of_all (by decide)).not_startsWithCapital
  | number n =>
    refine HasNoCapital.not_startsWithCapital ?_
    cases n with
    | int n => exact hasNoCapital_intRepr n
    | double d => exact d.hasNoCapital_text
  | string s => simp [StartsWithCapital, print, toJson, Json.print, Json.quote]
  | array items => simp [StartsWithCapital, print, toJson, Json.print]
  | object members => simp [StartsWithCapital, print, toJson, Json.print]

theorem Value.ofItems?_toJson_isSome {items : List Value}
    (h : ∀ v ∈ items, (ofJson? v.toJson).isSome = true) :
    (ofItems? (itemsToJson items)).isSome = true := by
  induction items with
  | nil => rfl
  | cons v rest ih =>
    obtain ⟨hv, hrest⟩ := List.forall_mem_cons.mp h
    obtain ⟨x, hx⟩ := Option.isSome_iff_exists.mp hv
    obtain ⟨xs, hxs⟩ := Option.isSome_iff_exists.mp (ih hrest)
    simp [itemsToJson, ofItems?, hx, hxs]

theorem Value.ofMembers?_toJson_isSome {members : List (String × Value)}
    (h : ∀ m ∈ members, (ofJson? m.2.toJson).isSome = true) :
    (ofMembers? (membersToJson members)).isSome = true := by
  induction members with
  | nil => rfl
  | cons m rest ih =>
    obtain ⟨hm, hrest⟩ := List.forall_mem_cons.mp h
    obtain ⟨x, hx⟩ := Option.isSome_iff_exists.mp hm
    obtain ⟨xs, hxs⟩ := Option.isSome_iff_exists.mp (ih hrest)
    simp [membersToJson, ofMembers?, hx, hxs]

theorem Value.ofJson?_toJson_isSome (v : Value) : (ofJson? v.toJson).isSome = true := by
  induction v using nestedInduction with
  | array items ih => simpa [toJson, ofJson?] using ofItems?_toJson_isSome ih
  | object members ih => simpa [toJson, ofJson?] using ofMembers?_toJson_isSome ih
  | _ => rfl

namespace Descriptor

/-- The texts that stand for a descriptor on their own. -/
def tokens : List String :=
  ["MongoId", "String", "Int", "Float", "Boolean", "JSON", "Date", "StringArray", "IntArray",
    "FloatArray", "MongoIdArray"]

theorem startsWithCapital_of_mem_tokens {t : String} (h : t ∈ tokens) : StartsWithCapital t := by
  have hall : ∀ t ∈ tokens, StartsWithCapital t := by decide
  exact hall t h

theorem text_of_token? {d : Descriptor} {t : String} (h : d.token? = some t) : d.text = t := by
  cases d <;> cases h <;> rfl

theorem ofToken_of_token? {d : Descriptor} {t : String} (h : d.token? = some t) :
    ofToken t = d := by
  cases d with
  | scalar kind => exact Option.some.inj h ▸ ofToken_token_scalar kind
  | scalarArray kind => exact Option.some.inj h ▸ ofToken_token_array kind
  | date => exact Option.some.inj h ▸ rfl
  | _ => cases h

theorem mem_tokens {t : String} : t ∈ tokens ↔ ∃ d : Descriptor, d.token? = some t := by
  constructor
  · intro h
    have hall : ∀ t ∈ tokens, (ofToken t).token? = some t := by decide
    exact ⟨_, hall t h⟩
  · rintro ⟨d, hd⟩
    cases d with
    | scalar kind => cases kind <;> cases hd <;> decide
    | scalarArray kind => cases kind <;> cases hd <;> decide
    | date => cases hd; decide
    | _ => cases hd

theorem ofToken_of_not_mem {t : String} (h : t ∉ tokens) : ofToken t = unsupported t := by
  unfold ofToken
  split
  case h_12 => rfl
  all_goals exact absurd (by decide) h

theorem isSupported_ofToken {t : String} : (ofToken t).isSupported = true ↔ t ∈ tokens := by
  by_cases h : t ∈ tokens
  · obtain ⟨d, hd⟩ := mem_tokens.mp h
    simp only [ofToken_of_token? hd, h, iff_true]
    cases d <;> cases hd <;> rfl
  · simp [ofToken_of_not_mem h, h, isSupported]

/-- The written form is that of no other descriptor. -/
def Unambiguous (d : Descriptor) : Prop := ∀ t ∈ tokens, d ≠ .unsupported t

instance (d : Descriptor) : Decidable d.Unambiguous :=
  inferInstanceAs (Decidable (∀ t ∈ tokens, d ≠ .unsupported t))

theorem ofOther?_isSome (j : Json) : (ofOther? j).isSome = (Value.ofJson? j).isSome := by
  simp [ofOther?]

theorem ofJson?_isSome (j : Json) : (ofJson? j).isSome = (Value.ofJson? j).isSome := by
  unfold ofJson?
  split
  · rfl
  · split
    · rfl
    · exact ofOther?_isSome _
  · exact ofOther?_isSome j

/-- A descriptor is read off a token, off an object with one known member, or off any other value
that is kept as its text. -/
theorem ofJson?_cases {j : Json} {d : Descriptor} (h : ofJson? j = some d) :
    (∃ t, j = .string t ∧ d = ofToken t) ∨
      (∃ key text, j = .object [(key, .string text)] ∧ ofMember? key text = some d) ∨
        ∃ v : Value, d = .unsupported v.print := by
  have hother {j : Json} (h : ofOther? j = some d) : ∃ v : Value, d = .unsupported v.print := by
    obtain ⟨v, -, rfl⟩ := Option.map_eq_some_iff.mp h
    exact ⟨v, rfl⟩
  unfold ofJson? at h
  split at h
  · exact Or.inl ⟨_, rfl, (Option.some.inj h).symm⟩
  · split at h
    · rename_i key text _ _ hm
      cases h
      exact Or.inr (Or.inl ⟨key, text, rfl, hm⟩)
    · exact Or.inr (Or.inr (hother h))
  · exact Or.inr (Or.inr (hother h))

theorem toJson_of_ofMember? {key text : String} {d : Descriptor} (h : ofMember? key text = some d) :
    d.toJson = .object [(key, .string text)] := by
  unfold ofMember? at h
  split at h <;> cases h <;> rfl

theorem isSupported_of_ofMember? {key text : String} {d : Descriptor}
    (h : ofMember? key text = some d) : d.isSupported = true := by
  unfold ofMember? at h
  split at h <;> cases h <;> rfl

theorem toJson_of_token? {d : Descriptor} {t : String} (h : d.token? = some t) :
    d.toJson = .string t := by
  cases d <;> cases h <;> rfl

theorem toJson_of_ofJson? {j : Json} {d : Descriptor} (h : ofJson? j = some d)
    (hd : d.isSupported = true) : d.toJson = j := by
  rcases ofJson?_cases h with ⟨t, rfl, rfl⟩ | ⟨key, text, rfl, hm⟩ | ⟨v, rfl⟩
  · obtain ⟨d, ht⟩ := mem_tokens.mp (isSupported_ofToken.mp hd)
    rw [ofToken_of_token? ht, toJson_of_token? ht]
  · exact toJson_of_ofMember? hm
  · cases hd

theorem unambiguous_of_isSupported {d : Descriptor} (h : d.isSupported = true) :
    d.Unambiguous := by
  rintro t - rfl
  cases h

/-- No tree is read as an unsupported descriptor with a token for its text. -/
theorem unambiguous_of_ofJson? {j : Json} {d : Descriptor} (h : ofJson? j = some d) :
    d.Unambiguous := by
  rcases ofJson?_cases h with ⟨t, rfl, rfl⟩ | ⟨key, text, rfl, hm⟩ | ⟨v, rfl⟩
  · by_cases ht : t ∈ tokens
    · exact unambiguous_of_isSupported (isSupported_ofToken.mpr ht)
    · rintro s hs he
      rw [ofToken_of_not_mem ht] at he
      cases he
      exact ht hs
  · exact unambiguous_of_isSupported (isSupported_of_ofMember? hm)
  · rintro t ht he
    cases he
    exact v.not_startsWithCapital_print (startsWithCapital_of_mem_tokens ht)

theorem ofJson?_toJson {d : Descriptor} (h : d.Unambiguous) : ofJson? d.toJson = some d := by
  cases d with
  | scalar kind => exact congrArg some (ofToken_token_scalar kind)
  | scalarArray kind => exact congrArg some (ofToken_token_array kind)
  | unsupported raw => exact congrArg some (ofToken_of_not_mem fun hm => h raw hm rfl)
  | _ => rfl

theorem ofJson?_toJson_iff {d : Descriptor} : ofJson? d.toJson = some d ↔ d.Unambiguous :=
  ⟨unambiguous_of_ofJson?, ofJson?_toJson⟩

/-- Reading is total on values. What is read is written so that it is read again as itself, and
as it was read when it is supported. Only an unsupported descriptor with a token for its text is
read as another one, and that is never read. The descriptors with a token are those that the
supported texts stand for. -/
theorem codec_inverse :
    (∀ v : Value, (ofJson? v.toJson).isSome = true) ∧
      (∀ j, (ofJson? j).isSome = (Value.ofJson? j).isSome) ∧
      (∀ j d, ofJson? j = some d → ofJson? d.toJson = some d) ∧
      (∀ j d, ofJson? j = some d → d.isSupported = true → d.toJson = j) ∧
      (∀ d : Descriptor, ofJson? d.toJson = some d ↔ ¬ ∃ t ∈ tokens, d = .unsupported t) ∧
      (∀ j, ∀ t ∈ tokens, ofJson? j ≠ some (.unsupported t)) ∧
      (∀ d : Descriptor, d.token?.isSome = true → ofToken d.text = d) ∧
      ∀ s, (∃ d : Descriptor, d.token?.isSome = true ∧ d.text = s) ↔
        (ofToken s).isSupported = true := by
  refine ⟨fun v => (ofJson?_isSome _).trans v.ofJson?_toJson_isSome, ofJson?_isSome, ?_,
    fun j d => toJson_of_ofJson?, ?_, ?_, ?_, ?_⟩
  · exact fun j d h => ofJson?_toJson (unambiguous_of_ofJson? h)
  · intro d
    rw [ofJson?_toJson_iff, Unambiguous]
    push Not
    rfl
  · exact fun j t ht h => unambiguous_of_ofJson? h t ht rfl
  · intro d h
    obtain ⟨t, ht⟩ := Option.isSome_iff_exists.mp h
    rw [text_of_token? ht, ofToken_of_token? ht]
  · intro s
    rw [isSupported_ofToken, mem_tokens]
    constructor
    · rintro ⟨d, h, rfl⟩
      obtain ⟨t, ht⟩ := Option.isSome_iff_exists.mp h
      exact ⟨d, text_of_token? ht ▸ ht⟩
    · rintro ⟨d, hd⟩
      exact ⟨d, by rw [hd]; rfl, text_of_token? hd⟩

theorem tuple_authors_date_codec :
    (ofJson? (.object [("tuple", .string "Int"), ("tuple", .array [.number (.int 2), .null])]) =
        some (.unsupported "\x7b\"tuple\":[2,null]\x7d") ∧
      ofJson? (unsupported "\x7b\"tuple\":[2,null]\x7d").toJson =
        some (.unsupported "\x7b\"tuple\":[2,null]\x7d")) ∧
    (ofJson? (.object [("arrayOf", .string "Author")]) = some (.objectArray "Author") ∧
      (objectArray "Author").toJson = .object [("arrayOf", .string "Author")]) ∧
    ("Int" ∈ tokens ∧ ofJson? (.number (.int 2)) ≠ some (.unsupported "Int")) ∧
    (token? date).isSome = true ∧ ofToken (text date) = date := by
  have htuple : ofJson? (.object [("tuple", .string "Int"),
      ("tuple", .array [.number (.int 2), .null])]) =
        some (.unsupported "\x7b\"tuple\":[2,null]\x7d") := by decide
  obtain ⟨-, -, hagain, hwritten, -, hnever, htoken, -⟩ := codec_inverse
  have hint : "Int" ∈ tokens := by decide
  exact ⟨⟨htuple, hagain _ _ htuple⟩, ⟨rfl, hwritten _ _ rfl rfl⟩, ⟨hint, hnever _ _ hint⟩, rfl,
    htoken date rfl⟩

end Descriptor

end DocumentSchema
