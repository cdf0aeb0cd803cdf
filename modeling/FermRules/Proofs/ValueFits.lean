import FermRules.Rule.Value.Reader
import Mathlib.Data.List.Forall2

/-! # The values that readers give

A value read for a keyword has the form that the shape of the keyword asks for,
its texts are made of characters of the tokens, and the tokens behind it are the
last of those it was read from. The class of characters is a parameter: with
all characters the statement is about the form alone. -/
namespace FermRules

/-- A reader that gives a result has got one from its first part. -/
theorem bind_ok {ε α β : Type} {x : Except ε α} {f : α → Except ε β} {b : β}
    (h : x >>= f = .ok b) : ∃ a, x = .ok a ∧ f a = .ok b := by
  cases x with
  | error e => cases h
  | ok a => exact ⟨a, rfl, h⟩

theorem ok_bind {ε α β : Type} (a : α) (f : α → Except ε β) :
    (Except.ok a >>= f) = f a := rfl

/-- The text has only characters of the class. -/
def Text.Over (q : Char → Prop) (s : String) : Prop := ∀ c ∈ s.toList, q c

theorem Text.over_ofList {q : Char → Prop} {cs : List Char} :
    Text.Over q (String.ofList cs) ↔ ∀ c ∈ cs, q c := by
  rw [Text.Over, String.toList_ofList]

/-- The tokens have only characters of the class. -/
def Token.AllOver (q : Char → Prop) (tokens : List Token) : Prop :=
  ∀ t ∈ tokens, Text.Over q t.text

theorem Token.AllOver.of_suffix {q : Char → Prop} {tokens rest : List Token}
    (h : Token.AllOver q tokens) (hr : rest <:+ tokens) : Token.AllOver q rest :=
  fun t ht => h t (hr.mem ht)

namespace Value

variable {q : Char → Prop}

inductive FitsField (q : Char → Prop) : FieldShape → Value → Prop
  | scalar {text : String} : Text.Over q text → FitsField q .scalar (.scalar text)
  | list {items : List String} : (∀ s ∈ items, Text.Over q s) → FitsField q .list (.list items)

/-- Plain values of a shape. An array may stand for a scalar. -/
inductive Fits (q : Char → Prop) : Shape → Value → Prop
  | flag : Fits q .flag .absent
  | literal {text : String} : Text.Over q text → Fits q .literal (.scalar text)
  | scalar {text : String} : Text.Over q text → Fits q .scalar (.scalar text)
  | array {items : List String} : (∀ s ∈ items, Text.Over q s) → Fits q .scalar (.list items)
  | list {items : List String} : (∀ s ∈ items, Text.Over q s) → Fits q .list (.list items)
  | fixed {items : List String} :
      (∀ s ∈ items, Text.Over q s) → Fits q (.fixed items.length) (ofFixed items)
  | composite {fields : List FieldShape} {parts : List Value} :
      List.Forall₂ (FitsField q) fields parts → Fits q (.composite fields) (.composite parts)

/-- Such a value carries no negation of its own. -/
theorem Fits.plain {shape : Shape} {v : Value} (h : v.Fits q shape) (w : Value) :
    v ≠ negatedBefore w ∧ v ≠ negatedAfter w := by
  cases h with
  | fixed =>
    unfold ofFixed
    split
    · exact ⟨nofun, nofun⟩
    · exact ⟨nofun, nofun⟩
  | flag | literal | scalar | array | list | composite => exact ⟨nofun, nofun⟩

/-- The items of such a value are texts of the class. -/
theorem Fits.items {shape : Shape} {v : Value} (h : v.Fits q shape) {items : List String}
    (hi : v.items? = some items) : ∀ s ∈ items, Text.Over q s := by
  cases h with
  | flag | composite => cases hi
  | literal ht | scalar ht =>
    cases hi
    exact fun s hs => List.mem_singleton.mp hs ▸ ht
  | array ht | list ht =>
    cases hi
    exact ht
  | @fixed texts ht =>
    unfold ofFixed at hi
    split at hi
    · cases hi
      exact ht
    · cases hi
      exact ht

/-! ## Words and lists -/

theorem readWord_ok {option : String} {tokens rest : List Token} {t : Token}
    (h : readWord option tokens = .ok (t, rest)) : tokens = t :: rest := by
  cases tokens with
  | nil => cases h
  | cons u us => cases h; rfl

theorem over_arrayItem {text : List Char} {quoted : Bool} (h : ∀ c ∈ text, q c) :
    ∀ s ∈ arrayItem text quoted, Text.Over q s := by
  intro s hs
  unfold arrayItem at hs
  split at hs
  · cases hs
  · rw [List.mem_singleton.mp hs, Text.over_ofList]
    exact h

theorem readItems_ok {option : String} {text : List Char} {quoted : Bool}
    {tokens rest : List Token} {items : List String} (htext : ∀ c ∈ text, q c)
    (htokens : Token.AllOver q tokens)
    (h : readItems option text quoted tokens = .ok (items, rest)) :
    rest <:+ tokens ∧ ∀ s ∈ items, Text.Over q s := by
  induction tokens generalizing text quoted items with
  | nil =>
    unfold readItems at h
    split at h
    · cases h
      exact ⟨List.suffix_refl _,
        over_arrayItem fun c hc => htext c ((List.dropLast_sublist text).subset hc)⟩
    · cases h
  | cons t tokens ih =>
    unfold readItems at h
    split at h
    · cases h
      exact ⟨List.suffix_refl _,
        over_arrayItem fun c hc => htext c ((List.dropLast_sublist text).subset hc)⟩
    · obtain ⟨⟨more, rest'⟩, hmore, hret⟩ := bind_ok h
      cases hret
      obtain ⟨hsuf, hover⟩ := ih (htokens t List.mem_cons_self)
        (fun u hu => htokens u (List.mem_cons_of_mem _ hu)) hmore
      refine ⟨hsuf.trans (List.suffix_cons t tokens), fun s hs => ?_⟩
      rcases List.mem_append.mp hs with hs | hs
      · exact over_arrayItem htext s hs
      · exact hover s hs

theorem readArray_ok {option : String} {first : Token} {tokens rest : List Token}
    {items : List String} (hfirst : Text.Over q first.text) (htokens : Token.AllOver q tokens)
    (h : readArray option first tokens = .ok (items, rest)) :
    rest <:+ tokens ∧ ∀ s ∈ items, Text.Over q s :=
  readItems_ok (fun c hc => hfirst c (List.mem_of_mem_tail hc)) htokens h

theorem mem_of_mem_splitOn {c d : Char} {cs part : List Char} (hp : part ∈ cs.splitOn d)
    (hc : c ∈ part) : c ∈ cs := by
  induction cs generalizing part with
  | nil =>
    rw [List.splitOn_nil, List.mem_singleton] at hp
    rwa [hp] at hc
  | cons e cs ih =>
    rw [List.splitOn_cons_eq_if_modifyHead] at hp
    obtain ⟨first, others, hs⟩ := List.exists_cons_of_ne_nil (List.splitOn_ne_nil d cs)
    rw [hs] at hp ih
    split at hp
    · rcases List.mem_cons.mp hp with rfl | hp
      · cases hc
      · exact List.mem_cons_of_mem _ (ih hp hc)
    · rcases List.mem_cons.mp hp with rfl | hp
      · rcases List.mem_cons.mp hc with rfl | hc
        · exact List.mem_cons_self
        · exact List.mem_cons_of_mem _ (ih List.mem_cons_self hc)
      · exact List.mem_cons_of_mem _ (ih (List.mem_cons_of_mem _ hp) hc)

theorem readList_ok {option : String} {tokens rest : List Token} {items : List String}
    (htokens : Token.AllOver q tokens) (h : readList option tokens = .ok (items, rest)) :
    rest <:+ tokens ∧ ∀ s ∈ items, Text.Over q s := by
  obtain ⟨⟨t, behind⟩, hw, hret⟩ := bind_ok h
  obtain rfl := readWord_ok hw
  have hfirst := htokens t List.mem_cons_self
  have hbehind : Token.AllOver q behind := fun u hu => htokens u (List.mem_cons_of_mem _ hu)
  dsimp only at hret
  split at hret
  · obtain ⟨hsuf, hover⟩ := readArray_ok hfirst hbehind hret
    exact ⟨hsuf.trans (List.suffix_cons t behind), hover⟩
  · split at hret
    · cases hret
      exact ⟨List.suffix_cons t _, fun s hs => List.mem_singleton.mp hs ▸ hfirst⟩
    · cases hret
      refine ⟨List.suffix_cons t _, fun s hs => ?_⟩
      obtain ⟨part, hp, rfl⟩ := List.mem_map.mp hs
      exact Text.over_ofList.mpr fun c hc => hfirst c (mem_of_mem_splitOn hp hc)

/-! ## Values -/

theorem readFixed_ok {option : String} {count : Nat} {tokens rest : List Token}
    {items : List String} (htokens : Token.AllOver q tokens)
    (h : readFixed option count tokens = .ok (items, rest)) :
    rest <:+ tokens ∧ items.length = count ∧ ∀ s ∈ items, Text.Over q s := by
  unfold readFixed at h
  split at h
  · rename_i hle
    cases h
    refine ⟨List.drop_suffix _ _, by simp [hle], fun s hs => ?_⟩
    obtain ⟨t, ht, rfl⟩ := List.mem_map.mp hs
    exact htokens t (List.mem_of_mem_take ht)
  · cases h

theorem readField_ok {option : String} {field : FieldShape} {tokens rest : List Token}
    {part : Value} (htokens : Token.AllOver q tokens)
    (h : readField option tokens field = .ok (part, rest)) :
    rest <:+ tokens ∧ FitsField q field part := by
  cases field with
  | scalar =>
    obtain ⟨⟨t, behind⟩, hw, hret⟩ := bind_ok h
    obtain rfl := readWord_ok hw
    cases hret
    exact ⟨List.suffix_cons t _, .scalar (htokens t List.mem_cons_self)⟩
  | list =>
    obtain ⟨⟨items, behind⟩, hl, h⟩ := bind_ok h
    cases h
    obtain ⟨hsuf, hover⟩ := readList_ok htokens hl
    exact ⟨hsuf, .list hover⟩

theorem readFields_ok {option : String} {fields : List FieldShape} {tokens rest : List Token}
    {parts : List Value} (htokens : Token.AllOver q tokens)
    (h : readFields option tokens fields = .ok (parts, rest)) :
    rest <:+ tokens ∧ List.Forall₂ (FitsField q) fields parts := by
  induction fields generalizing tokens parts with
  | nil =>
    cases h
    exact ⟨List.suffix_refl _, .nil⟩
  | cons field fields ih =>
    obtain ⟨⟨part, behind⟩, hf, h⟩ := bind_ok h
    obtain ⟨⟨others, last⟩, hfs, h⟩ := bind_ok h
    cases h
    obtain ⟨hsuf, hpart⟩ := readField_ok htokens hf
    obtain ⟨hsuf', hothers⟩ := ih (htokens.of_suffix hsuf) hfs
    exact ⟨hsuf'.trans hsuf, .cons hpart hothers⟩

/-- A value read for a keyword fits the shape of the keyword. -/
theorem read_ok {k : Keyword} {tokens rest : List Token} {v : Value}
    (htokens : Token.AllOver q tokens) (h : read k tokens = .ok (v, rest)) :
    rest <:+ tokens ∧ v.Fits q k.shape := by
  unfold read at h
  split at h <;> rename_i hshape <;> rw [hshape]
  case h_1 =>
    cases h
    exact ⟨List.suffix_refl _, .flag⟩
  case h_2 =>
    obtain ⟨⟨t, behind⟩, hw, hret⟩ := bind_ok h
    obtain rfl := readWord_ok hw
    cases hret
    exact ⟨List.suffix_cons t _, .literal (htokens t List.mem_cons_self)⟩
  case h_3 =>
    obtain ⟨⟨t, behind⟩, hw, hret⟩ := bind_ok h
    obtain rfl := readWord_ok hw
    have hfirst := htokens t List.mem_cons_self
    dsimp only at hret
    split at hret
    · obtain ⟨⟨items, last⟩, ha, hret⟩ := bind_ok hret
      cases hret
      obtain ⟨hsuf, hover⟩ :=
        readArray_ok hfirst (fun u hu => htokens u (List.mem_cons_of_mem _ hu)) ha
      exact ⟨hsuf.trans (List.suffix_cons t behind), .array hover⟩
    · cases hret
      exact ⟨List.suffix_cons t _, .scalar hfirst⟩
  case h_4 =>
    obtain ⟨⟨items, behind⟩, hl, h⟩ := bind_ok h
    cases h
    obtain ⟨hsuf, hover⟩ := readList_ok htokens hl
    exact ⟨hsuf, .list hover⟩
  case h_5 =>
    obtain ⟨⟨items, behind⟩, hf, h⟩ := bind_ok h
    cases h
    obtain ⟨hsuf, hlen, hover⟩ := readFixed_ok htokens hf
    exact ⟨hsuf, hlen ▸ .fixed hover⟩
  case h_6 =>
    obtain ⟨⟨parts, behind⟩, hf, h⟩ := bind_ok h
    cases h
    obtain ⟨hsuf, hparts⟩ := readFields_ok htokens hf
    exact ⟨hsuf, .composite hparts⟩

end Value

end FermRules
