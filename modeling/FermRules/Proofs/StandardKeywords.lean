import FermRules.Proofs.Legible
import FermRules.Registry.Standard

/-! # The standard registry is legible

The properties are checked keyword by keyword, all at once. Words are checked byte
by byte, which spares decoding them, and names are compared only where their sizes
agree, for most pairs of names differ in size already. Two conditions of one name
also agree on whether they may hold an array. This is not so behind a jump: `mask`
is a literal there and a scalar as a condition. -/
namespace FermRules

namespace Token

/-- The byte of a simple character. -/
def isSimpleByte (b : UInt8) : Bool := decide (b.toNat ≤ 127) && isSimpleChar (Char.ofNat b.toNat)

/-- The words of options by their bytes. -/
def hasOptionBytes (w : String) : Bool :=
  w.toByteArray.data.toList.all isSimpleByte
    && w.toByteArray.data.toList.head?.any fun b => !Nat.beq b.toNat 45

theorem bytes_eq (w : String) :
    w.toByteArray.data.toList = w.toList.flatMap String.utf8EncodeChar := by
  rw [← String.utf8Encode_toList, List.utf8Encode, List.data_toByteArray]

/-- Characters of more than one byte have no byte of a simple character in front. -/
theorem isSimpleChar_of_bytes {c : Char}
    (h : ∀ b ∈ String.utf8EncodeChar c, isSimpleByte b = true) : isSimpleChar c = true := by
  have hwide : ∀ n, 128 ≤ n → n < 256 → isSimpleByte (UInt8.ofNat n) = false := by
    intro n hlow hhigh
    have hn : (UInt8.ofNat n).toNat = n := UInt8.toNat_ofNat_of_lt' hhigh
    have hnot : ¬n ≤ 127 := by omega
    simp [isSimpleByte, hn, hnot]
  unfold String.utf8EncodeChar at h
  dsimp only at h
  split at h
  · rename_i hone
    have hbyte := h _ List.mem_cons_self
    have hn : (UInt8.ofNat c.val.toNat).toNat = c.toNat :=
      UInt8.toNat_ofNat_of_lt' (Nat.lt_of_le_of_lt hone (by decide))
    rw [isSimpleByte, hn, Char.ofNat_toNat, Bool.and_eq_true] at hbyte
    exact hbyte.2
  · -- the first of several bytes tells their number, and is none of a simple character
    exfalso
    split at h
    on_goal 2 => split at h
    all_goals
      have hbyte := h _ List.mem_cons_self
      rw [hwide _ (by omega) (by omega)] at hbyte
      cases hbyte

theorem isOptionWord_of_bytes {w : String} (h : hasOptionBytes w = true) :
    isOptionWord w = true := by
  rw [hasOptionBytes, bytes_eq, Bool.and_eq_true] at h
  obtain ⟨hall, hhead⟩ := h
  have hchars : ∀ c ∈ w.toList, isSimpleChar c = true := by
    intro c hc
    refine isSimpleChar_of_bytes fun b hb => ?_
    exact List.all_eq_true.mp hall b (List.mem_flatMap.mpr ⟨c, hc, hb⟩)
  rw [isOptionWord, Bool.and_eq_true]
  refine ⟨List.all_eq_true.mpr hchars, ?_⟩
  cases hw : w.toList with
  | nil =>
    rw [hw] at hhead
    cases hhead
  | cons c cs =>
    have hdash : c ≠ '-' := by
      rintro rfl
      rw [hw] at hhead
      revert hhead
      simp [String.utf8EncodeChar]
    simp [hdash]

end Token

namespace Registry

namespace Standard

/-- Two names differ. They are compared only where their sizes agree. -/
def differ (a b : String) : Bool := !Nat.beq a.utf8ByteSize b.utf8ByteSize || decide (a ≠ b)

theorem ne_of_differ {a b : String} (h : differ a b = true) : a ≠ b := by
  rintro rfl
  simp [differ] at h

/-- All that is checked of the tables. -/
theorem tables_checked :
    (∀ k ∈ standard.keywords,
      (Token.hasOptionBytes k.renderedName = true ∧ standard.resolve k.renderedName = k.name) ∧
        k.shape.readsBack = true ∧ k.accumulates = false ∧ reserved.all (differ k.name) = true ∧
        k.negation ≠ .after ∧ (k.shape = .flag → k.name ≠ "protocol")) ∧
    (∀ w ∈ fixedWords, Token.hasOptionBytes w.1 = true ∧ standard.resolve w.1 = w.2) ∧
    (∀ t ∈ standard.targets.map Prod.fst, Token.hasOptionBytes t = true ∧
      standard.resolve t = t ∧ reserved.all (differ t) = true) ∧
    (standard.keywords.all fun k =>
      (standard.targets.map Prod.fst).all (differ k.name)) = true ∧
    (standard.keywords.all fun k => standard.protocolTable.all fun p =>
      differ k.name p.name || decide (k = p)) = true ∧
    ((standard.conditionKeywords.filter Keyword.mergeable).all fun k =>
      (standard.conditionKeywords.filter fun l => !l.mergeable).all fun l =>
        differ k.name l.name) = true ∧
    (standard.keywords.all fun k => frameWords.all (differ k.renderedName)) = true := by
  decide +kernel

end Standard

open Standard

theorem mem_of_isTarget {registry : Registry} {name : String}
    (h : registry.isTarget name = true) : name ∈ registry.targets.map Prod.fst := by
  obtain ⟨table, hl⟩ := Option.isSome_iff_exists.mp h
  obtain ⟨before, behind, heq, _⟩ := List.lookup_eq_some_iff.mp hl
  simp [heq]

theorem not_mem_of_differ {name : String} {names : List String}
    (h : names.all (differ name) = true) : name ∉ names := by
  intro hmem
  exact ne_of_differ (List.all_eq_true.mp h name hmem) rfl

theorem legible_standard : standard.Legible := by
  obtain ⟨hkeywords, hwords, htargets, happart, hcoherent, -⟩ := tables_checked
  constructor
  case keyword =>
    intro k hk
    obtain ⟨⟨hword, hresolves⟩, hback, hsingle, hfree, -⟩ := hkeywords k hk
    exact ⟨⟨Token.isOptionWord_of_bytes hword, hresolves⟩, hback, hsingle, not_mem_of_differ hfree⟩
  case word =>
    intro w hw
    obtain ⟨hword, hresolves⟩ := hwords w hw
    exact ⟨Token.isOptionWord_of_bytes hword, hresolves⟩
  case target =>
    intro name h
    obtain ⟨hword, hresolves, -⟩ := htargets name (mem_of_isTarget h)
    exact ⟨Token.isOptionWord_of_bytes hword, hresolves⟩
  case target_free =>
    intro name h
    have ht := mem_of_isTarget h
    refine ⟨not_mem_of_differ (htargets name ht).2.2, fun k hk => ?_⟩
    exact ne_of_differ (List.all_eq_true.mp (List.all_eq_true.mp happart k hk) name ht)
  case coherent =>
    intro k hk p hp he
    have hdiffer := List.all_eq_true.mp (List.all_eq_true.mp hcoherent k hk) p hp
    rcases Bool.or_eq_true_iff.mp hdiffer with hdiffer | hsame
    · exact absurd he (ne_of_differ hdiffer)
    · exact of_decide_eq_true hsame

theorem clear_standard : standard.Clear := by
  obtain ⟨-, -, -, -, -, -, hwords⟩ := tables_checked
  refine ⟨legible_standard, fun k hk => ?_, by decide +kernel⟩
  exact not_mem_of_differ (List.all_eq_true.mp hwords k hk)

theorem standard_negated_before (k : Keyword) (hk : k ∈ standard.keywords) :
    k.negation ≠ .after := (tables_checked.1 k hk).2.2.2.2.1

theorem standard_protocol_takes (k : Keyword) (hk : k ∈ standard.keywords)
    (hflag : k.shape = .flag) : k.name ≠ "protocol" := (tables_checked.1 k hk).2.2.2.2.2 hflag

/-- Conditions of one name agree on whether they may hold an array. -/
theorem mergeable_standard {k l : Keyword} (hk : k ∈ standard.conditionKeywords)
    (hl : l ∈ standard.conditionKeywords) (hn : k.name = l.name) : k.mergeable = l.mergeable := by
  have hapart : ∀ {k l : Keyword}, k ∈ standard.conditionKeywords →
      l ∈ standard.conditionKeywords → k.mergeable = true → l.mergeable = false →
      k.name ≠ l.name := by
    intro k l hk hl hkm hlm
    obtain ⟨-, -, -, -, -, hmergeable, -⟩ := tables_checked
    have hk := List.all_eq_true.mp hmergeable k (List.mem_filter.mpr ⟨hk, hkm⟩)
    exact ne_of_differ (List.all_eq_true.mp hk l (List.mem_filter.mpr ⟨hl, by simp [hlm]⟩))
  cases hkm : k.mergeable <;> cases hlm : l.mergeable
  · rfl
  · exact absurd hn.symm (hapart hl hk hlm hkm)
  · exact absurd hn (hapart hk hl hkm hlm)
  · rfl

end Registry

end FermRules
