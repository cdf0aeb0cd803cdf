import FermRules.Proofs.Lexing
import FermRules.Proofs.Scopes
import FermRules.Proofs.ValueText

/-! # Registries whose written rules can be read

The printer writes keywords, targets and actions as bare words. For such a word
to be read as what it was written for, it must be a single token, it must
resolve to the name that was meant, and no keyword of another name may stand in
its way. A registry with these properties is called legible. The last property
asked for is about protocols: whatever else brings a keyword of a protocol
along brings the very same keyword. -/
namespace FermRules

/-- A word of simple characters with no dash in front. -/
def Token.isOptionWord (w : String) : Bool :=
  w.toList.all isSimpleChar && w.toList.head?.any (· ≠ '-')

namespace Registry

/-- All keywords that a registry knows. -/
def keywords (registry : Registry) : List Keyword :=
  registry.conditions ++ registry.parameterKeywords

theorem brought_subset_keywords (registry : Registry) :
    registry.broughtKeywords ⊆ registry.keywords := fun _ hk =>
  List.mem_append_right _ (List.mem_append_right _ hk)

theorem condition_subset_keywords (registry : Registry) :
    registry.conditionKeywords ⊆ registry.keywords :=
  List.append_subset.mpr ⟨List.subset_append_left _ _, registry.brought_subset_keywords⟩

theorem parameter_subset_keywords (registry : Registry) :
    registry.parameterKeywords ⊆ registry.keywords := List.subset_append_right _ _

/-- A keyword that a protocol brings along. -/
def protocolTable (registry : Registry) : List Keyword := registry.protocols.flatMap Prod.snd

theorem protocolKeywords_subset_table (registry : Registry) (name : String) :
    registry.protocolKeywords name ⊆ registry.protocolTable := fun _ hk => mem_of_mem_lookup hk

/-- The word stands for the name wherever an option may begin. -/
structure Calls (registry : Registry) (w name : String) : Prop where
  word : Token.isOptionWord w = true
  resolves : registry.resolve w = name

/-- Names that have a meaning where they are no keywords. -/
def reserved : List String := ["match", "jump", "goto", "NOP"]

/-- Words that the lines around rules begin with. -/
def frameWords : List String := ["#", "domain", "table", "chain", "policy"]

/-- The words that the printer writes of its own, with the names they stand for. -/
def fixedWords : List (String × String) :=
  [("mod", "match"), ("jump", "jump"), ("goto", "goto"), ("NOP", "NOP")]

end Registry

structure Keyword.Legible (registry : Registry) (k : Keyword) : Prop where
  called : registry.Calls k.renderedName k.name
  readsBack : k.shape.readsBack = true
  single : k.accumulates = false
  free : k.name ∉ Registry.reserved

structure Registry.Legible (registry : Registry) : Prop where
  keyword : ∀ k ∈ registry.keywords, k.Legible registry
  word : ∀ w ∈ Registry.fixedWords, registry.Calls w.1 w.2
  target : ∀ name, registry.isTarget name = true → registry.Calls name name
  target_free : ∀ name, registry.isTarget name = true →
    name ∉ Registry.reserved ∧ ∀ k ∈ registry.keywords, k.name ≠ name
  coherent : ∀ k ∈ registry.keywords, ∀ p ∈ registry.protocolTable, k.name = p.name → k = p

/-- No rule is written with such a word in front, so its lines can be told from those
around them. -/
structure Registry.Clear (registry : Registry) : Prop where
  legible : registry.Legible
  keyword : ∀ k ∈ registry.keywords, k.renderedName ∉ Registry.frameWords
  target : ∀ w ∈ Registry.frameWords, registry.isTarget w = false

/-! ## Words -/

/-- What opens at an unquoted word, by the name that it stands for. -/
theorem Reading.opening_word {registry : Registry} {w name : String} (r : Reading)
    (hneg : (Token.word w).isNegation = false) (hname : Reading.optionName registry w = name) :
    r.opening registry (.word w)
      = match r.scope name with
        | some k => .ok (.option k)
        | none =>
          if name = "match" then .ok .modules
          else if name = "jump" then .ok (.action .jump)
          else if name = "goto" then .ok (.action .goto)
          else if !r.inTarget && registry.isTarget name then .ok (.target name)
          else if name = "NOP" && !r.negated then .ok .nothing
          else .error (.unknownOption w) := by
  have hword : Reading.optionName registry (Token.word w).text = name := hname
  rw [Reading.opening, hneg, if_neg (by simp), if_neg (by simp [Token.word]), hword]
  rfl

namespace Token

variable {w : String}

theorem simple_of_isOptionWord (h : isOptionWord w = true) :
    ∀ c ∈ w.toList, isSimpleChar c = true :=
  List.all_eq_true.mp (Bool.and_eq_true_iff.mp h).1

/-- The word has a first character, and that is no dash. -/
theorem head_of_isOptionWord (h : isOptionWord w = true) :
    ∃ c cs, w.toList = c :: cs ∧ c ≠ '-' := by
  have hhead := (Bool.and_eq_true_iff.mp h).2
  cases hw : w.toList with
  | nil => simp [hw] at hhead
  | cons c cs => exact ⟨c, cs, rfl, by simpa [hw] using hhead⟩

theorem spells_of_isOptionWord (h : isOptionWord w = true) : Spells w.toList [.word w] := by
  obtain ⟨c, cs, hw, _⟩ := head_of_isOptionWord h
  refine Spells.word ?_ fun c hc => inside_of_isSimpleChar (simple_of_isOptionWord h c hc)
  rintro rfl
  cases hw

end Token

namespace Registry.Calls

variable {registry : Registry} {w name : String}

theorem simple (h : registry.Calls w name) : ∀ c ∈ w.toList, Token.isSimpleChar c = true :=
  Token.simple_of_isOptionWord h.word

theorem head (h : registry.Calls w name) : ∃ c cs, w.toList = c :: cs ∧ c ≠ '-' :=
  Token.head_of_isOptionWord h.word

theorem ne_of_mem (h : registry.Calls w name) {c : Char} {s : String} (hc : c ∈ s.toList)
    (hs : Token.isSimpleChar c = false) : w ≠ s := by
  rintro rfl
  rw [h.simple c hc] at hs
  cases hs

theorem spells (h : registry.Calls w name) : Spells w.toList [.word w] :=
  Token.spells_of_isOptionWord h.word

theorem isNegation (h : registry.Calls w name) : (Token.word w).isNegation = false := by
  have hne : w ≠ "!" := h.ne_of_mem (c := '!') (by decide) (by decide)
  simp [Token.isNegation, Token.word, hne]

theorem optionName (h : registry.Calls w name) : Reading.optionName registry w = name := by
  obtain ⟨c, cs, hw, hc⟩ := h.head
  have hdrop : w.toList.dropWhile (· = '-') = w.toList := by
    rw [hw, List.dropWhile_cons_of_neg (by simpa using hc)]
  rw [Reading.optionName, hdrop, String.ofList_toList, h.resolves]

/-- What opens at the word, by the name that it stands for. -/
theorem opening_eq (h : registry.Calls w name) (r : Reading) :
    r.opening registry (.word w)
      = match r.scope name with
        | some k => .ok (.option k)
        | none =>
          if name = "match" then .ok .modules
          else if name = "jump" then .ok (.action .jump)
          else if name = "goto" then .ok (.action .goto)
          else if !r.inTarget && registry.isTarget name then .ok (.target name)
          else if name = "NOP" && !r.negated then .ok .nothing
          else .error (.unknownOption w) := r.opening_word h.isNegation h.optionName

theorem opening_option (h : registry.Calls w name) {r : Reading} {k : Keyword}
    (hk : r.scope name = some k) : r.opening registry (.word w) = .ok (.option k) := by
  rw [h.opening_eq, hk]

end Registry.Calls

/-! ## Scopes -/

theorem Scope.From.none {table : List Keyword} {scope : Scope} {name : String}
    (hs : scope.From table) (h : ∀ k ∈ table, k.name ≠ name) : scope name = none := by
  cases hk : scope name with
  | none => rfl
  | some k =>
    obtain ⟨hn, hm⟩ := hs name k hk
    exact absurd hn (h k hm)

namespace Registry.Legible

variable {registry : Registry} (h : registry.Legible)

include h

theorem scope_reserved {scope : Scope} (hs : scope.From registry.keywords) {name : String}
    (hn : name ∈ Registry.reserved) : scope name = none :=
  hs.none fun k hk he => (h.keyword k hk).free (he ▸ hn)

theorem calls_mod : registry.Calls "mod" "match" := h.word ("mod", "match") (by decide)

theorem calls_jump : registry.Calls "jump" "jump" := h.word ("jump", "jump") (by decide)

theorem calls_goto : registry.Calls "goto" "goto" := h.word ("goto", "goto") (by decide)

theorem calls_nop : registry.Calls "NOP" "NOP" := h.word ("NOP", "NOP") (by decide)

end Registry.Legible

end FermRules
