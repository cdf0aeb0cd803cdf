import FermRules.Rule.Reading

/-! # Where the keywords of a scope come from

A scope is made from the tables of a registry, so a keyword found under a name
has that name and stands in one of the tables. In front of a jump these are the
conditions and what protocols and modules bring along; behind it the tables of
targets take the place of the conditions. -/
namespace FermRules

/-- The keywords that protocols and modules bring along. -/
def Registry.broughtKeywords (registry : Registry) : List Keyword :=
  registry.protocols.flatMap Prod.snd ++ registry.modules.flatMap Prod.snd

/-- The keywords that may be read in front of a jump. -/
def Registry.conditionKeywords (registry : Registry) : List Keyword :=
  registry.conditions ++ registry.broughtKeywords

/-- The keywords that may be read behind a jump. -/
def Registry.parameterKeywords (registry : Registry) : List Keyword :=
  registry.targets.flatMap Prod.snd ++ registry.broughtKeywords

theorem mem_of_mem_lookup {tables : List (String × Keywords)} {name : String} {k : Keyword}
    (h : k ∈ (tables.lookup name).getD []) : k ∈ tables.flatMap Prod.snd := by
  cases hl : tables.lookup name with
  | none => rw [hl] at h; cases h
  | some table =>
    rw [hl, Option.getD_some] at h
    obtain ⟨before, behind, heq, _⟩ := List.lookup_eq_some_iff.mp hl
    rw [heq]
    simp [h]

theorem Registry.protocolKeywords_subset (registry : Registry) (name : String) :
    registry.protocolKeywords name ⊆ registry.broughtKeywords := fun _ hk =>
  List.mem_append_left _ (mem_of_mem_lookup hk)

theorem Registry.moduleKeywords_subset (registry : Registry) (name : String) :
    registry.moduleKeywords name ⊆ registry.broughtKeywords := fun _ hk =>
  List.mem_append_right _ (mem_of_mem_lookup hk)

theorem Registry.targetKeywords_subset (registry : Registry) (name : String) :
    registry.targetKeywords name ⊆ registry.parameterKeywords := fun _ hk =>
  List.mem_append_left _ (mem_of_mem_lookup hk)

/-- The scope finds only keywords of the table, under their own names. -/
def Scope.From (table : List Keyword) (scope : Scope) : Prop :=
  ∀ name k, scope name = some k → k.name = name ∧ k ∈ table

namespace Scope

theorem find?_name {keywords : Keywords} {name : String} {k : Keyword}
    (h : keywords.find? name = some k) : k.name = name := by
  simpa using List.find?_some h

theorem from_find? {table : List Keyword} {keywords : Keywords} (h : keywords ⊆ table) :
    Scope.From table keywords.find? := fun _ _ hk =>
  ⟨find?_name hk, h (List.mem_of_find?_eq_some hk)⟩

theorem From.extend {table : List Keyword} {scope : Scope} {keywords : Keywords}
    (hs : scope.From table) (h : keywords ⊆ table) : (scope.extend keywords).From table := by
  intro name k hk
  rcases Option.or_eq_some_iff.mp hk with hk | ⟨_, hk⟩
  · exact from_find? h name k hk
  · exact hs name k hk

/-- Extending by several tables, one after the other. -/
def extendAll (scope : Scope) (tables : List Keywords) : Scope := tables.foldl Scope.extend scope

theorem From.extendAll {table : List Keyword} {scope : Scope} {tables : List Keywords}
    (hs : scope.From table) (h : ∀ keywords ∈ tables, keywords ⊆ table) :
    (scope.extendAll tables).From table := by
  induction tables generalizing scope with
  | nil => exact hs
  | cons keywords rest ih =>
    obtain ⟨hk, hrest⟩ := List.forall_mem_cons.mp h
    exact ih (hs.extend hk) hrest

end Scope

namespace Reading

/-- The keywords that a reading may find. -/
def table (registry : Registry) (r : Reading) : List Keyword :=
  if r.inTarget then registry.parameterKeywords else registry.conditionKeywords

theorem brought_subset_table (registry : Registry) (r : Reading) :
    registry.broughtKeywords ⊆ r.table registry := by
  unfold table
  split
  · exact fun _ hk => List.mem_append_right _ hk
  · exact fun _ hk => List.mem_append_right _ hk

theorem push_scope (r : Reading) (c : Clause) : (r.push c).scope = r.scope := by
  unfold push
  split <;> rfl

theorem push_inTarget (r : Reading) (c : Clause) : (r.push c).inTarget = r.inTarget := by
  unfold push
  split
  · rename_i ha
    simp [inTarget, ha]
  · rfl

/-- The modules that no declared protocol implies. -/
def kept (registry : Registry) (r : Reading) (names : List String) : List String :=
  names.filter fun name => !(r.protocols.map registry.moduleForProtocol).contains name

def activate (registry : Registry) (r : Reading) (names : List String) : Reading :=
  { r with scope := r.scope.extendAll (names.map registry.moduleKeywords) }

theorem addModules_eq (registry : Registry) (r : Reading) (names : List String) :
    r.addModules registry names
      = if r.kept registry names = [] then r.activate registry names
        else (r.activate registry names).push
          ⟨"match", .list (r.kept registry names), some matchKeyword⟩ := by
  simp only [addModules, kept, activate, Scope.extendAll, List.foldl_map, List.isEmpty_iff]
  rfl

end Reading

end FermRules
