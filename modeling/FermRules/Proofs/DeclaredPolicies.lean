import FermRules.Proofs.LineParts

/-! # Declared and stated policies

A dump declares policies in the sections of its tables, and a configuration states
them in the chains of its table blocks. For one chain the stated ones are some of the
declared ones, and the last of each is the same. Policies that are declared but not
stated yet are held in a list with one entry for a chain, where a new declaration
takes the place of an old one. -/
namespace FermRules

/-! ## Declared and stated policies -/

/-- The policies of one chain, in order. -/
def policiesOf (chain : String) (entries : List (String × String)) : List String :=
  entries.filterMap fun (name, policy) => if name = chain then some policy else none

namespace DumpLine

/-- A chain that is declared with a built-in policy. -/
def declared? : DumpLine → Option (String × String)
  | .chain name (some policy) => if policy ∈ builtinPolicies then some (name, policy) else none
  | _ => none

/-- The policies declared up to the next table line. -/
def declaredFirst : List DumpLine → List (String × String)
  | [] => []
  | .table _ :: _ => []
  | line :: rest => line.declared?.toList ++ declaredFirst rest

/-- The tables of a dump, each with the policies declared up to the next one. -/
def declaredTables : List DumpLine → List (String × List (String × String))
  | [] => []
  | .table name :: rest => (name, declaredFirst rest) :: declaredTables rest
  | _ :: rest => declaredTables rest

end DumpLine

namespace Outline

def Part.policy? : Part → Option String
  | .policy name => some name
  | _ => none

/-- The policies stated for chains up to the end of the block that is open around
these blocks, the innermost first. -/
def statedFirst {α : Type} (part : α → Part) (blocks : List Part) : List α → List (String × String)
  | [] => []
  | line :: rest =>
    match part line with
    | .policy name =>
      match blocks with
      | .chain chain :: _ => (chain, name) :: statedFirst part blocks rest
      | _ => statedFirst part blocks rest
    | .close =>
      match blocks with
      | [] => []
      | _ :: outer => statedFirst part outer rest
    | .statement | .other => statedFirst part blocks rest
    | opened => statedFirst part (opened :: blocks) rest

/-- The table blocks, each with the policies stated for chains inside. -/
def statedTables {α : Type} (part : α → Part) : List α → List (String × List (String × String))
  | [] => []
  | line :: rest =>
    match part line with
    | .table name => (name, statedFirst part [] rest) :: statedTables part rest
    | _ => statedTables part rest

/-- Every policy directly follows the header of a chain. -/
def Led (parts : List Part) : Prop :=
  ∀ front name behind, parts = front ++ .policy name :: behind →
    ∃ before chain, front = before ++ [.chain chain]

end Outline

namespace ConfigLine
open Outline (Part)

abbrev statedFirst (blocks : List Part) (lines : List ConfigLine) : List (String × String) :=
  Outline.statedFirst part blocks lines

abbrev statedTables (lines : List ConfigLine) : List (String × List (String × String)) :=
  Outline.statedTables part lines

def policy? (line : ConfigLine) : Option String := line.part.policy?

end ConfigLine

/-- What has been declared for a chain is stated: the last policy last, and each
declaration at most once. -/
structure States (declared stated : List String) : Prop where
  sublist : stated.Sublist declared
  last : stated.getLast? = declared.getLast?

namespace States

variable {declared stated : List String}

theorem refl (policies : List String) : States policies policies := ⟨.refl _, rfl⟩

theorem append (front : List String) (h : States declared stated) :
    States (front ++ declared) (front ++ stated) := by
  refine ⟨h.sublist.append_left front, ?_⟩
  rw [List.getLast?_append, List.getLast?_append, h.last]

/-- A policy that is declared anew before it was stated need not be stated. -/
theorem skip {policy : String} (old : List String) (h : States (policy :: declared) stated) :
    States (old ++ policy :: declared) stated := by
  refine ⟨h.sublist.trans (List.sublist_append_right _ _), ?_⟩
  rw [h.last, List.getLast?_append]
  simp [List.getLast?_cons]

end States

/-! ## Pending policies -/

theorem policiesOf_append (chain : String) (entries more : List (String × String)) :
    policiesOf chain (entries ++ more) = policiesOf chain entries ++ policiesOf chain more :=
  List.filterMap_append

theorem policiesOf_cons (chain : String) (entry : String × String)
    (entries : List (String × String)) :
    policiesOf chain (entry :: entries)
      = if entry.1 = chain then entry.2 :: policiesOf chain entries
        else policiesOf chain entries := by
  rw [policiesOf, List.filterMap_cons]
  split <;> rename_i h <;> split at h <;> simp_all [policiesOf]

/-- No chain has two entries. -/
def Distinct (entries : List (String × String)) : Prop := entries.Pairwise (·.1 ≠ ·.1)

theorem policiesOf_of_forall {chain : String} {entries : List (String × String)}
    (h : ∀ entry ∈ entries, chain ≠ entry.1) : policiesOf chain entries = [] := by
  refine List.filterMap_eq_nil_iff.mpr fun entry he => if_neg (h entry he).symm

theorem policiesOf_lookup {entries : List (String × String)} (h : Distinct entries)
    (chain : String) : policiesOf chain entries = (entries.lookup chain).toList := by
  induction entries with
  | nil => rfl
  | cons entry entries ih =>
    obtain ⟨hfirst, hrest⟩ := List.pairwise_cons.mp h
    obtain ⟨name, policy⟩ := entry
    rw [policiesOf_cons, List.lookup_cons]
    by_cases hc : name = chain
    · subst hc
      simp [policiesOf_of_forall hfirst]
    · have hne : (chain == name) = false := by simpa using Ne.symm hc
      rw [if_neg hc, ih hrest, hne]

theorem policiesOf_filter (chain opened : String) (entries : List (String × String)) :
    policiesOf chain (entries.filter (·.1 ≠ opened))
      = if chain = opened then [] else policiesOf chain entries := by
  split
  · rename_i hc
    subst hc
    refine policiesOf_of_forall fun entry he => ?_
    have hne : entry.1 ≠ chain := by simpa using (List.mem_filter.mp he).2
    exact hne.symm
  · rename_i hc
    rw [policiesOf, policiesOf, List.filterMap_filter]
    refine List.filterMap_congr fun entry _ => ?_
    by_cases he : entry.1 = chain
    · simp [he, hc]
    · simp [he]

theorem policiesOf_chain (name chain : String) (policy : Option String) :
    policiesOf name (policy.toList.map (chain, ·))
      = if name = chain then policy.toList else [] := by
  cases policy with
  | none => split <;> rfl
  | some policy =>
    rw [Option.toList_some, List.map_singleton, policiesOf_cons]
    simp only [eq_comm]
    rfl

theorem distinct_setPolicy {chain policy : String} {entries : List (String × String)}
    (h : Distinct entries) : Distinct (setPolicy chain policy entries) := by
  fun_induction setPolicy chain policy entries with
  | case1 => exact List.pairwise_singleton _ _
  | case2 old rest =>
    obtain ⟨hfirst, hrest⟩ := List.pairwise_cons.mp h
    exact List.pairwise_cons.mpr ⟨hfirst, hrest⟩
  | case3 name old rest hname ih =>
    obtain ⟨hfirst, hrest⟩ := List.pairwise_cons.mp h
    refine List.pairwise_cons.mpr ⟨fun entry he => ?_, ih hrest⟩
    rcases Context.mem_setPolicy he with rfl | he
    · exact hname
    · exact hfirst entry he

theorem policiesOf_setPolicy {entries : List (String × String)} (h : Distinct entries)
    (declared policy chain : String) :
    policiesOf chain (setPolicy declared policy entries)
      = if declared = chain then [policy] else policiesOf chain entries := by
  fun_induction setPolicy declared policy entries with
  | case1 => rw [policiesOf_cons]; rfl
  | case2 old rest =>
    obtain ⟨hfirst, _⟩ := List.pairwise_cons.mp h
    rw [policiesOf_cons, policiesOf_cons]
    split
    · rename_i hc
      rw [policiesOf_of_forall (hc ▸ hfirst)]
    · rfl
  | case3 name old rest hname ih =>
    obtain ⟨_, hrest⟩ := List.pairwise_cons.mp h
    rw [policiesOf_cons, policiesOf_cons, ih hrest]
    by_cases hc : declared = chain
    · simp [hc, hc ▸ hname]
    · simp [hc]

/-! ## Lines that state no policy -/

namespace ConfigLine
open Outline (Part)

theorem statedTables_append {lines : List ConfigLine} (h : ∀ line ∈ lines, line.isFrame = false ∨
    line = .close) (more : List ConfigLine) : statedTables (lines ++ more) = statedTables more := by
  induction lines with
  | nil => rfl
  | cons line lines ih =>
    obtain ⟨hline, hlines⟩ := List.forall_mem_cons.mp h
    rw [List.cons_append, ← ih hlines]
    cases line with
    | openTable name => simp [isFrame] at hline
    | _ => rfl

mutual

/-- The blocks of a rule are closed again, and state no policy. -/
theorem statedFirst_rule : ∀ (rule : Rule) (blocks : List Part) (more : List ConfigLine),
    statedFirst blocks (ofRule rule ++ more) = statedFirst blocks more ∧
      ∀ line ∈ ofRule rule, line.isFrame = false ∨ line = .close
  | .leaf r, blocks, more => ⟨rfl, by simp [ofRule, isFrame]⟩
  | .block c children, blocks, more => by
    obtain ⟨hinside, hlines⟩ := statedFirst_rules children (.block :: blocks) (.close :: more)
    constructor
    · rw [ofRule, List.append_assoc, List.cons_append]
      exact hinside
    · rw [ofRule]
      refine List.forall_mem_append.mpr ⟨List.forall_mem_cons.mpr ⟨.inl rfl, hlines⟩, ?_⟩
      exact List.forall_mem_singleton.mpr (.inr rfl)

theorem statedFirst_rules : ∀ (rules : List Rule) (blocks : List Part) (more : List ConfigLine),
    statedFirst blocks (ofRules rules ++ more) = statedFirst blocks more ∧
      ∀ line ∈ ofRules rules, line.isFrame = false ∨ line = .close
  | [], _, _ => ⟨rfl, List.forall_mem_nil _⟩
  | rule :: rest, blocks, more => by
    obtain ⟨hrule, hlines⟩ := statedFirst_rule rule blocks (ofRules rest ++ more)
    obtain ⟨hrest, hmore⟩ := statedFirst_rules rest blocks more
    rw [ofRules, List.append_assoc]
    exact ⟨hrule.trans hrest, List.forall_mem_append.mpr ⟨hlines, hmore⟩⟩

end

theorem policy?_of_rule {line : ConfigLine} (h : line.isFrame = false ∨ line = .close) :
    line.policy? = none := by
  rcases h with hframe | rfl
  · cases line <;> first | rfl | cases hframe
  · rfl

/-- The lines that close a chain. -/
theorem rules_close (rules : List Rule) :
    ∀ line ∈ ofRules rules ++ [.close], line.isFrame = false ∨ line = .close :=
  List.forall_mem_append.mpr
    ⟨(statedFirst_rules rules [] []).2, List.forall_mem_singleton.mpr (.inr rfl)⟩

end ConfigLine

/-! ## Where policies stand -/

namespace Outline

theorem led_of_none {parts : List Part} (h : ∀ part ∈ parts, part.policy? = none) :
    Led parts := by
  rintro front name behind rfl
  have hnone := h (.policy name) (by simp)
  cases hnone

theorem Led.append {parts more : List Part} (h : Led parts) (h' : Led more) :
    Led (parts ++ more) := by
  intro front name behind heq
  rcases List.append_eq_append_iff.mp heq with ⟨between, rfl, hmore⟩ | ⟨between, hparts, hmore⟩
  · obtain ⟨before, chain, rfl⟩ := h' between name behind hmore
    exact ⟨parts ++ before, chain, (List.append_assoc _ _ _).symm⟩
  · cases between with
    | nil =>
      obtain ⟨before, chain, hnil⟩ := h' [] name behind hmore.symm
      cases before <;> cases hnil
    | cons part between =>
      obtain ⟨rfl, _⟩ := List.cons.inj hmore
      exact h front name between hparts

theorem led_chain (chain : String) (policy : Option String) :
    Led (.chain chain :: policy.toList.map .policy) := by
  cases policy with
  | none => exact led_of_none (by simp [Part.policy?])
  | some policy =>
    intro front name behind heq
    cases front with
    | nil => cases heq
    | cons header front =>
      obtain ⟨rfl, hrest⟩ := List.cons.inj heq
      cases front with
      | nil => exact ⟨[], chain, rfl⟩
      | cons part front => cases front <;> cases hrest

end Outline

namespace ConfigLine
open Outline (Part Led)

theorem led_of_none {lines : List ConfigLine} (h : ∀ line ∈ lines, line.policy? = none) :
    Led (lines.map part) := Outline.led_of_none (List.forall_mem_map.mpr h)

theorem led_policyLines (chain : String) (policy : Option String) :
    Led ((Context.policyLines chain policy).map part) := by
  have hchain := Outline.led_chain chain policy
  cases policy <;> exact hchain

/-! ## Texts -/

section
variable {registry : Registry} {lines : List ConfigLine} {texts : List String}

/-- A policy as it is written for its chain. -/
def writtenPolicy (entry : String × String) : String × String := (Token.write entry.1, entry.2)

theorem statedFirst_texts (h : List.Forall₂ (Says registry) lines texts) (blocks : List Part) :
    Outline.statedFirst Outline.part (blocks.map Part.written) texts
      = (statedFirst blocks lines).map writtenPolicy := by
  induction h generalizing blocks with
  | nil => rfl
  | @cons line text lines texts hsays _ ih =>
    simp only [statedFirst, Outline.statedFirst, hsays.part]
    cases line with
    | openDomain name => exact ih (.domain name :: blocks)
    | openTable name => exact ih (.table name :: blocks)
    | openChain name => exact ih (.chain name :: blocks)
    | openBlock => exact ih (.block :: blocks)
    | close =>
      cases blocks with
      | nil => rfl
      | cons _ outer => exact ih outer
    | policy name =>
      have hrest := ih blocks
      cases blocks with
      | nil => exact hrest
      | cons inner outer =>
        cases inner with
        | chain chain => exact congrArg ((Token.write chain, name) :: ·) hrest
        | _ => exact hrest
    | _ => exact ih blocks

/-- The texts of lines state the same policies, in the same chains and tables. -/
theorem statedTables_texts (h : List.Forall₂ (Says registry) lines texts) :
    Outline.statedTables Outline.part texts = (statedTables lines).map fun (table, stated) =>
      (Token.write table, stated.map writtenPolicy) := by
  induction h with
  | nil => rfl
  | @cons line text lines texts hsays hrest ih =>
    simp only [statedTables, Outline.statedTables, hsays.part]
    cases line with
    | openTable name =>
      exact congr (congrArg List.cons (congrArg _ (statedFirst_texts hrest []))) ih
    | _ => exact ih

theorem parts_texts (h : List.Forall₂ (Says registry) lines texts) :
    texts.map Outline.part = (lines.map part).map Part.written := by
  induction h with
  | nil => rfl
  | cons hsays _ ih => rw [List.map_cons, List.map_cons, List.map_cons, hsays.part, ih]

theorem policies_texts (h : List.Forall₂ (Says registry) lines texts) :
    texts.filterMap (fun text => (Outline.part text).policy?) = lines.filterMap policy? := by
  have hparts := congrArg (List.filterMap Part.policy?) (parts_texts h)
  rw [List.filterMap_map, List.filterMap_map, List.filterMap_map] at hparts
  refine hparts.trans (List.filterMap_congr fun line _ => ?_)
  cases line <;> rfl

theorem led_texts (h : List.Forall₂ (Says registry) lines texts) (hled : Led (lines.map part)) :
    Led (texts.map Outline.part) := by
  intro front name behind heq
  rw [parts_texts h] at heq
  obtain ⟨parts, others, hsplit, rfl, hothers⟩ := List.map_eq_append_iff.mp heq
  obtain ⟨policy, rest, rfl, hpolicy, rfl⟩ := List.map_eq_cons_iff.mp hothers
  cases policy with
  | policy other =>
    obtain ⟨before, chain, rfl⟩ := hled parts other rest hsplit
    exact ⟨before.map Part.written, Token.write chain, List.map_append⟩
  | _ => cases hpolicy

end

end ConfigLine

end FermRules
