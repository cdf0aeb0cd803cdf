import FermRules.Proofs.CompactNames
import FermRules.Proofs.RuleText
import FermRules.Proofs.SingleKeyword

/-! # One keyword is read from its own text

What is read where one keyword is known is a sequence of clauses, and a sequence is read
from its text with no clause joined anew, for clauses that do not join still do not when
they are settled. The shape of the keyword is any that has a code and reads back. What
the text is read as depends on the words in it, too: each must stand for what it was
written for. That is up to the registry, which looks words up without the dashes in
front and may give them other meanings. -/
namespace FermRules

/-! ## Settled clauses -/

theorem Value.eq_list_of_settled {v : Value} {shape : Shape} {items : List String}
    (h : v.settled shape = .list items) : v = .list items := by
  unfold settled at h
  split at h
  · split at h
    · cases h
    · exact h
  · cases h
  · cases h
  · exact h

namespace Clause

variable {c last : Clause}

theorem settled_definition (c : Clause) : c.settled.definition = c.definition := by
  unfold settled
  split
  · rfl
  · rfl

theorem eq_list_of_settled {items : List String} (h : c.settled.value = .list items) :
    c.value = .list items := by
  unfold settled at h
  split at h
  · exact Value.eq_list_of_settled h
  · exact h

/-- Clauses that do not join still do not when they are settled. -/
theorem accumulate?_settled (h : last.accumulate? c = none) :
    last.settled.accumulate? c.settled = none := by
  cases hboth : last.settled.accumulate? c.settled with
  | none => rfl
  | some both =>
    obtain ⟨items, more, hitems, hmore, -, -⟩ := of_accumulate? hboth
    unfold accumulate? at h hboth
    rw [hitems, hmore, settled_definition, settled_keyword, settled_keyword] at hboth
    rw [eq_list_of_settled hitems, eq_list_of_settled hmore] at h
    cases hk : c.definition with
    | none => simp [hk] at hboth
    | some k =>
      rw [hk] at h hboth
      dsimp only at h hboth
      split at h
      · cases h
      · rename_i hjoins
        rw [if_neg hjoins] at hboth
        cases hboth

theorem declares_settled (c : Clause) : c.settled.declares = c.declares := by
  rw [declares, declares, settled_keyword, settled_items?]

end Clause

/-! ## Words that stand for what was meant -/

/-- The registry reads the word that the clause is written under as its keyword. -/
def Clause.Speaks (registry : Registry) (c : Clause) : Prop :=
  Reading.optionName registry c.renderedName = c.keyword

/-- Each word that the rule is written with, besides values, stands for what it was
written for. A rule with nothing to say is written as a word, which must be no keyword. -/
structure LeafRule.Speaks (registry : Registry) (r : LeafRule) : Prop where
  conditions : ∀ c ∈ r.conditions, c.Speaks registry
  action : ∀ a, r.action = some a → Reading.optionName registry a.kind.name = a.kind.name
  params : ∀ a, r.action = some a → ∀ c ∈ a.params, c.Speaks registry
  nothing : r.conditions = [] → r.action = none →
    Reading.optionName registry "NOP" = "NOP" ∧ registry.conditions.find? "NOP" = none

variable {registry : Registry} {d : Keyword} {cs : List Clause}

theorem Clause.MayFollow.written (hd : Keyword.Nameable d.renderedName) {c : Clause}
    (h : c.MayFollow registry d cs) : c.Written := by
  cases h with
  | option _ _ hv => exact spells_option hd.spells hd.flush _ hv
  | modules _ hnames => exact Clause.written_ofModules hnames.unbroken

theorem Action.MayFollow.written (hone : registry.KnowsOnly d) {a : Action}
    (h : a.MayFollow registry d cs) : a.Written registry := by
  have hnone : ∀ target, registry.isTarget target = true →
      Spells target.toList [.word target] ∧ Text.Flush target :=
    fun target htarget => absurd htarget (by simp [hone.isTarget])
  cases h with
  | plain _ htarget => exact Action.written_of_params htarget (hnone _) (List.forall_mem_nil _)
  | modules _ htarget hnames =>
    exact Action.written_of_params htarget (hnone _)
      (List.forall_mem_singleton.mpr (Clause.written_ofModules hnames.unbroken))

namespace Reading

/-- The reading behind the text of these conditions. -/
def behind (d : Keyword) (cs : List Clause) : Reading :=
  ⟨Keywords.find? [d], cs.map Clause.settled, none, false, cs.flatMap Clause.declares⟩

theorem start_eq_behind (hone : registry.KnowsOnly d) : start registry = behind d [] := by
  rw [start, hone.conditions]
  rfl

theorem opening_modules {r : Reading} (hnone : r.scope "match" = none) {names : List String}
    (h : (Clause.ofModules names).Speaks registry) :
    r.opening registry (.word "mod") = .ok .modules := by
  have hname : optionName registry "mod" = "match" := h
  rw [opening_word r (by decide) hname, hnone]
  rfl

theorem addModules_of_kept (hone : registry.KnowsOnly d) {names : List String}
    (h : KeptBehind registry cs names) {r : Reading}
    (hr : r.protocols = cs.flatMap Clause.declares) :
    r.addModules registry names = r.push (.ofModules names) := by
  have hkept : r.kept registry names = names := kept_of_apart (hr ▸ h.apart)
  rw [addModules_eq, hkept, if_neg h.ne, hone.activate]
  rfl

/-- Reading a clause of the sequence from its text goes on with it, settled. -/
theorem run_behind (hone : registry.KnowsOnly d) (hd : Keyword.Nameable d.renderedName)
    {c : Clause} (hc : c.MayFollow registry d cs)
    (hapart : ∀ last, cs.getLast? = some last → last.accumulate? c = none)
    (hspeaks : c.Speaks registry) (rest : List Token) :
    (behind d cs).run registry (c.tokens ++ rest) = (behind d (cs ++ [c])).run registry rest := by
  have hsettled : pushClause c.settled (cs.map Clause.settled)
      = (cs ++ [c]).map Clause.settled := by
    rw [pushClause_apart, List.map_append, List.map_singleton]
    intro last hlast
    rw [List.getLast?_map] at hlast
    obtain ⟨before, hbefore, rfl⟩ := Option.map_eq_some_iff.mp hlast
    exact Clause.accumulate?_settled (hapart before hbefore)
  have hdeclares : cs.flatMap Clause.declares ++ c.settled.declares
      = (cs ++ [c]).flatMap Clause.declares := by
    rw [Clause.declares_settled, List.flatMap_append, List.flatMap_singleton]
  cases hc with
  | @option p v hback hp hv =>
    have hopen : ∀ negated, { behind d cs with negated }.opening registry (.word d.renderedName)
        = .ok (.option d) := by
      intro negated
      rw [opening_word _ hd.isNegation hspeaks]
      simp [behind, Keywords.find?_single]
    rw [Clause.settled_option] at hsettled hdeclares
    rw [run_marked rfl hback hopen hp hv, hone.learn _ _ _ (some d), behind, hdeclares, push,
      hsettled]
    rfl
  | @modules names hne hnames =>
    have hscope : (behind d cs).scope "match" = none := by
      simp [behind, Keywords.find?_single, hne]
    rw [Clause.settled_ofModules] at hsettled hdeclares
    rw [Clause.declares_match rfl, List.append_nil] at hdeclares
    rw [run_modules rfl (opening_modules hscope hspeaks) hnames.unbroken,
      addModules_of_kept hone hnames rfl, behind, hdeclares, push, hsettled]
    rfl

theorem run_sequence (hone : registry.KnowsOnly d) (hd : Keyword.Nameable d.renderedName)
    (h : Sequence registry d cs) (hspeaks : ∀ c ∈ cs, c.Speaks registry) (rest : List Token) :
    (start registry).run registry (cs.flatMap Clause.tokens ++ rest)
      = (behind d cs).run registry rest := by
  induction h generalizing rest with
  | nil =>
    rw [start_eq_behind hone]
    rfl
  | concat _ hc hapart ih =>
    obtain ⟨hfront, hlast⟩ := List.forall_mem_append.mp hspeaks
    rw [List.flatMap_append, List.flatMap_singleton, List.append_assoc, ih hfront,
      run_behind hone hd hc hapart (hlast _ List.mem_cons_self)]

/-- An action is met where no keyword has its name. -/
theorem opening_action {r : Reading} {kind : ActionKind} (hnone : r.scope kind.name = none)
    (hname : optionName registry kind.name = kind.name) :
    r.opening registry (.word kind.name) = .ok (.action kind) := by
  have hword : (Token.word kind.name).isNegation = false := by cases kind <;> decide
  rw [opening_word r hword hname, hnone]
  cases kind <;> rfl

theorem run_behind_action (hone : registry.KnowsOnly d) {a : Action}
    (h : a.MayFollow registry d cs) (hname : optionName registry a.kind.name = a.kind.name)
    (hparams : ∀ c ∈ a.params, c.Speaks registry) : ∃ last,
      (behind d cs).run registry (a.tokens registry) = .ok last ∧
      last.finish = .ok ⟨cs.map Clause.settled, some a.settled⟩ := by
  have hjump : ∀ (target : String) (params : List Clause),
      Action.tokens registry ⟨.jump, target, params⟩
        = .word "jump" :: .written target :: params.flatMap Clause.tokens := by
    intro target params
    simp [Action.tokens, Action.targetTokens, hone.isTarget]
  have hopen : ∀ kind : ActionKind, d.name ≠ kind.name →
      optionName registry kind.name = kind.name →
      (behind d cs).opening registry (.word kind.name) = .ok (.action kind) := by
    intro kind hne hname
    exact opening_action (by simp [behind, Keywords.find?_single, hne]) hname
  cases h with
  | @plain kind target hne _ =>
    have htokens : Action.tokens registry ⟨kind, target, []⟩
        = [.word kind.name, .written target] := by
      cases kind with
      | jump => exact hjump target []
      | goto => rfl
    refine ⟨(behind d cs).withAction registry kind target, ?_,
      by simp [finish, withAction, behind, Action.settled]⟩
    rw [htokens, run_act rfl rfl kind (hopen kind hne hname), run_nil]
  | @modules target names hne _ hnames =>
    have hscope : ((behind d cs).withAction registry .jump target).scope "match" = none := by
      simp [withAction, hone.targetKeywords, Keywords.find?]
    have hspeaks : (Clause.ofModules names).Speaks registry := hparams _ List.mem_cons_self
    have hsettled : Action.settled ⟨.jump, target, [.ofModules names]⟩
        = ⟨.jump, target, [.ofModules names]⟩ := by
      rw [Action.settled, List.map_singleton, Clause.settled_ofModules]
    have hmodules := run_modules rfl (opening_modules hscope hspeaks) hnames.unbroken []
    rw [List.append_nil, addModules_of_kept hone hnames rfl, run_nil] at hmodules
    refine ⟨((behind d cs).withAction registry .jump target).push (.ofModules names), ?_, ?_⟩
    · have hact := run_act rfl rfl .jump (hopen .jump hne hname) target
        (Clause.ofModules names).tokens
      rw [hjump, List.flatMap_singleton]
      exact hact.trans hmodules
    · rw [hsettled]
      rfl

theorem run_single (hone : registry.KnowsOnly d) (hd : Keyword.Nameable d.renderedName)
    {r : LeafRule} (h : r.Single registry d) (hspeaks : r.Speaks registry) : ∃ last,
      (start registry).run registry (r.tokens registry) = .ok last ∧
      last.finish = .ok r.settled := by
  have hrun := run_sequence hone hd h.conditions hspeaks.conditions
  refine run_parts [] hrun (fun hempty ha => ?_) (fun ha => ?_) fun a ha => ?_
  · obtain ⟨hname, hnone⟩ := hspeaks.nothing hempty ha
    rw [hempty, ← start_eq_behind hone, opening_word _ (by decide) hname]
    simp [start, hnone, hone.isTarget]
  · rw [LeafRule.settled, ha]
    rfl
  · rw [LeafRule.settled, ha]
    exact run_behind_action hone (h.action a ha) (hspeaks.action a ha) (hspeaks.params a ha)

end Reading

/-- A rule that was read where one keyword is known, and whose words all stand for what
they are written for, is read from its own text again, settled. This is so for each
keyword that has a spelling; but if it takes two words and more of a fixed number, the
rule must do without it, for these words are written as an array. -/
theorem ofText_render_single {spelling : String} {d : Keyword}
    (hspelling : Keyword.ofCompact spelling = .ok d) {registry : Registry}
    (hone : registry.KnowsOnly d) {text : String} (hline : Text.Unbroken text) {r : LeafRule}
    (hread : LeafRule.ofText registry text = .ok r)
    (hfixed : ∀ count, d.shape = .fixed count → count = 1 ∨ ∀ c ∈ r.conditions, c.keyword ≠ d.name)
    (hspeaks : r.Speaks registry) :
    ∃ written, r.render registry = .ok written ∧
      LeafRule.ofText registry written = .ok r.settled := by
  obtain ⟨-, hd, hcoded⟩ := Keyword.built_of_compact hspelling
  have hback : d.shape.readsBack = true ∨ d.name ∉ r.conditions.map Clause.keyword := by
    by_cases hmet : d.name ∈ r.conditions.map Clause.keyword
    · obtain ⟨c, hc, hname⟩ := List.mem_map.mp hmet
      exact .inl (hcoded.readsBack fun count hshape =>
        (hfixed count hshape).resolve_right fun hnone => hnone c hc hname)
    · exact .inr hmet
  have hsingle := LeafRule.single_of_text hone hline hread hback
  have hconditions : ∀ c ∈ r.conditions, c.Written := by
    intro c hc
    obtain ⟨front, hfollows⟩ := hsingle.conditions.mem c hc
    exact hfollows.written hd
  obtain ⟨body, hbody, -, hspells, -⟩ := LeafRule.spells_of_written hconditions
    fun a ha => (hsingle.action a ha).written hone
  obtain ⟨last, hrun, hfinish⟩ := Reading.run_single hone hd hsingle hspeaks
  exact ⟨_, hbody, LeafRule.ofText_of_run hspells hrun hfinish⟩

/-- The registry of one keyword, with these names for options. -/
def Registry.single (aliases : List (String × String)) (d : Keyword) : Registry :=
  ⟨aliases, [d], [], [], [], []⟩

theorem Registry.knowsOnly_single (aliases : List (String × String)) (d : Keyword) :
    (single aliases d).KnowsOnly d := ⟨rfl, rfl, rfl, rfl⟩

def portsKeyword : Keyword := ⟨"port", .list, .after, some "ports", true⟩

def portsRegistry : Registry := .single [("ports", "port"), ("mod", "match")] portsKeyword

def portsRule : LeafRule :=
  ⟨[⟨"port", .negatedAfter (.list ["a", "b"]), some portsKeyword⟩, .ofModules ["foo"],
    ⟨"port", .list ["x", "y"], some portsKeyword⟩], some ⟨.jump, "LOG", [.ofModules ["bar"]]⟩⟩

/-- A list that accumulates, with its negation behind the name. -/
theorem ofText_render_single_ports :
    LeafRule.ofText portsRegistry
      "port ! a,b --match foo --port x --port y --jump LOG --match bar" = .ok portsRule ∧
    portsRule.render portsRegistry
      = .ok "ports ! (a b) mod foo ports (x y) jump LOG mod bar;" ∧
    LeafRule.ofText portsRegistry "ports ! (a b) mod foo ports (x y) jump LOG mod bar;"
      = .ok portsRule.settled := by
  have hspelling : Keyword.ofCompact "port!+=c>ports" = .ok portsKeyword := by decide +kernel
  have hread : LeafRule.ofText portsRegistry
      "port ! a,b --match foo --port x --port y --jump LOG --match bar" = .ok portsRule := by
    decide +kernel
  have hwritten : portsRule.render portsRegistry
      = .ok "ports ! (a b) mod foo ports (x y) jump LOG mod bar;" := by decide +kernel
  have hspeaks : portsRule.Speaks portsRegistry := by
    refine ⟨?_, ?_, ?_, nofun⟩
    · unfold Clause.Speaks
      decide +kernel
    · rintro a ⟨⟩
      decide +kernel
    · rintro a ⟨⟩
      unfold Clause.Speaks
      decide +kernel
  obtain ⟨written, hrender, hagain⟩ := ofText_render_single hspelling
    (Registry.knowsOnly_single _ _) (by decide +kernel) hread nofun hspeaks
  obtain rfl := Except.ok.inj (hwritten.symm.trans hrender)
  exact ⟨hread, hwritten, hagain⟩

/-- The rule is read from the text, and the keyword resolves from the name that it is
written under; but what the rule is written as is not read as the rule. -/
structure LostInWriting (spelling : String) (aliases : List (String × String)) (d : Keyword)
    (text : String) (r : LeafRule) (output : String) : Prop where
  spelling : Keyword.ofCompact spelling = .ok d
  resolves : (Registry.single aliases d).resolve d.renderedName = d.name
  line : Text.Unbroken text
  read : LeafRule.ofText (.single aliases d) text = .ok r
  written : r.render (.single aliases d) = .ok output
  lost : LeafRule.ofText (.single aliases d) output ≠ .ok r.settled

/-- Modules are written under a name of their own. Dashes in front of a name are taken
away before it is looked up. A rule with nothing to say is written as a word all the
same. And words of a fixed number are written as an array. -/
theorem lost_in_writing :
    LostInWriting "x=s" [] (.scalar "x") "match foo" ⟨[.ofModules ["foo"]], none⟩ "mod foo;" ∧
    LostInWriting "foo=s>-bar" [("-bar", "foo")] ((Keyword.scalar "foo").writtenAs "-bar") "foo a"
      ⟨[⟨"foo", .scalar "a", some ((Keyword.scalar "foo").writtenAs "-bar")⟩], none⟩ "-bar a;" ∧
    LostInWriting "NOP" [] (.flag "NOP") "" ⟨[], none⟩ "NOP;" ∧
    LostInWriting "pair=2" [] (.ofShape "pair" (.fixed 2)) "pair a b"
      ⟨[⟨"pair", .list ["a", "b"], some (.ofShape "pair" (.fixed 2))⟩], none⟩ "pair (a b);" := by
  refine ⟨?_, ?_, ?_, ?_⟩
  all_goals constructor <;> decide +kernel

end FermRules
