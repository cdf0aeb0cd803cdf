import FermRules.Proofs.DeclaredPolicies

/-! # No policy is lost or invented

A declared policy is pending until its chain is opened or its table is closed, and
it may be declared anew in the meantime. So behind any line, what is pending and
what the rest of the section declares is what the rest of the table block has to
state: the last of these policies for every chain, and some of the others. Reading
a policy line does not change this, and neither does writing what is pending. -/
namespace FermRules

/-! ## What is pending -/

namespace Context
open Outline (Part)
open DumpLine (declaredFirst declaredTables)
open ConfigLine (statedFirst statedTables policy?)

variable {settings : Settings} {registry : Registry} {ctx mid last : Context}
  {rest : List DumpLine} {lines more : List ConfigLine} {events : List Event}

/-- Policies are pending in a table only, and one for each chain. -/
structure Pending (ctx : Context) : Prop where
  nested : ctx.Nested
  distinct : Distinct ctx.policies

theorem pending_start : ({} : Context).Pending := ⟨nested_start, .nil⟩

theorem Move.pending (hp : ctx.Pending) (h : Move settings ctx events mid) : mid.Pending := by
  refine ⟨h.nested hp.nested, ?_⟩
  cases h with
  | policy => exact distinct_setPolicy hp.distinct
  | closeTable => exact .nil
  | openChain => exact hp.distinct.filter _
  | _ => exact hp.distinct

theorem Moves.pending (hp : ctx.Pending) (h : Moves settings ctx events mid) : mid.Pending := by
  induction h with
  | refl => exact hp
  | step hm _ ih => exact ih (hm.pending hp)

theorem Did.pending {line : DumpLine} (hp : ctx.Pending)
    (h : Did settings registry ctx line events mid last) : last.Pending := by
  refine ⟨h.nested hp.nested, ?_⟩
  rw [h.last]
  exact (h.moves.pending hp).distinct

/-- The chain that is open, inside its table. -/
def inner (ctx : Context) : List Part := (ctx.chain.map Part.chain).toList

/-- A table block states the policies that its section declares. -/
def StatesTable (declared stated : String × List (String × String)) : Prop :=
  declared.1 = stated.1 ∧
    ∀ chain, States (policiesOf chain declared.2) (policiesOf chain stated.2)

/-- The lines state what is pending and what the rest of the dump declares, in
chains of the table blocks that it belongs to. -/
structure Accounts (ctx : Context) (rest : List DumpLine) (lines : List ConfigLine) : Prop where
  tables : List.Forall₂ StatesTable (declaredTables rest) (statedTables lines)
  current : ctx.table.isSome → ∀ chain,
    States (policiesOf chain (ctx.policies ++ declaredFirst rest))
      (policiesOf chain (statedFirst ctx.inner lines))
  inside : lines.filterMap policy?
    = (if ctx.table.isSome then (statedFirst ctx.inner lines).map Prod.snd else [])
      ++ (statedTables lines).flatMap fun block => block.2.map Prod.snd

namespace Accounts

/-- Lines that neither state a policy nor begin a table change nothing. -/
theorem silent (h : Accounts mid rest lines) (htable : mid.table = ctx.table)
    (hpolicies : mid.policies = ctx.policies)
    (hfirst : statedFirst ctx.inner (more ++ lines) = statedFirst mid.inner lines)
    (htables : statedTables (more ++ lines) = statedTables lines)
    (hnone : more.filterMap policy? = []) : Accounts ctx rest (more ++ lines) := by
  constructor
  · rw [htables]
    exact h.tables
  · rw [hfirst, ← htable, ← hpolicies]
    exact h.current
  · rw [hfirst, htables, ← htable, List.filterMap_append, hnone]
    exact h.inside

theorem closeChain (h : Accounts (ctx.closeChain settings).1 rest lines) :
    Accounts ctx rest (configLines (ctx.closeChain settings).2 ++ lines) := by
  cases hc : ctx.chain with
  | none =>
    rw [closeChain_of_none hc] at h ⊢
    exact h
  | some chain =>
    have hlast : (ctx.closeChain settings).1 = { ctx with chain := none, rules := [] } := by
      simp only [Context.closeChain, hc]
    rw [closeChain_lines hc]
    rw [hlast] at h
    have hlines := ConfigLine.rules_close (writtenRules settings ctx.rules)
    refine h.silent rfl rfl ?_ (ConfigLine.statedTables_append hlines lines) ?_
    · rw [List.append_assoc, (ConfigLine.statedFirst_rules _ _ _).1, inner, hc]
      rfl
    · exact List.filterMap_eq_nil_iff.mpr fun line hline =>
        ConfigLine.policy?_of_rule (hlines line hline)

/-- A chain states the policy that is pending for it in front of all others. -/
theorem openChain (hp : ctx.Pending) (hc : ctx.chain = none) (ht : ctx.table.isSome)
    (chain : String) (h : Accounts (ctx.openChain chain).1 rest lines) :
    Accounts ctx rest (configLines (ctx.openChain chain).2 ++ lines) := by
  have hinner : ctx.inner = [] := by rw [inner, hc]; rfl
  have hfirst : ∀ policy : Option String,
      statedFirst [] (policyLines chain policy ++ lines)
        = policy.toList.map (chain, ·) ++ statedFirst [.chain chain] lines ∧
      statedTables (policyLines chain policy ++ lines) = statedTables lines ∧
      (policyLines chain policy).filterMap policy? = policy.toList := by
    intro policy
    cases policy with
    | none => exact ⟨rfl, rfl, rfl⟩
    | some policy => exact ⟨rfl, rfl, rfl⟩
  obtain ⟨hfirst, htables, hstated⟩ := hfirst (ctx.policies.lookup chain)
  have hcurrent : ∀ name, States
      (policiesOf name (ctx.policies.filter (·.1 ≠ chain) ++ declaredFirst rest))
      (policiesOf name (statedFirst [.chain chain] lines)) := h.current ht
  have hinside : lines.filterMap policy?
      = (if ctx.table.isSome then (statedFirst [.chain chain] lines).map Prod.snd else [])
        ++ (statedTables lines).flatMap fun block => block.2.map Prod.snd := h.inside
  rw [openChain_lines]
  constructor
  · rw [htables]
    exact h.tables
  · intro _ name
    have hname := hcurrent name
    rw [policiesOf_append, policiesOf_filter] at hname
    rw [hinner, hfirst, policiesOf_append, policiesOf_append, policiesOf_chain]
    by_cases hn : name = chain
    · rw [if_pos hn, List.nil_append] at hname
      rw [if_pos hn, policiesOf_lookup hp.distinct, hn]
      rw [hn] at hname
      exact hname.append _
    · rw [if_neg hn] at hname
      rw [if_neg hn]
      exact hname
  · rw [hinner, hfirst, htables, List.filterMap_append, hstated, hinside, if_pos ht, if_pos ht]
    simp [Function.comp_def]

/-- The chains that only state their policy state all that is pending. -/
theorem stated_policies (policies : List (String × String)) (lines : List ConfigLine) :
    let closing := policies.flatMap fun (chain, policy) =>
      policyLines chain (some policy) ++ [ConfigLine.close]
    statedFirst [] (closing ++ lines) = policies ++ statedFirst [] lines ∧
    statedTables (closing ++ lines) = statedTables lines ∧
    closing.filterMap policy? = policies.map Prod.snd := by
  induction policies with
  | nil => exact ⟨rfl, rfl, rfl⟩
  | cons entry policies ih =>
    obtain ⟨hfirst, htables, hstated⟩ := ih
    exact ⟨congrArg (entry :: ·) hfirst, htables, congrArg (entry.2 :: ·) hstated⟩

theorem closeTable_of_none (hc : ctx.chain = none) (hend : declaredFirst rest = [])
    (h : Accounts (ctx.closeTable settings).1 rest lines) :
    Accounts ctx rest (configLines (ctx.closeTable settings).2 ++ lines) := by
  cases ht : ctx.table with
  | none =>
    rw [Context.closeTable_of_none hc ht] at h ⊢
    exact h
  | some table =>
    rw [closeTable_lines hc ht, List.append_assoc, List.singleton_append]
    rw [closeTable_of_some hc ht] at h
    have hinner : ctx.inner = [] := by rw [inner, hc]; rfl
    have hclose : (ConfigLine.close :: lines).filterMap policy? = lines.filterMap policy? := rfl
    have hends : statedFirst [] (ConfigLine.close :: lines) = [] := rfl
    have hbehind : statedTables (ConfigLine.close :: lines) = statedTables lines := rfl
    have hinside : lines.filterMap policy?
        = (statedTables lines).flatMap fun block => block.2.map Prod.snd := h.inside
    obtain ⟨hfirst, htables, hstated⟩ := stated_policies ctx.policies (.close :: lines)
    rw [hends, List.append_nil] at hfirst
    constructor
    · rw [htables]
      exact h.tables
    · intro _ chain
      rw [hinner, hfirst, hend, List.append_nil]
      exact .refl _
    · rw [hinner, ht, List.filterMap_append, hstated, hclose, hinside, hfirst, htables, hbehind]
      rfl

/-- A table that ends the section states all that is pending. -/
theorem closeTable (hend : declaredFirst rest = [])
    (h : Accounts (ctx.closeTable settings).1 rest lines) :
    Accounts ctx rest (configLines (ctx.closeTable settings).2 ++ lines) := by
  rw [closeTable_eq] at h ⊢
  rw [Traced.andThen, configLines_append, List.append_assoc]
  exact closeChain (closeTable_of_none (closeChain_last settings ctx).1 hend h)

/-- Lines between two tables. -/
theorem outside (h : Accounts mid rest lines) (hmid : mid.table = none) (ht : ctx.table = none)
    (htables : statedTables (more ++ lines) = statedTables lines)
    (hnone : more.filterMap policy? = []) : Accounts ctx rest (more ++ lines) := by
  have hinside := h.inside
  rw [hmid] at hinside
  constructor
  · rw [htables]
    exact h.tables
  · rw [ht]
    nofun
  · rw [ht, htables, List.filterMap_append, hnone]
    exact hinside

theorem closeDomain (hend : declaredFirst rest = [])
    (h : Accounts (ctx.closeDomain settings).1 rest lines) :
    Accounts ctx rest (configLines (ctx.closeDomain settings).2 ++ lines) := by
  obtain ⟨hchain, htable, hdomain, _⟩ := closeTable_last settings ctx
  rw [closeDomain_eq] at h ⊢
  rw [Traced.andThen, configLines_append, List.append_assoc]
  refine closeTable hend ?_
  rw [andThen_context] at h
  cases hd : ctx.domain with
  | none =>
    rw [closeDomain_of_none hchain htable (hdomain.trans hd)] at h ⊢
    exact h
  | some domain =>
    rw [closeDomain_of_some hchain htable (hdomain.trans hd)] at h ⊢
    exact h.outside htable htable rfl rfl

theorem openDomain (ht : ctx.table = none) (domain : String)
    (h : Accounts (ctx.openDomain domain).1 rest lines) :
    Accounts ctx rest (configLines (ctx.openDomain domain).2 ++ lines) := by
  cases hd : ctx.domain with
  | some other =>
    simp only [Context.openDomain, hd] at h ⊢
    exact h
  | none =>
    simp only [Context.openDomain, hd] at h ⊢
    exact h.outside ht ht rfl rfl

/-- A table begins with nothing pending. -/
theorem openTable (hpolicies : ctx.policies = []) (hc : ctx.chain = none) (ht : ctx.table = none)
    (name : String) (h : Accounts (ctx.openTable name).1 rest lines) :
    Accounts ctx (.table name :: rest) (configLines (ctx.openTable name).2 ++ lines) := by
  have hinner : (ctx.openTable name).1.inner = [] := by
    show (ctx.chain.map Part.chain).toList = []
    rw [hc]
    rfl
  have hcurrent : ∀ chain, States (policiesOf chain (ctx.policies ++ declaredFirst rest))
      (policiesOf chain (statedFirst (ctx.openTable name).1.inner lines)) := h.current rfl
  rw [hpolicies, hinner] at hcurrent
  have hinside := h.inside
  rw [hinner] at hinside
  constructor
  · exact .cons ⟨rfl, hcurrent⟩ h.tables
  · rw [ht]
    nofun
  · rw [ht]
    exact hinside

theorem startTable (hp : ctx.Pending) (name : String)
    (h : Accounts (ctx.startTable settings name).1 rest lines) :
    Accounts ctx (.table name :: rest) (configLines (ctx.startTable settings name).2 ++ lines) := by
  obtain ⟨closed, hclosed, heq, hc, ht, -⟩ := startTable_cases settings name ctx
  rw [heq] at h ⊢
  obtain ⟨hchain, htable, -⟩ :=
    openDomain_last closed.1 (nonEmptyOr ctx.hint settings.domain.name)
  have hnested : closed.1.Nested := by
    rcases hclosed with rfl | rfl
    · exact (Moves.closeTable settings ctx).nested hp.nested
    · exact (Moves.closeDomain settings ctx).nested hp.nested
  have hpolicies : (closed.1.openDomain (nonEmptyOr ctx.hint settings.domain.name)).1.policies
      = [] := by
    unfold Context.openDomain
    split <;> exact hnested.policies_of_none ht
  have htableLine := openTable hpolicies (hchain.trans hc) (htable.trans ht) name h
  have hdomainLine := openDomain ht _ htableLine
  simp only [Traced.andThen, configLines_append, List.append_assoc]
  rcases hclosed with rfl | rfl
  · exact closeTable rfl hdomainLine
  · exact closeDomain rfl hdomainLine

theorem enterChain (hp : ctx.Pending) (ht : ctx.table.isSome) (chain : String)
    (h : Accounts (ctx.enterChain settings chain).1 rest lines) :
    Accounts ctx rest (configLines (ctx.enterChain settings chain).2 ++ lines) := by
  unfold Context.enterChain at h ⊢
  split at h
  · rename_i hc
    rw [if_pos hc]
    exact h
  · rename_i hc
    rw [if_neg hc, Traced.andThen, configLines_append, List.append_assoc]
    obtain ⟨hchain, htable, _⟩ := closeChain_last settings ctx
    have hclosed := (Moves.closeChain settings ctx).pending hp
    exact closeChain (openChain hclosed hchain (htable ▸ ht) chain h)

/-- A declaration replaces what is pending for the chain. -/
theorem declare (hp : ctx.Pending) {chain policy : String} (hpolicy : policy ∈ builtinPolicies)
    (h : Accounts { ctx with policies := setPolicy chain policy ctx.policies } rest lines) :
    Accounts ctx (.chain chain (some policy) :: rest) lines := by
  have hfirst : declaredFirst (.chain chain (some policy) :: rest)
      = (chain, policy) :: declaredFirst rest := by
    simp [declaredFirst, DumpLine.declared?, hpolicy]
  refine ⟨h.tables, fun ht name => ?_, h.inside⟩
  have hname := h.current ht name
  rw [policiesOf_append, policiesOf_setPolicy hp.distinct] at hname
  rw [hfirst, policiesOf_append, policiesOf_cons]
  by_cases hc : chain = name
  · rw [if_pos hc] at hname ⊢
    exact hname.skip _
  · rw [if_neg hc] at hname ⊢
    exact hname

/-- A line that declares no policy and begins no table leaves what is to be stated. -/
theorem other {line : DumpLine} (ht : ∀ name, line ≠ .table name) (hd : line.declared? = none)
    (h : Accounts ctx rest lines) : Accounts ctx (line :: rest) lines := by
  have hfirst : declaredFirst (line :: rest) = declaredFirst rest := by
    cases line with
    | table name => exact absurd rfl (ht name)
    | _ => simp [declaredFirst, hd]
  have htables : declaredTables (line :: rest) = declaredTables rest := by
    cases line with
    | table name => exact absurd rfl (ht name)
    | _ => rfl
  refine ⟨htables ▸ h.tables, ?_, h.inside⟩
  rw [hfirst]
  exact h.current

/-- What a line writes is what it has to state, the rest is left to the others. -/
theorem line {line : DumpLine} (hp : ctx.Pending)
    (hw : Writes settings registry ctx line more last) (h : Accounts last rest lines) :
    Accounts ctx (line :: rest) (more ++ lines) := by
  cases hw with
  | noted htable hpolicy =>
    have hdeclared : line.declared? = none := by
      cases line with
      | chain name policy =>
        cases policy with
        | none => rfl
        | some policy => exact if_neg (hpolicy name policy rfl)
      | _ => rfl
    exact other htable hdeclared ⟨h.tables, h.current, h.inside⟩
  | declared chain _ hpolicy => exact declare hp hpolicy h
  | table name => exact startTable hp name h
  | userChain chain =>
    rw [List.append_assoc]
    exact other nofun rfl (closeChain (h.silent rfl rfl rfl rfl rfl))
  | rule chain options ht =>
    exact other nofun rfl (enterChain hp (by rw [ht]; rfl) chain ⟨h.tables, h.current, h.inside⟩)
  | commit => exact other nofun rfl (closeChain h)

end Accounts

end Context

theorem Conversion.accounts_run {settings : Settings} {registry : Registry} {number : Int}
    {ctx : Context} {lines : List String} (hp : ctx.Pending)
    (h : (run settings registry number ctx lines).fault = none) :
    ctx.Accounts (lines.map .ofText)
      (configLines (run settings registry number ctx lines).events) := by
  induction lines generalizing number ctx with
  | nil =>
    obtain ⟨_, htable, _⟩ := Context.closeDomain_last settings ctx
    have hend : Context.Accounts (ctx.closeDomain settings).1 [] [] :=
      ⟨.nil, fun ht => by simp [htable] at ht, by rw [htable]; rfl⟩
    have hclosed := Context.Accounts.closeDomain rfl hend
    rwa [List.append_nil] at hclosed
  | cons text rest ih =>
    obtain ⟨last, events, hhandle, hrest, hevents⟩ := run_uncons h
    obtain ⟨mid, hdid⟩ := Context.did_of_handle hhandle
    rw [hevents, configLines_append]
    exact (ih (hdid.pending hp) hrest).line hp (Context.writes_of_handle hhandle)

/-! ## Where policies stand -/

namespace Context
open Outline (Led)
open ConfigLine (led_of_none led_policyLines)

variable {settings : Settings} {ctx mid : Context} {events : List Event}

theorem Move.led (h : Move settings ctx events mid) :
    Led ((configLines events).map ConfigLine.part) := by
  cases h with
  | closeChain hc =>
    rw [closeChain_lines hc]
    exact led_of_none fun line hline =>
      ConfigLine.policy?_of_rule (ConfigLine.rules_close _ line hline)
  | closeTable hc ht =>
    have hclose : Led ([ConfigLine.close].map ConfigLine.part) := led_of_none (by decide)
    rw [closeTable_lines hc ht, List.map_append]
    refine Led.append ?_ hclose
    generalize ctx.policies = policies
    induction policies with
    | nil => exact led_of_none (List.forall_mem_nil _)
    | cons entry policies ih =>
      rw [List.flatMap_cons, List.map_append, List.map_append]
      exact ((led_policyLines _ _).append hclose).append ih
  | openChain chain =>
    rw [openChain_lines]
    exact led_policyLines _ _
  | report he =>
    refine led_of_none ?_
    simp [configLines, he]
  | hint | policy => exact led_of_none (List.forall_mem_nil _)
  | closeDomain | openDomain | openTable | emptyChain =>
    exact led_of_none (List.forall_mem_singleton.mpr rfl)

theorem Moves.led (h : Moves settings ctx events mid) :
    Led ((configLines events).map ConfigLine.part) := by
  induction h with
  | refl => exact led_of_none (List.forall_mem_nil _)
  | step hm _ ih =>
    rw [configLines_append, List.map_append]
    exact hm.led.append ih

end Context

namespace Conversion
open Outline (Led)
open ConfigLine (led_of_none statedTables policy?)

theorem led_of_ran {settings : Settings} {registry : Registry} {ctx : Context}
    {lines : List DumpLine} {events : List Event} (h : Ran settings registry ctx lines events) :
    Led ((configLines events).map ConfigLine.part) := by
  induction h with
  | finish ctx => exact (Context.Moves.closeDomain settings ctx).led
  | line hdid _ ih =>
    rw [configLines_append, List.map_append]
    exact hdid.moves.led.append ih

/-- In every table block the policies of a chain are policies that the section of
the dump declares for it, in order and none more often than declared, and the last
of them is the last one declared. Every policy stands in a chain of a table block,
directly behind the header of the chain. Where rules cannot be taken for other lines,
the output states these policies, in these chains and tables, and no others. -/
theorem states_declared_policies {settings : Settings} {registry : Registry}
    {lines : List String} (h : (ofLines settings registry lines).fault = none) :
    let written := configLines (ofLines settings registry lines).events
    List.Forall₂ (fun declared stated => declared.1 = stated.1 ∧
        ∀ chain, States (policiesOf chain declared.2) (policiesOf chain stated.2))
      (DumpLine.declaredTables (lines.map .ofText)) (statedTables written) ∧
    written.filterMap policy?
      = (statedTables written).flatMap (fun block => block.2.map Prod.snd) ∧
    Led (written.map ConfigLine.part) ∧
    (registry.Clear → ∃ texts,
      Outline.texts? ((ofLines settings registry lines).output settings registry) = some texts ∧
      Outline.statedTables Outline.part texts = (statedTables written).map
        (fun (table, stated) => (Token.write table,
          stated.map fun (chain, policy) => (Token.write chain, policy))) ∧
      texts.filterMap (fun text => (Outline.part text).policy?)
        = (statedTables written).flatMap (fun block => block.2.map Prod.snd) ∧
      Led (texts.map Outline.part)) := by
  intro written
  have haccounts := accounts_run Context.pending_start h
  have hled := led_of_ran (ran_of_run h)
  have hheader : ∀ more, statedTables (configLines (headerEvents settings) ++ more)
        = statedTables more ∧
      (configLines (headerEvents settings)).filterMap policy? = [] ∧
      Led ((configLines (headerEvents settings)).map ConfigLine.part) := by
    intro more
    unfold headerEvents
    split
    · exact ⟨rfl, rfl, led_of_none (by decide)⟩
    · exact ⟨rfl, rfl, led_of_none (List.forall_mem_nil _)⟩
  obtain ⟨htables, hnone, hfront⟩ :=
    hheader (configLines (run settings registry 1 {} lines).events)
  have hwritten : written = configLines (headerEvents settings)
      ++ configLines (run settings registry 1 {} lines).events := by
    rw [← configLines_append, ← ofLines_events]
  have hinside : written.filterMap policy?
      = (statedTables written).flatMap (fun block => block.2.map Prod.snd) := by
    rw [hwritten, htables, List.filterMap_append, hnone]
    exact haccounts.inside
  have hplaced : Led (written.map ConfigLine.part) := by
    rw [hwritten, List.map_append]
    exact hfront.append hled
  refine ⟨?_, hinside, hplaced, fun hr => ?_⟩
  · rw [hwritten, htables]
    exact haccounts.tables
  · obtain ⟨texts, htexts, hsays⟩ := says_output hr settings lines
    exact ⟨texts, htexts, ConfigLine.statedTables_texts hsays,
      (ConfigLine.policies_texts hsays).trans hinside, ConfigLine.led_texts hsays hplaced⟩

/-- A policy is declared anew while it is pending, and again when it has been
stated; a chain is opened by a rule that is skipped, and another one never. -/
def policiesDump : List String :=
  ["*filter", ":INPUT ACCEPT [0:0]", ":FORWARD DROP [0:0]", ":INPUT DROP [0:0]",
    "-A INPUT -j ACCEPT", "-A OUTPUT --bogus", ":INPUT ACCEPT [0:0]", "COMMIT",
    "-A INPUT -j DROP", "*nat", ":OUTPUT ACCEPT [0:0]"]

theorem states_declared_policies_anew :
    (ofLines {} .standard policiesDump).fault = none ∧
    Registry.standard.Clear ∧
    DumpLine.declaredTables (policiesDump.map .ofText)
      = [("filter", [("INPUT", "ACCEPT"), ("FORWARD", "DROP"), ("INPUT", "DROP"),
        ("INPUT", "ACCEPT")]), ("nat", [("OUTPUT", "ACCEPT")])] ∧
    List.Forall₂ Context.StatesTable (DumpLine.declaredTables (policiesDump.map .ofText))
      (statedTables (configLines (ofLines {} .standard policiesDump).events)) ∧
    ∃ texts,
      Outline.texts? ((ofLines {} .standard policiesDump).output {} .standard) = some texts ∧
      Outline.statedTables Outline.part texts
        = [("filter", [("INPUT", "DROP"), ("INPUT", "ACCEPT"), ("FORWARD", "DROP")]),
          ("nat", [("OUTPUT", "ACCEPT")])] ∧
      texts.filterMap (fun text => (Outline.part text).policy?)
        = ["DROP", "ACCEPT", "DROP", "ACCEPT"] ∧
      Led (texts.map Outline.part) := by
  have hfault : (ofLines {} .standard policiesDump).fault = none := by decide +kernel
  have hstated : statedTables (configLines (ofLines {} .standard policiesDump).events)
      = [("filter", [("INPUT", "DROP"), ("INPUT", "ACCEPT"), ("FORWARD", "DROP")]),
        ("nat", [("OUTPUT", "ACCEPT")])] := by decide +kernel
  obtain ⟨htables, _, _, houtput⟩ := states_declared_policies hfault
  obtain ⟨texts, htexts, hblocks, hpolicies, hled⟩ := houtput Registry.clear_standard
  rw [hstated] at hblocks hpolicies
  refine ⟨hfault, Registry.clear_standard, by decide +kernel, htables, texts, htexts, ?_,
    hpolicies, hled⟩
  rw [hblocks]
  decide +kernel

end Conversion

end FermRules
