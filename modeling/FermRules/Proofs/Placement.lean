import FermRules.Proofs.LineParts
import FermRules.Registry.Standard

/-! # Every rule is written where it belongs

Read with a stack of the open blocks, the output of a conversion that does not
optimize has the rules of its dump as its statements, each in the blocks that its
line and the table line before it name. The lines are read in this way in front of
their texts. The rules held for the open chain stand for the statements still to be
written: what a move writes and what is held behind it are together what was held
before. -/
namespace FermRules

namespace Outline

/-- The statements of the lines, each with the blocks around it, the innermost first,
and the blocks that are left open in the end. -/
def statements {α : Type} (part : α → Part) (stack : List Part) :
    List α → Option (List (List Part × α) × List Part)
  | [] => some ([], stack)
  | line :: rest =>
    match part line with
    | .statement =>
      (statements part stack rest).map fun (found, last) => ((stack, line) :: found, last)
    | .close =>
      match stack with
      | [] => none
      | _ :: outer => statements part outer rest
    | .policy _ | .other => statements part stack rest
    | opened => statements part (opened :: stack) rest

end Outline

namespace ConfigLine
open Outline (Part)

abbrev statements (stack : List Part) (lines : List ConfigLine) :
    Option (List (List Part × ConfigLine) × List Part) := Outline.statements part stack lines

theorem statements_append {stack mid last : List Part} {lines more : List ConfigLine}
    {found others : List (List Part × ConfigLine)}
    (h : statements stack lines = some (found, mid))
    (h' : statements mid more = some (others, last)) :
    statements stack (lines ++ more) = some (found ++ others, last) := by
  induction lines generalizing stack found with
  | nil =>
    cases h
    exact h'
  | cons line lines ih =>
    cases line with
    | close =>
      cases stack with
      | nil => cases h
      | cons header outer => exact ih h
    | statement r =>
      obtain ⟨⟨inner, last'⟩, hinner, heq⟩ := Option.map_eq_some_iff.mp h
      cases heq
      have hrest := congrArg (Option.map fun (found, last) =>
        ((stack, ConfigLine.statement r) :: found, last)) (ih hinner)
      exact hrest
    | _ => exact ih h

theorem statements_rules (stack : List Part) (rules : List LeafRule) :
    statements stack (rules.map statement)
      = some (rules.map fun r => (stack, statement r), stack) := by
  induction rules with
  | nil => rfl
  | cons r rules ih =>
    have hrest := congrArg (Option.map fun (found, last) =>
      ((stack, ConfigLine.statement r) :: found, last)) ih
    exact hrest

/-- The texts of lines have the same statements in the same blocks. -/
theorem statements_texts {registry : Registry} {lines : List ConfigLine} {texts : List String}
    (h : List.Forall₂ (Says registry) lines texts) {stack last : List Part}
    {found : List (List Part × ConfigLine)} (hs : statements stack lines = some (found, last)) :
    ∃ written, Outline.statements Outline.part (stack.map Part.written) texts
        = some (written, last.map Part.written) ∧
      List.Forall₂ (fun f w => w.1 = f.1.map Part.written ∧ f.2.render registry = .ok w.2)
        found written := by
  induction h generalizing stack found with
  | nil =>
    cases hs
    exact ⟨[], rfl, .nil⟩
  | @cons line text lines texts hsays _ ih =>
    have hpart := hsays.part
    cases line with
    | statement r =>
      obtain ⟨⟨inner, last'⟩, hinner, heq⟩ := Option.map_eq_some_iff.mp hs
      cases heq
      obtain ⟨written, hwritten, hall⟩ := ih hinner
      refine ⟨(stack.map Part.written, text) :: written, ?_, .cons ⟨rfl, hsays.render⟩ hall⟩
      simp only [Outline.statements, hpart, part, Part.written, hwritten, Option.map_some]
    | close =>
      cases stack with
      | nil => cases hs
      | cons header outer =>
        simp only [Outline.statements, hpart, part, Part.written, List.map_cons]
        exact ih hs
    | _ =>
      simp only [Outline.statements, hpart, part, Part.written]
      exact ih hs

end ConfigLine

/-! ## What is open and what is held -/

namespace Context
open Outline (Part)
open ConfigLine (statements statements_append statements_rules)

/-- The blocks around chains that are open. -/
def outer (ctx : Context) : List Part :=
  (ctx.table.map Part.table).toList ++ (ctx.domain.map Part.domain).toList

theorem outer_congr {ctx mid : Context} (ht : mid.table = ctx.table)
    (hd : mid.domain = ctx.domain) : mid.outer = ctx.outer := by
  rw [outer, ht, hd, outer]

def stack (ctx : Context) : List Part := (ctx.chain.map Part.chain).toList ++ ctx.outer

/-- The statements that will be written when the chain is closed. -/
def held (ctx : Context) : List (List Part × ConfigLine) :=
  ctx.rules.map fun r => (ctx.stack, .statement r)

variable {settings : Settings} {registry : Registry} {ctx mid last : Context}
  {events : List Event}

theorem Nested.held_of_none (h : ctx.Nested) (hc : ctx.chain = none) : ctx.held = [] := by
  rw [held, h.rules_of_none hc, List.map_nil]

theorem statements_policyLines (stack : List Part) (chain : String) (policy : Option String) :
    statements stack (policyLines chain policy) = some ([], .chain chain :: stack) := by
  cases policy with
  | none => rfl
  | some policy => rfl

/-- The chains that only state their policy have no statements. -/
theorem statements_policies (stack : List Part) (policies : List (String × String)) :
    statements stack (policies.flatMap fun (chain, policy) =>
      policyLines chain (some policy) ++ [.close]) = some ([], stack) := by
  induction policies with
  | nil => rfl
  | cons entry policies ih =>
    obtain ⟨chain, policy⟩ := entry
    have hentry : statements stack (policyLines chain (some policy) ++ [.close])
        = some ([], stack) :=
      statements_append (statements_policyLines stack chain (some policy)) rfl
    rw [List.flatMap_cons]
    exact statements_append hentry ih

/-- A move writes what was held before it and is not held any more. -/
def Keeps (ctx : Context) (events : List Event) (mid : Context) : Prop :=
  ∃ found, statements ctx.stack (configLines events) = some (found, mid.stack) ∧
    found ++ mid.held = ctx.held

theorem Keeps.refl (ctx : Context) : Keeps ctx [] ctx := ⟨[], rfl, rfl⟩

theorem Keeps.trans {more : List Event} (h : Keeps ctx events mid) (h' : Keeps mid more last) :
    Keeps ctx (events ++ more) last := by
  obtain ⟨found, hfound, hheld⟩ := h
  obtain ⟨others, hothers, hlast⟩ := h'
  refine ⟨found ++ others, ?_, ?_⟩
  · rw [configLines_append]
    exact statements_append hfound hothers
  · rw [List.append_assoc, hlast, hheld]

/-- Where no rules are held, nothing has to be written. -/
theorem Keeps.of_silent
    (hlines : statements ctx.stack (configLines events) = some ([], mid.stack))
    (hr : ctx.rules = []) (hmid : mid.rules = []) : Keeps ctx events mid := by
  refine ⟨[], hlines, ?_⟩
  rw [held, held, hr, hmid]
  rfl

/-- A chain is closed behind the statements of the rules held for it. -/
theorem keeps_closeChain (hopt : settings.optimize = false) {chain : String}
    (hc : ctx.chain = some chain) :
    Keeps ctx (ctx.closeChain settings).2 { ctx with chain := none, rules := [] } := by
  have hlines : configLines (ctx.closeChain settings).2
      = ctx.rules.map ConfigLine.statement ++ [.close] := by
    rw [closeChain_lines hc, writtenRules_of_not hopt, ConfigLine.ofRules_map_leaf]
  have hclosed : statements ctx.stack [.close] = some ([], ctx.outer) := by
    rw [stack, hc]
    rfl
  refine ⟨ctx.held, ?_, List.append_nil _⟩
  rw [hlines, ← List.append_nil ctx.held]
  exact statements_append (statements_rules ctx.stack ctx.rules) hclosed

theorem statements_closeTable {table : String} (hc : ctx.chain = none)
    (ht : ctx.table = some table) :
    statements ctx.stack (configLines (ctx.closeTable settings).2)
      = some ([], stack { ctx with table := none, policies := [] }) := by
  have hclosed : statements ctx.stack [.close]
      = some ([], stack { ctx with table := none, policies := [] }) := by
    simp [stack, outer, hc, ht, Outline.statements, ConfigLine.part]
  rw [closeTable_lines hc ht]
  exact statements_append (statements_policies ctx.stack ctx.policies) hclosed

theorem statements_openChain (chain : String) (hc : ctx.chain = none) :
    statements ctx.stack (configLines (ctx.openChain chain).2)
      = some ([], (ctx.openChain chain).1.stack) := by
  have hstack : ctx.stack = ctx.outer := by
    rw [stack, hc]
    rfl
  rw [openChain_lines, hstack]
  exact statements_policyLines ctx.outer chain _

theorem Move.keeps (hopt : settings.optimize = false) (hn : ctx.Nested)
    (h : Move settings ctx events mid) : Keeps ctx events mid := by
  have hnone : ctx.chain = none → ctx.rules = [] := hn.rules_of_none
  cases h with
  | hint | policy => exact .refl ctx
  | closeChain hc => exact keeps_closeChain hopt hc
  | closeTable hc ht => exact .of_silent (statements_closeTable hc ht) (hnone hc) (hnone hc)
  | openChain chain hc ht =>
    exact .of_silent (statements_openChain chain hc) (hnone hc) (hnone hc)
  | closeDomain hc ht hd =>
    refine .of_silent ?_ (hnone hc) (hnone hc)
    simp [stack, outer, hc, ht, hd, Outline.statements, ConfigLine.part, configLines, Event.line?]
  | openDomain domain hc ht hd =>
    refine .of_silent ?_ (hnone hc) (hnone hc)
    simp [stack, outer, hc, ht, hd, Outline.statements, ConfigLine.part, configLines, Event.line?]
  | openTable table hc ht hd =>
    refine .of_silent ?_ (hnone hc) (hnone hc)
    simp [stack, outer, hc, ht, hd, Outline.statements, ConfigLine.part, configLines, Event.line?]
  | emptyChain chain hc ht => exact .of_silent rfl (hnone hc) (hnone hc)
  | report he =>
    refine ⟨[], ?_, List.nil_append _⟩
    simp [Outline.statements, configLines, he]

theorem Moves.keeps (hopt : settings.optimize = false) (hn : ctx.Nested)
    (h : Moves settings ctx events mid) : Keeps ctx events mid := by
  induction h with
  | refl => exact .refl _
  | step hm _ ih => exact (hm.keeps hopt hn).trans (ih (hm.nested hn))

end Context

/-! ## Where a dump puts its rules -/

/-- A rule and the blocks that it belongs to. -/
structure Placed where
  domain : Domain
  table : String
  chain : String
  rule : LeafRule

namespace Placed
open Outline (Part)

/-- The blocks, the innermost first. -/
def blocks (p : Placed) : List Part := [.chain p.chain, .table p.table, .domain p.domain.name]

/-- The rule as it is found in the lines. -/
def found (p : Placed) : List Part × ConfigLine := (p.blocks, .statement p.rule)

end Placed

/-- The domain that the comments have named last, and the table that has begun last,
with the domain that it is in. -/
structure Position where
  domain : Domain
  table : Option (String × Domain)

namespace Position
open Outline (Part)

def start (settings : Settings) : Position := ⟨settings.domain, none⟩

def after (p : Position) : DumpLine → Position
  | .comment text => { p with domain := (Domain.ofComment? text).getD p.domain }
  | .table name => { p with table := some (name, p.domain) }
  | _ => p

/-- What a line states: its rule, in the chain that it names. -/
def states (registry : Registry) (p : Position) (line : DumpLine) : List Placed :=
  match line, p.table with
  | .rule chain _, some (table, domain) => (line.rules registry).map (.mk domain table chain)
  | _, _ => []

def statesAll (registry : Registry) (p : Position) : List DumpLine → List Placed
  | [] => []
  | line :: rest => p.states registry line ++ (p.after line).statesAll registry rest

/-- The blocks around chains. -/
def outer (p : Position) : List Part :=
  match p.table with
  | some (name, domain) => [.table name, .domain domain.name]
  | none => []

/-- A table that begins now is in the domain of this position. -/
structure Fits (settings : Settings) (p : Position) (ctx : Context) : Prop where
  domain : nonEmptyOr ctx.hint settings.domain.name = p.domain.name
  outer : ctx.outer = p.outer

theorem nonEmptyOr_name (domain : Domain) (default : String) :
    nonEmptyOr (some domain.name) default = domain.name := by
  cases domain with
  | ip => rfl
  | ip6 => rfl

theorem fits_start (settings : Settings) : (start settings).Fits settings {} := ⟨rfl, rfl⟩

variable {settings : Settings} {registry : Registry} {p : Position} {ctx mid last : Context}
  {line : DumpLine} {events : List Event}

theorem Fits.after (h : p.Fits settings ctx)
    (hd : Context.Did settings registry ctx line events mid last) :
    (p.after line).Fits settings last := by
  have hhint := hd.hint
  have hnames := hd.names
  rw [hd.last]
  cases line with
  | comment text =>
    refine ⟨?_, (Context.outer_congr hnames.1 hnames.2).trans h.outer⟩
    rw [DumpLine.hint] at hhint
    cases hc : Domain.ofComment? text with
    | none => simpa [Position.after, hc, hhint] using h.domain
    | some domain => simp [Position.after, hc, hhint, nonEmptyOr_name]
  | table name =>
    obtain ⟨_, htable, hdomain⟩ := hnames
    refine ⟨(congrArg (nonEmptyOr · _) hhint).trans h.domain, ?_⟩
    simp [Context.outer, Position.outer, Position.after, htable, hdomain, h.domain]
  | rule chain options =>
    obtain ⟨_, htable, hdomain⟩ := hnames
    exact ⟨(congrArg (nonEmptyOr · _) hhint).trans h.domain,
      (Context.outer_congr htable hdomain).trans h.outer⟩
  | _ =>
    exact ⟨(congrArg (nonEmptyOr · _) hhint).trans h.domain,
      (Context.outer_congr hnames.1 hnames.2).trans h.outer⟩

/-- A rule line in a table states its rule in the chain that it names. -/
theorem Fits.states (h : p.Fits settings ctx) (ht : ctx.table.isSome) (chain options : String) :
    (p.states registry (.rule chain options)).map Placed.found
      = (DumpLine.rules registry (.rule chain options)).map fun r =>
        (.chain chain :: p.outer, .statement r) := by
  have houter := h.outer
  cases hp : p.table with
  | none =>
    obtain ⟨table, htable⟩ := Option.isSome_iff_exists.mp ht
    simp [Context.outer, Position.outer, hp, htable] at houter
  | some table =>
    obtain ⟨name, domain⟩ := table
    simp only [Position.states, Position.outer, hp, List.map_map]
    rfl

end Position

namespace Context

variable {settings : Settings} {registry : Registry} {p : Position} {ctx mid last : Context}
  {line : DumpLine} {events : List Event}

/-- A line adds the rule that it states to what is held, and no other. -/
theorem Did.held (hn : ctx.Nested) (h : p.Fits settings ctx)
    (hd : Did settings registry ctx line events mid last) :
    last.stack = mid.stack ∧
      last.held = mid.held ++ (p.states registry line).map Placed.found := by
  have hnames := hd.names
  have hstack : last.stack = mid.stack := by
    rw [hd.last]
    rfl
  refine ⟨hstack, ?_⟩
  rw [Context.held, hstack, hd.last, List.map_append, Context.held]
  cases line with
  | rule chain options =>
    obtain ⟨hchain, htable, hdomain⟩ := hnames
    have hopen : ctx.table.isSome := by
      rw [← htable]
      exact (hd.moves.nested hn).chain (by rw [hchain]; rfl)
    have hmid : mid.stack = .chain chain :: p.outer := by
      rw [stack, hchain, outer_congr htable hdomain, h.outer]
      rfl
    rw [h.states hopen, hmid]
  | _ => rfl

end Context

theorem Ran.statements {settings : Settings} {registry : Registry} {p : Position}
    {ctx : Context} {lines : List DumpLine} {events : List Event}
    (hopt : settings.optimize = false) (hn : ctx.Nested) (hfits : p.Fits settings ctx)
    (h : Ran settings registry ctx lines events) :
    ConfigLine.statements ctx.stack (configLines events)
      = some (ctx.held ++ (p.statesAll registry lines).map Placed.found, []) := by
  induction h generalizing p with
  | finish ctx =>
    have hmoves := Context.Moves.closeDomain settings ctx
    obtain ⟨found, hfound, hheld⟩ := hmoves.keeps hopt hn
    obtain ⟨hchain, htable, hdomain, _⟩ := Context.closeDomain_last settings ctx
    have hstack : (ctx.closeDomain settings).1.stack = [] := by
      simp [Context.stack, Context.outer, hchain, htable, hdomain]
    rw [(hmoves.nested hn).held_of_none hchain, List.append_nil] at hheld
    rw [hfound, hstack, hheld, Position.statesAll, List.map_nil, List.append_nil]
  | line hdid _ ih =>
    obtain ⟨found, hfound, hheld⟩ := hdid.moves.keeps hopt hn
    obtain ⟨hstack, hlast⟩ := hdid.held hn hfits
    have hrest := ih (hdid.nested hn) (hfits.after hdid)
    rw [hstack, hlast] at hrest
    rw [configLines_append, ConfigLine.statements_append hfound hrest, ← List.append_assoc,
      ← List.append_assoc, hheld, List.append_assoc, ← List.map_append]
    rfl

namespace Conversion

/-- A dump that is not optimized is written with every rule that can be read in
the blocks that its line and the table line before it name, in the order of the
dump and once each, and with no other statement. Where rules cannot be taken for
other lines, this can be told from the output. -/
theorem nested_written {settings : Settings} {registry : Registry} {lines : List String}
    (hopt : settings.optimize = false) (h : (ofLines settings registry lines).fault = none) :
    let conversion := ofLines settings registry lines
    let placed := (Position.start settings).statesAll registry (lines.map DumpLine.ofText)
    (conversion.written settings registry).fault = none ∧
    ConfigLine.statements [] (configLines conversion.events)
      = some (placed.map Placed.found, []) ∧
    (registry.Clear → ∃ texts found,
      Outline.texts? (conversion.output settings registry) = some texts ∧
      Outline.statements Outline.part [] texts = some (found, []) ∧
      List.Forall₂ (fun p f => p.rule.render registry = .ok f.2 ∧
        f.1 = [.chain (Token.write p.chain), .table (Token.write p.table), .domain p.domain.name])
        placed found) := by
  intro conversion placed
  have hstatements : ConfigLine.statements [] (configLines conversion.events)
      = some (placed.map Placed.found, []) := by
    have hbody := (ran_of_run h).statements hopt Context.nested_start
      (Position.fits_start settings)
    have hheader : ConfigLine.statements [] (configLines (headerEvents settings))
        = some ([], []) := by
      unfold headerEvents
      split
      · rfl
      · rfl
    rw [show conversion.events = _ from ofLines_events settings registry lines, configLines_append]
    exact ConfigLine.statements_append hheader hbody
  refine ⟨written_ofLines settings registry lines, hstatements, fun hr => ?_⟩
  obtain ⟨texts, htexts, hsays⟩ := says_output hr settings lines
  obtain ⟨found, hfound, hall⟩ := ConfigLine.statements_texts hsays hstatements
  refine ⟨texts, found, htexts, hfound, ?_⟩
  exact (List.forall₂_map_left_iff.mp hall).imp fun p f ⟨hblocks, hrule⟩ => ⟨hrule, hblocks⟩

def unoptimized : Settings := ⟨.ip, false, 4, true, Nat.le_of_ble_eq_true rfl⟩

/-- Two chains take turns, a comment names another domain, and one rule cannot
be read. -/
def interleavedDump : List String :=
  ["*filter", ":INPUT DROP [0:0]", "-A INPUT -p tcp -j ACCEPT", "-A mine -j RETURN",
    "# Generated by ip6tables-save", "-A INPUT -s 10.0.0.1 -j mine", "COMMIT",
    "*filter", "-A INPUT --nonsense", "-A INPUT -j DROP", "COMMIT"]

theorem nested_written_interleaved :
    unoptimized.optimize = false ∧
    (ofLines unoptimized .standard interleavedDump).fault = none ∧
    Registry.standard.Clear ∧
    ((Position.start unoptimized).statesAll .standard (interleavedDump.map DumpLine.ofText)).map
        (fun p => (p.blocks, (p.rule.render .standard).toOption))
      = [([.chain "INPUT", .table "filter", .domain "ip"], some "protocol tcp ACCEPT;"),
        ([.chain "mine", .table "filter", .domain "ip"], some "RETURN;"),
        ([.chain "INPUT", .table "filter", .domain "ip"],
          some "source-address 10.0.0.1 jump mine;"),
        ([.chain "INPUT", .table "filter", .domain "ip6"], some "DROP;")] ∧
    ∃ texts found,
      Outline.texts? ((ofLines unoptimized .standard interleavedDump).output unoptimized .standard)
        = some texts ∧
      Outline.statements Outline.part [] texts = some (found, []) ∧
      List.Forall₂ (fun p f => p.rule.render .standard = .ok f.2 ∧
        f.1 = [.chain (Token.write p.chain), .table (Token.write p.table), .domain p.domain.name])
        ((Position.start unoptimized).statesAll .standard (interleavedDump.map DumpLine.ofText))
        found := by
  have hfault : (ofLines unoptimized .standard interleavedDump).fault = none := by
    decide +kernel
  exact ⟨rfl, hfault, Registry.clear_standard, by decide +kernel,
    (nested_written rfl hfault).2.2 Registry.clear_standard⟩

end Conversion

end FermRules
