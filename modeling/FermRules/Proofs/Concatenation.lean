import FermRules.Proofs.FatalLines
import FermRules.Proofs.Nesting
import FermRules.Proofs.Placement

/-! # Dumps one after the other

Until the second dump begins its first table, it is handled while parts of the
first are still open. But up to there it writes nothing and opens nothing, for else
it would be at fault when it stands alone; all that it does is to report lines and
to note a domain. If that is another domain than the open one, the first table line
closes what the first dump has left open, as its end would have done, and from then
on the two contexts are the same. Only the numbers of lines differ. -/
namespace FermRules

/-! ## Numbers of lines -/

def LocatedFault.raise (n : Int) (f : LocatedFault) : LocatedFault :=
  { f with line := f.line.map (· + n) }

namespace Event

def fault? : Event → Option LocatedFault
  | skipped fault => some fault
  | _ => none

/-- The event, as a later line reports it. -/
def raise (n : Int) : Event → Event
  | unknownModule name line => unknownModule name (line + n)
  | skipped fault => skipped (fault.raise n)
  | event => event

end Event

/-- The faults of skipped lines, in order. -/
def skippedFaults (events : List Event) : List LocatedFault := events.filterMap Event.fault?

theorem skippedFaults_append (events more : List Event) :
    skippedFaults (events ++ more) = skippedFaults events ++ skippedFaults more :=
  List.filterMap_append

theorem diagnostics_eq (events : List Event) :
    diagnostics events = (skippedFaults events).map LocatedFault.message := by
  rw [diagnostics, skippedFaults, List.map_filterMap]
  refine List.filterMap_congr fun e _ => ?_
  cases e <;> rfl

theorem skippedFaults_of_inner {events : List Event} (h : ∀ e ∈ events, e.isInner = true) :
    skippedFaults events = [] := by
  have hnone := diagnostics_of_inner h
  rw [diagnostics_eq] at hnone
  exact List.map_eq_nil_iff.mp hnone

/-- Only reports tell the number of a line. -/
theorem views_raise (n : Int) (events : List Event) :
    configLines (events.map (Event.raise n)) = configLines events ∧
    chainSummaries (events.map (Event.raise n)) = chainSummaries events ∧
    skippedFaults (events.map (Event.raise n))
      = (skippedFaults events).map (LocatedFault.raise n) := by
  simp only [configLines, chainSummaries, skippedFaults, List.filterMap_map, List.map_filterMap]
  refine ⟨List.filterMap_congr ?_, List.filterMap_congr ?_, List.filterMap_congr ?_⟩ <;>
  · intro e _
    cases e <;> rfl

namespace Context

variable {settings : Settings} {registry : Registry}

/-- What opens and closes parts tells no number. -/
theorem raise_ofLines (n : Int) (lines : List ConfigLine) :
    (Event.ofLines lines).map (Event.raise n) = Event.ofLines lines := by
  rw [Event.ofLines, List.map_map]
  rfl

theorem raise_closeChain (n : Int) (ctx : Context) :
    (ctx.closeChain settings).2.map (Event.raise n) = (ctx.closeChain settings).2 := by
  unfold closeChain
  split
  · rfl
  · simp only [List.map_append, raise_ofLines]
    rfl

theorem raise_andThen (n : Int) {t : Traced} {next : Context → Traced}
    (h : t.2.map (Event.raise n) = t.2)
    (h' : ∀ ctx, (next ctx).2.map (Event.raise n) = (next ctx).2) :
    (t.andThen next).2.map (Event.raise n) = (t.andThen next).2 := by
  rw [Traced.andThen, List.map_append, h, h']

theorem raise_closeTable (n : Int) (ctx : Context) :
    (ctx.closeTable settings).2.map (Event.raise n) = (ctx.closeTable settings).2 := by
  refine raise_andThen n (raise_closeChain n ctx) fun ctx => ?_
  split
  · rfl
  · exact raise_ofLines n _

theorem raise_closeDomain (n : Int) (ctx : Context) :
    (ctx.closeDomain settings).2.map (Event.raise n) = (ctx.closeDomain settings).2 := by
  refine raise_andThen n (raise_closeTable n ctx) fun ctx => ?_
  split <;> rfl

theorem raise_startTable (n : Int) (name : String) (ctx : Context) :
    (ctx.startTable settings name).2.map (Event.raise n) = (ctx.startTable settings name).2 := by
  refine raise_andThen n (raise_andThen n ?_ fun ctx => ?_) fun ctx => rfl
  · split
    · exact raise_closeTable n ctx
    · exact raise_closeDomain n ctx
  · unfold openDomain
    split <;> rfl

theorem raise_enterChain (n : Int) (chain : String) (ctx : Context) :
    (ctx.enterChain settings chain).2.map (Event.raise n)
      = (ctx.enterChain settings chain).2 := by
  unfold enterChain
  split
  · rfl
  · exact raise_andThen n (raise_closeChain n ctx) fun ctx => raise_ofLines n _

theorem addRule_raise (number n : Int) (options : String) (ctx : Context) :
    ctx.addRule registry (number + n) options
      = let added := ctx.addRule registry number options
        ((added.1.1, added.1.2.map (Event.raise n)), added.2) := by
  unfold addRule
  split
  · rfl
  · dsimp only
    split <;> simp [Event.raise]

theorem step_raise (number n : Int) (line : DumpLine) (ctx : Context) :
    ctx.step settings registry (number + n) line
      = let stepped := ctx.step settings registry number line
        ((stepped.1.1, stepped.1.2.map (Event.raise n)), stepped.2) := by
  cases line with
  | blank | unknown => rfl
  | comment text =>
    rw [step, step]
    split <;> rfl
  | table name => simp only [step, raise_startTable]
  | chain name policy =>
    cases policy with
    | none =>
      simp only [step]
      split
      · rfl
      · refine Prod.ext (Prod.ext rfl ?_) rfl
        exact (raise_andThen n (raise_closeChain n ctx) fun _ => rfl).symm
    | some policy =>
      simp only [step]
      split
      · rfl
      · split <;> rfl
  | rule chain options =>
    simp only [step]
    split
    · rfl
    · simp only [addRule_raise, Traced.andThen, List.map_append, raise_enterChain]
  | commit =>
    simp only [step]
    split
    · rfl
    · simp only [raise_closeChain]

/-- A later line does the same, and reports its own number. -/
theorem handle_raise (number n : Int) (line : DumpLine) (ctx : Context) :
    ctx.handle settings registry (number + n) line
      = let handled := ctx.handle settings registry number line
        ((handled.1.1, handled.1.2.map (Event.raise n)), handled.2.map (.raise n)) := by
  unfold handle
  simp only [step_raise]
  cases (ctx.step settings registry number line).2 with
  | none => rfl
  | some fault =>
    dsimp only
    split
    · rfl
    · simp only [Traced.andThen, List.map_append]
      rfl

theorem handleAll_raise (number n : Int) (lines : List String) (ctx : Context) :
    ctx.handleAll settings registry (number + n) lines
      = let handled := ctx.handleAll settings registry number lines
        ((handled.1.1, handled.1.2.map (Event.raise n)), handled.2.map (.raise n)) := by
  induction lines generalizing number ctx with
  | nil => rfl
  | cons text rest ih =>
    have hnumber : number + n + 1 = number + 1 + n := by omega
    simp only [handleAll, handle_raise number n, hnumber]
    rcases ctx.handle settings registry number (.ofText text) with ⟨⟨mid, events⟩, fault⟩
    cases fault with
    | some fault => rfl
    | none => simp only [ih, Option.map_none, Traced.andThen, List.map_append]

end Context

/-! ## Lines in front of the first table -/

namespace DumpLine

/-- The domain named last in front of the first table line. -/
def named? : List DumpLine → Option Domain
  | [] => none
  | .table _ :: _ => none
  | .comment text :: rest => (named? rest).or (Domain.ofComment? text)
  | _ :: rest => named? rest

end DumpLine

namespace Context

variable {settings : Settings} {registry : Registry} {ctx last waiting : Context}
  {events : List Event} {number : Int}

/-- Nothing is open and nothing is held; only a domain may be noted. -/
def Fresh (ctx : Context) : Prop := ctx = { hint := ctx.hint }

theorem tableLine?_of_handle {line : DumpLine} (ht : ctx.table = none)
    (h : ctx.handle settings registry number line = ((last, events), none)) :
    line.tableLine? = none := by
  refine Option.eq_none_iff_forall_ne_some.mpr fun kind hkind => ?_
  obtain ⟨hfault, hfatal⟩ := (step_fatal_of_none ht).mpr ⟨kind, hkind, rfl⟩
  have hsome := handle_fatal_iff.mpr ⟨_, hfault, hfatal, rfl⟩
  rw [h] at hsome
  cases hsome

/-- A line in front of the first table does the same behind another dump. -/
theorem handle_waiting (hw : waiting.Fresh) {line : DumpLine} (hline : ∀ name, line ≠ .table name)
    (h : waiting.handle settings registry number line = ((last, events), none)) (ctx : Context) :
    last = { hint := line.hint waiting.hint } ∧
    ctx.handle settings registry number line
      = (({ ctx with hint := line.hint ctx.hint }, events), none) ∧
    configLines events = [] ∧ chainSummaries events = [] := by
  have houtside : line.tableLine? = none := tableLine?_of_handle (by rw [hw]) h
  have hsame : waiting = { hint := waiting.hint } := hw
  cases line with
  | table name => exact absurd rfl (hline name)
  | chain | rule | commit => cases houtside
  | blank =>
    cases h
    exact ⟨hsame, rfl, rfl, rfl⟩
  | unknown text =>
    cases h
    exact ⟨hsame, rfl, rfl, rfl⟩
  | comment text =>
    unfold handle at h ⊢
    cases hd : Domain.ofComment? text with
    | none =>
      simp only [step, hd] at h ⊢
      cases h
      refine ⟨?_, by simp [DumpLine.hint, hd], rfl, rfl⟩
      rw [DumpLine.hint, hd]
      exact hsame
    | some domain =>
      simp only [step, hd] at h ⊢
      cases h
      refine ⟨?_, by simp [DumpLine.hint, hd], rfl, rfl⟩
      rw [hsame, DumpLine.hint, hd]
      rfl

/-- Where parts are nested, nothing is held when all of them are closed. -/
theorem closeDomain_fresh (h : ctx.Nested) :
    (ctx.closeDomain settings).1 = { hint := ctx.hint } := by
  have hrules : ctx.chain = none → ctx.rules = [] := fun hc => by
    by_contra hne
    simpa [hc] using h.rules hne
  have hpolicies : ctx.table = none → ctx.policies = [] := fun ht => by
    by_contra hne
    simpa [ht] using h.policies hne
  obtain ⟨domain, table, chain, rules, policies, hint⟩ := ctx
  cases chain <;> cases table <;> cases domain <;>
    simp_all [closeDomain, closeTable, closeChain, Traced.andThen]

/-- The first table of another domain closes all that is open, and then begins
as it does where nothing has been open. -/
theorem startTable_behind (h : ctx.Nested) {hint : String} (hhint : ctx.hint = some hint)
    (hdomain : ctx.domain ≠ some (nonEmptyOr (some hint) settings.domain.name)) (name : String) :
    ctx.startTable settings name
      = let started := startTable settings name { hint := some hint }
        (started.1, (ctx.closeDomain settings).2 ++ started.2) := by
  have hclosed : (ctx.closeDomain settings).1 = { hint := some hint } := by
    rw [closeDomain_fresh h, hhint]
  have hfresh : closeDomain settings { hint := some hint } = ({ hint := some hint }, []) :=
    closeDomain_of_none rfl rfl rfl
  unfold startTable
  rw [hhint]
  simp only [if_neg hdomain, reduceCtorEq, if_false, hfresh, Traced.andThen, hclosed,
    List.nil_append, List.append_assoc]

theorem closeDomain_hint (ctx : Context) (hint : Option String) :
    (closeDomain settings { ctx with hint }).2 = (ctx.closeDomain settings).2 := by
  obtain ⟨domain, table, chain, rules, policies, old⟩ := ctx
  cases chain <;> cases table <;> cases domain <;> rfl

theorem Nested.withHint (h : ctx.Nested) (hint : Option String) :
    Nested { ctx with hint } := ⟨h.chain, h.table, h.rules, h.policies⟩

/-- What is noted when the first table begins. -/
def hintAt (lines : List DumpLine) (ctx : Context) : Option String :=
  ((DumpLine.named? lines).map Domain.name).or ctx.hint

theorem hintAt_cons {line : DumpLine} (h : ∀ name, line ≠ .table name) (rest : List DumpLine)
    (ctx : Context) :
    hintAt (line :: rest) ctx = hintAt rest { ctx with hint := line.hint ctx.hint } := by
  cases line with
  | table name => exact absurd rfl (h name)
  | comment text =>
    simp only [hintAt, DumpLine.named?, DumpLine.hint]
    cases DumpLine.named? rest <;> cases Domain.ofComment? text <;> rfl
  | _ => rfl

/-- Behind another dump, lines with a table do the same, and close what was open
before they begin their first table. -/
theorem handleAll_behind (hw : waiting.Fresh) (hctx : ctx.Nested) {lines : List String}
    (htable : ∃ name, .table name ∈ lines.map DumpLine.ofText) {hint : String}
    (hhint : hintAt (lines.map .ofText) waiting = some hint)
    (hsame : hintAt (lines.map .ofText) ctx = some hint)
    (hdomain : ctx.domain ≠ some (nonEmptyOr (some hint) settings.domain.name))
    (h : waiting.handleAll settings registry number lines = ((last, events), none)) :
    ∃ front more, events = front ++ more ∧
      ctx.handleAll settings registry number lines
        = ((last, front ++ ((ctx.closeDomain settings).2 ++ more)), none) ∧
      configLines front = [] ∧ chainSummaries front = [] := by
  induction lines generalizing number ctx waiting events with
  | nil => simp at htable
  | cons text rest ih =>
    obtain ⟨mid, first, later, hhandle, hrest, rfl⟩ := handleAll_uncons h
    by_cases hline : ∃ name, DumpLine.ofText text = .table name
    · obtain ⟨name, hname⟩ := hline
      have hwaiting : waiting = { hint := some hint } := by
        rw [List.map_cons, hname] at hhint
        rw [hw, show waiting.hint = some hint from hhint]
      have hnoted : ctx.hint = some hint := by
        rw [List.map_cons, hname] at hsame
        exact hsame
      have hhandled : ∀ ctx : Context, ctx.handle settings registry number (.ofText text)
          = (ctx.startTable settings name, none) := fun ctx => by rw [hname]; rfl
      have hbehind := startTable_behind hctx hnoted hdomain name
      rw [hhandled waiting, hwaiting] at hhandle
      rw [(Prod.mk.inj hhandle).1] at hbehind
      refine ⟨[], first ++ later, rfl, ?_, rfl, rfl⟩
      rw [handleAll_cons ((hhandled ctx).trans (congrArg (·, none) hbehind)), hrest]
      simp only [List.nil_append, List.append_assoc]
    · have hother := not_exists.mp hline
      obtain ⟨rfl, hbehind, hlines, hsummaries⟩ := handle_waiting hw hother hhandle ctx
      rw [List.map_cons, hintAt_cons hother] at hhint hsame
      have hmem : ∃ name, .table name ∈ rest.map DumpLine.ofText := by
        obtain ⟨name, hname⟩ := htable
        rcases List.mem_cons.mp hname with heq | hname
        · exact absurd heq.symm (hother name)
        · exact ⟨name, hname⟩
      have hfresh : Fresh { hint := (DumpLine.ofText text).hint waiting.hint } := rfl
      obtain ⟨front, more, rfl, hall, hfront, hquiet⟩ :=
        ih hfresh (hctx.withHint _) hmem hhint hsame hdomain hrest
      refine ⟨first ++ front, more, (List.append_assoc _ _ _).symm, ?_, ?_, ?_⟩
      · rw [handleAll_cons hbehind, hall, closeDomain_hint]
        simp only [List.append_assoc]
      · rw [configLines_append, hlines, hfront]
        rfl
      · rw [chainSummaries_append, hsummaries, hquiet]
        rfl

/-- The domain that is open is the one that was opened last. -/
theorem handleAll_lastDomain {lines : List String}
    (h : ctx.handleAll settings registry number lines = ((last, events), none)) :
    last.domain = ((openedDomains events).getLast?).or ctx.domain := by
  induction lines generalizing number ctx events with
  | nil =>
    cases h
    rfl
  | cons text rest ih =>
    obtain ⟨mid, first, later, hhandle, hrest, rfl⟩ := handleAll_uncons h
    have hline := handle_changesDomain settings registry number (.ofText text) ctx
    rw [hhandle] at hline
    rw [ih hrest, openedDomains_append, List.getLast?_append, Option.or_assoc]
    congr 1
    rcases hline with ⟨hsame, hnone⟩ | ⟨domain, _, hlast, hopened⟩
    · rw [hnone, hsame]
      rfl
    · rw [hopened, hlast]
      rfl

end Context

namespace Conversion

variable {settings : Settings} {registry : Registry} {lines : List String}

/-- A conversion without a fault closes what its lines have left open. -/
theorem handled_of_ofLines (h : (ofLines settings registry lines).fault = none) :
    ∃ ctx events, Context.handleAll settings registry 1 {} lines = ((ctx, events), none) ∧
      (ofLines settings registry lines).events
        = headerEvents settings ++ (events ++ (ctx.closeDomain settings).2) := by
  have hrun : (run settings registry 1 {} lines).fault = none := h
  rw [ofLines_events]
  rw [run_eq] at hrun ⊢
  rcases hall : Context.handleAll settings registry 1 {} lines with ⟨⟨ctx, events⟩, fault⟩
  rw [hall] at hrun
  cases fault with
  | some fault => cases hrun
  | none => exact ⟨ctx, events, rfl, rfl⟩

theorem ofLines_of_handled {ctx : Context} {events : List Event}
    (h : Context.handleAll settings registry 1 {} lines = ((ctx, events), none)) :
    (ofLines settings registry lines).fault = none ∧
    (ofLines settings registry lines).events
      = headerEvents settings ++ (events ++ (ctx.closeDomain settings).2) := by
  have hrun : run settings registry 1 {} lines
      = ⟨events ++ (ctx.closeDomain settings).2, none⟩ := by
    rw [run_eq, h]
    rfl
  exact ⟨congrArg Conversion.fault hrun, by rw [ofLines_events, hrun]⟩

/-- The events of two dumps one after the other: in front of the first table of
the second dump nothing is written, there the first dump is closed. -/
theorem events_append (hr : registry.Legible) {front behind : List String} {domain : Domain}
    (hheader : settings.header = false)
    (hfront : (ofLines settings registry front).fault = none)
    (hbehind : (ofLines settings registry behind).fault = none)
    (htable : ∃ name, .table name ∈ behind.map DumpLine.ofText)
    (hnamed : DumpLine.named? (behind.map .ofText) = some domain)
    (hother : (openedDomains (ofLines settings registry front).events).getLast?
      ≠ some domain.name) :
    ∃ done closing waiting rest ending,
      (ofLines settings registry front).events = done ++ closing ∧
      (ofLines settings registry behind).events = waiting ++ rest ++ ending ∧
      (ofLines settings registry (front ++ behind)).fault = none ∧
      (ofLines settings registry (front ++ behind)).events
        = done ++ (waiting.map (.raise front.length) ++ closing
          ++ rest.map (.raise front.length)) ++ ending ∧
      configLines waiting = [] ∧ chainSummaries waiting = [] ∧
      skippedFaults closing = [] ∧ skippedFaults ending = [] := by
  have hnone : headerEvents settings = [] := by
    unfold headerEvents
    rw [hheader, if_neg Bool.false_ne_true]
  obtain ⟨ctx, done, hdone, hevents⟩ := handled_of_ofLines hfront
  obtain ⟨last, more, hmore, hothers⟩ := handled_of_ofLines hbehind
  rw [hnone, List.nil_append] at hevents hothers
  have hnested : ctx.Nested := by
    have htidy := (shifts_handleAll hr settings 1 front).1
    rw [hdone] at htidy
    exact htidy.nested
  have hopen : ctx.domain ≠ some (nonEmptyOr (some domain.name) settings.domain.name) := by
    have hclosed := openedDomains_of_inner (Context.closeDomain_inner settings ctx)
    rw [hevents, openedDomains_append, hclosed, List.append_nil] at hother
    rw [Position.nonEmptyOr_name, Context.handleAll_lastDomain hdone]
    simpa using hother
  have hhint : ∀ ctx : Context,
      Context.hintAt (behind.map .ofText) ctx = some domain.name := fun ctx => by
    rw [Context.hintAt, hnamed]
    rfl
  have hfresh : Context.Fresh {} := rfl
  obtain ⟨waiting, rest, rfl, hall, hlines, hsummaries⟩ :=
    Context.handleAll_behind hfresh hnested htable (hhint {}) (hhint ctx) hopen hmore
  have hwhole := Context.handleAll_append hdone behind
  rw [Context.handleAll_raise, hall] at hwhole
  obtain ⟨hfault, hjoined⟩ := ofLines_of_handled hwhole
  refine ⟨done, (ctx.closeDomain settings).2, waiting, rest, (last.closeDomain settings).2,
    hevents, hothers, hfault, ?_, hlines, hsummaries,
    skippedFaults_of_inner (Context.closeDomain_inner settings ctx),
    skippedFaults_of_inner (Context.closeDomain_inner settings last)⟩
  rw [hjoined, hnone]
  simp only [List.nil_append, List.map_append, Context.raise_closeDomain, List.append_assoc]

/-- What is written of the one dump leaves no block open for the other. -/
theorem output_append (hr : registry.Legible) {front behind : List String}
    (hfront : (ofLines settings registry front).fault = none)
    (h : configLines (ofLines settings registry (front ++ behind)).events
      = configLines (ofLines settings registry front).events
        ++ configLines (ofLines settings registry behind).events) :
    (ofLines settings registry (front ++ behind)).output settings registry
      = (ofLines settings registry front).output settings registry
        ++ (ofLines settings registry behind).output settings registry := by
  obtain ⟨level, hshifts, hlevel⟩ := shifts_ofLines hr settings front
  obtain rfl := hlevel hfront
  obtain ⟨hfault, hlayout, _⟩ := hshifts.write settings.indent
  have hwritten := Layout.write_append hfault
    (configLines (ofLines settings registry behind).events)
  rw [hlayout, ← h] at hwritten
  exact congrArg Layout.Written.text hwritten

/-- Two dumps one after the other are converted like each of them alone if the
second one begins by naming another domain than the first one has opened last. -/
theorem ofLines_append (hr : registry.Legible) {front behind : List String} {domain : Domain}
    (hheader : settings.header = false)
    (hfront : (ofLines settings registry front).fault = none)
    (hbehind : (ofLines settings registry behind).fault = none)
    (htable : ∃ name, .table name ∈ behind.map DumpLine.ofText)
    (hnamed : DumpLine.named? (behind.map .ofText) = some domain)
    (hother : (openedDomains (ofLines settings registry front).events).getLast?
      ≠ some domain.name) :
    let a := ofLines settings registry front
    let b := ofLines settings registry behind
    let whole := ofLines settings registry (front ++ behind)
    whole.fault = none ∧ (whole.written settings registry).fault = none ∧
    whole.output settings registry = a.output settings registry ++ b.output settings registry ∧
    chainSummaries whole.events = chainSummaries a.events ++ chainSummaries b.events ∧
    diagnostics b.events = (skippedFaults b.events).map LocatedFault.message ∧
    diagnostics whole.events = diagnostics a.events
      ++ (skippedFaults b.events).map fun fault => (fault.raise front.length).message := by
  obtain ⟨done, closing, waiting, rest, ending, ha, hb, hfault, hwhole, hlines, hsummaries,
    hclosing, hending⟩ := events_append hr hheader hfront hbehind htable hnamed hother
  obtain ⟨hwaitingLines, hwaitingSummaries, hwaitingFaults⟩ := views_raise front.length waiting
  obtain ⟨hrestLines, hrestSummaries, hrestFaults⟩ := views_raise front.length rest
  refine ⟨hfault, written_ofLines settings registry _, output_append hr hfront ?_, ?_,
    diagnostics_eq _, ?_⟩
  · rw [hwhole, ha, hb]
    simp only [configLines_append, hwaitingLines, hrestLines, hlines, List.nil_append,
      List.append_assoc]
  · rw [hwhole, ha, hb]
    simp only [chainSummaries_append, hwaitingSummaries, hrestSummaries, hsummaries,
      List.nil_append, List.append_assoc]
  · rw [diagnostics_eq, diagnostics_eq, hwhole, ha, hb]
    simp only [skippedFaults_append, hwaitingFaults, hrestFaults, hclosing, hending,
      List.append_nil, List.map_append, List.map_map, List.append_assoc]
    rfl

def withoutHeader : Settings := ⟨.ip, true, 2, false, Nat.le_of_ble_eq_true rfl⟩

/-- A chain and a policy are left open in the end. -/
def firstDump : List String :=
  ["# by iptables-save", "*filter", ":OUTPUT DROP [0:0]", "-A INPUT -p tcp -j ACCEPT",
    "-A INPUT -p udp -j ACCEPT", "what is this"]

/-- A line is skipped in front of the first table, and another one behind. -/
def secondDump : List String :=
  ["and this", "# by ip6tables-save", "*filter", ":INPUT ACCEPT [0:0]", "-A INPUT --bogus",
    "-A INPUT -j DROP", "COMMIT"]

theorem ofLines_append_domains :
    Registry.standard.Legible ∧ withoutHeader.header = false ∧
    (ofLines withoutHeader .standard firstDump).fault = none ∧
    (ofLines withoutHeader .standard secondDump).fault = none ∧
    (∃ name, .table name ∈ secondDump.map DumpLine.ofText) ∧
    DumpLine.named? (secondDump.map .ofText) = some .ip6 ∧
    (openedDomains (ofLines withoutHeader .standard firstDump).events).getLast? = some "ip" ∧
    (ofLines withoutHeader .standard (firstDump ++ secondDump)).output withoutHeader .standard
      = (ofLines withoutHeader .standard firstDump).output withoutHeader .standard
        ++ (ofLines withoutHeader .standard secondDump).output withoutHeader .standard ∧
    diagnostics (ofLines withoutHeader .standard secondDump).events
      = ["line 1: unrecognized line: and this", "line 5: unknown option '--bogus'"] ∧
    diagnostics (ofLines withoutHeader .standard (firstDump ++ secondDump)).events
      = ["line 6: unrecognized line: what is this", "line 7: unrecognized line: and this",
        "line 11: unknown option '--bogus'"] := by
  have hfront : (ofLines withoutHeader .standard firstDump).fault = none := by decide +kernel
  have hbehind : (ofLines withoutHeader .standard secondDump).fault = none := by decide +kernel
  have htable : ∃ name, .table name ∈ secondDump.map DumpLine.ofText :=
    ⟨"filter", by decide +kernel⟩
  have hnamed : DumpLine.named? (secondDump.map .ofText) = some .ip6 := by decide +kernel
  have hlast : (openedDomains (ofLines withoutHeader .standard firstDump).events).getLast?
      = some "ip" := by decide +kernel
  have hother : (openedDomains (ofLines withoutHeader .standard firstDump).events).getLast?
      ≠ some Domain.ip6.name := by
    rw [hlast]
    decide
  obtain ⟨_, _, houtput, _, _, hdiagnostics⟩ := ofLines_append Registry.legible_standard rfl
    hfront hbehind htable hnamed hother
  exact ⟨Registry.legible_standard, rfl, hfront, hbehind, htable, hnamed, hlast, houtput,
    by decide +kernel, hdiagnostics.trans (by decide +kernel)⟩

end Conversion

end FermRules
