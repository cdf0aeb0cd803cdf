import FermRules.Proofs.Lockstep
import FermRules.Proofs.Skipping
import FermRules.Proofs.Written

/-! # Lines handled one after the other

A conversion handles its lines in order until one of them is fatal. So what holds
in the beginning, and is kept by every line that does what it says, holds in front
of the first fatal line, or behind all lines if none is fatal. A fatal line itself
does no more than to enter the chain that it names. Hence what all lines have from
the rules that are read they have whether a fault ends the conversion or not. -/
namespace FermRules

namespace Context

variable {settings : Settings} {registry : Registry} {ctx mid last : Context}
  {traced : Traced} {events more : List Event} {number : Int} {located : LocatedFault}
  {lines : List String}

theorem handleAll_cons {text : String} {rest : List String}
    (h : ctx.handle settings registry number (.ofText text) = ((mid, events), none)) :
    ctx.handleAll settings registry number (text :: rest)
      = let later := mid.handleAll settings registry (number + 1) rest
        ((later.1.1, events ++ later.1.2), later.2) := by
  rw [handleAll, h]
  rfl

/-- If no line is fatal, then the first is not and no other is. -/
theorem handleAll_uncons {text : String} {rest : List String}
    (h : ctx.handleAll settings registry number (text :: rest) = ((last, events), none)) :
    ∃ mid first later, ctx.handle settings registry number (.ofText text) = ((mid, first), none) ∧
      mid.handleAll settings registry (number + 1) rest = ((last, later), none) ∧
      events = first ++ later := by
  rcases hhandle : ctx.handle settings registry number (.ofText text) with ⟨⟨mid, first⟩, fault⟩
  cases fault with
  | some fault =>
    rw [handleAll, hhandle] at h
    cases h
  | none =>
    rw [handleAll_cons hhandle] at h
    rcases hrest : mid.handleAll settings registry (number + 1) rest with ⟨⟨last, later⟩, fault⟩
    rw [hrest] at h
    cases h
    exact ⟨mid, first, later, rfl, hrest, rfl⟩

theorem number_add_cons (number : Int) (text : String) (rest : List String) :
    number + ((text :: rest).length : Int) = number + 1 + (rest.length : Int) := by
  rw [List.length_cons]
  omega

/-- The lines behind go on where those in front have ended. -/
theorem handleAll_append
    (h : ctx.handleAll settings registry number lines = ((mid, events), none))
    (behind : List String) :
    ctx.handleAll settings registry number (lines ++ behind)
      = let later := mid.handleAll settings registry (number + lines.length) behind
        ((later.1.1, events ++ later.1.2), later.2) := by
  induction lines generalizing number ctx events with
  | nil =>
    cases h
    simp
  | cons text rest ih =>
    obtain ⟨context, first, later, hhandle, hrest, rfl⟩ := handleAll_uncons h
    rw [List.cons_append, handleAll_cons hhandle, ih hrest, number_add_cons]
    simp only [List.append_assoc]

/-- Lines none of which is fatal are handled in two parts, wherever they are parted. -/
theorem handleAll_part {front behind : List String}
    (h : ctx.handleAll settings registry number (front ++ behind) = ((last, events), none)) :
    ∃ mid first later, ctx.handleAll settings registry number front = ((mid, first), none) ∧
      mid.handleAll settings registry (number + front.length) behind = ((last, later), none) ∧
      events = first ++ later := by
  induction front generalizing number ctx events with
  | nil => exact ⟨ctx, [], events, rfl, by simpa using h, rfl⟩
  | cons text rest ih =>
    obtain ⟨context, first, later, hhandle, hrest, rfl⟩ := handleAll_uncons h
    obtain ⟨mid, done, more, hfront, hbehind, rfl⟩ := ih hrest
    refine ⟨mid, first ++ done, more, ?_, ?_, (List.append_assoc _ _ _).symm⟩
    · rw [handleAll_cons hhandle, hfront]
    · rw [number_add_cons, hbehind]

/-- The lines in front of a fatal one have been handled. -/
theorem handleAll_fatal
    (h : ctx.handleAll settings registry number lines = (traced, some located)) :
    ∃ before text behind mid events last, lines = before ++ text :: behind ∧
      ctx.handleAll settings registry number before = ((mid, events), none) ∧
      mid.handle settings registry (number + before.length) (.ofText text)
        = (last, some located) ∧
      traced = (last.1, events ++ last.2) := by
  induction lines generalizing number ctx traced with
  | nil => cases h
  | cons text rest ih =>
    rcases hhandle : ctx.handle settings registry number (.ofText text) with ⟨⟨first, done⟩, fault⟩
    cases fault with
    | some fault =>
      rw [handleAll, hhandle] at h
      cases h
      exact ⟨[], text, rest, ctx, [], _, rfl, rfl, by simpa using hhandle, rfl⟩
    | none =>
      rw [handleAll_cons hhandle] at h
      rcases hrest : first.handleAll settings registry (number + 1) rest with ⟨later, fault⟩
      rw [hrest] at h
      cases h
      obtain ⟨before, fatal, behind, mid, events, last, rfl, hbefore, hfatal, rfl⟩ := ih hrest
      refine ⟨text :: before, fatal, behind, mid, done ++ events, last, rfl, ?_, ?_, ?_⟩
      · rw [handleAll_cons hhandle, hbefore]
      · rw [number_add_cons, hfatal]
      · simp only [List.append_assoc]

theorem handleAll_induction_from {P : List DumpLine → List Event → Context → Prop}
    (hline : ∀ {before events ctx line more mid last}, P before events ctx →
      Did settings registry ctx line more mid last → P (before ++ [line]) (events ++ more) last)
    {before : List DumpLine} (hstart : P before events ctx)
    (h : ctx.handleAll settings registry number lines = ((last, more), none)) :
    P (before ++ lines.map .ofText) (events ++ more) last := by
  induction lines generalizing number ctx before events more with
  | nil =>
    cases h
    simpa using hstart
  | cons text rest ih =>
    obtain ⟨context, first, later, hhandle, hrest, rfl⟩ := handleAll_uncons h
    obtain ⟨mid, hdid⟩ := did_of_handle hhandle
    simpa using ih (hline hstart hdid) hrest

/-- What every line keeps that is not fatal is kept by all of them. -/
theorem handleAll_induction {P : List DumpLine → List Event → Context → Prop}
    (hline : ∀ {before events ctx line more mid last}, P before events ctx →
      Did settings registry ctx line more mid last → P (before ++ [line]) (events ++ more) last)
    (hstart : P [] [] ctx)
    (h : ctx.handleAll settings registry number lines = ((last, events), none)) :
    P (lines.map .ofText) events last := by
  simpa using handleAll_induction_from hline hstart h

/-! ## What a line writes -/

/-- What a line does that is not fatal, without what it reports. -/
inductive Writes (settings : Settings) (registry : Registry) (ctx : Context) :
    DumpLine → List ConfigLine → Context → Prop
  | noted {line : DumpLine} :
      (∀ name, line ≠ .table name) →
      (∀ name policy, line = .chain name (some policy) → policy ∉ builtinPolicies) →
      Writes settings registry ctx line [] { ctx with hint := line.hint ctx.hint }
  | declared {table : String} (chain : String) {policy : String} :
      ctx.table = some table → policy ∈ builtinPolicies →
      Writes settings registry ctx (.chain chain (some policy)) []
        { ctx with policies := setPolicy chain policy ctx.policies }
  | table (name : String) :
      Writes settings registry ctx (.table name) (configLines (ctx.startTable settings name).2)
        (ctx.startTable settings name).1
  | userChain {table : String} (chain : String) :
      ctx.table = some table →
      Writes settings registry ctx (.chain chain none)
        (configLines (ctx.closeChain settings).2 ++ [.emptyChain chain])
        (ctx.closeChain settings).1
  | rule {table : String} (chain options : String) :
      ctx.table = some table →
      Writes settings registry ctx (.rule chain options)
        (configLines (ctx.enterChain settings chain).2)
        { (ctx.enterChain settings chain).1 with
          rules := (ctx.enterChain settings chain).1.rules
            ++ (LeafRule.ofText registry options).toOption.toList }
  | commit {table : String} :
      ctx.table = some table →
      Writes settings registry ctx .commit (configLines (ctx.closeChain settings).2)
        (ctx.closeChain settings).1

theorem writes_of_step {line : DumpLine}
    (h : ∀ fault, (ctx.step settings registry number line).2 = some fault →
      fault.isFatal = false) :
    Writes settings registry ctx line
      (configLines (ctx.step settings registry number line).1.2)
      (ctx.step settings registry number line).1.1 := by
  cases line with
  | blank | unknown => exact .noted (by simp) (by simp)
  | comment text =>
    have hnoted : Writes settings registry ctx (.comment text) []
        { ctx with hint := ((Domain.ofComment? text).map Domain.name).or ctx.hint } :=
      .noted (by simp) (by simp)
    cases hd : Domain.ofComment? text with
    | none => simpa [step, hd, configLines] using hnoted
    | some domain => simpa [step, hd, configLines] using hnoted
  | table name => exact .table name
  | chain name policy =>
    obtain ⟨table, ht⟩ := open_of_step .chain (fun ht => by simp [step, ht]) h
    cases policy with
    | none =>
      have hlines : Writes settings registry ctx (.chain name none) _ _ := .userChain name ht
      simpa [step, ht, Traced.andThen, configLines_append, configLines, Event.line?] using hlines
    | some policy =>
      by_cases hp : policy ∈ builtinPolicies
      · have hdeclared : Writes settings registry ctx (.chain name (some policy)) _ _ :=
          .declared name ht hp
        simpa [step, ht, hp, configLines] using hdeclared
      · have hnoted : Writes settings registry ctx (.chain name (some policy)) [] ctx :=
          .noted (by simp) fun _ _ heq => by
            cases heq
            exact hp
        simpa [step, ht, hp, configLines] using hnoted
  | rule chain options =>
    obtain ⟨table, ht⟩ := open_of_step .rule (fun ht => by simp [step, ht]) h
    obtain ⟨names, hnames⟩ := addRule_events registry number options
      (ctx.enterChain settings chain).1
    obtain ⟨_, hlast⟩ := addRule_moves settings registry number options
      (ctx.enterChain settings chain).1
    have hrule : Writes settings registry ctx (.rule chain options) _ _ := .rule chain options ht
    simp only [step, ht, Option.isNone_some, Bool.false_eq_true, ite_false, Traced.andThen]
    rw [hnames, configLines_append, (unknownModules_silent names number).2.1, List.append_nil,
      hlast]
    exact hrule
  | commit =>
    obtain ⟨table, ht⟩ := open_of_step .commit (fun ht => by simp [step, ht]) h
    have hcommit : Writes settings registry ctx .commit _ _ := .commit ht
    simpa [step, ht] using hcommit

theorem writes_of_handle {line : DumpLine}
    (h : ctx.handle settings registry number line = ((last, events), none)) :
    Writes settings registry ctx line (configLines events) last := by
  unfold handle at h
  have hstep := @writes_of_step settings registry ctx number line
  rcases hs : ctx.step settings registry number line with ⟨⟨stepped, done⟩, fault⟩
  rw [hs] at h hstep
  cases fault with
  | none =>
    cases h
    exact hstep nofun
  | some fault =>
    by_cases hf : fault.isFatal = true
    · simp only [hf, ite_true] at h
      cases h
    · simp only [hf] at h
      cases h
      have hreport : configLines [.skipped ⟨fault, some number⟩] = [] := rfl
      rw [configLines_append, hreport, List.append_nil]
      exact hstep (by simpa using hf)

/-! ## Tables -/

/-- Once a table line has been handled, a table is open. -/
theorem table_open_iff
    (h : handleAll settings registry number {} lines = ((last, more), none)) :
    last.table.isSome ↔ ∃ name, .table name ∈ lines.map DumpLine.ofText := by
  have hall := handleAll_induction
    (P := fun before _ ctx => ctx.table.isSome ↔ ∃ name, .table name ∈ before) ?_ (by simp) h
  · exact hall
  intro before _ ctx line _ mid last hbefore hdid
  have htable : last.table = mid.table := by rw [hdid.last]
  have hnames := hdid.names
  rw [htable]
  cases line with
  | table name => simp [hnames.2.1]
  | rule chain options => simp [hnames.2.1, hbefore]
  | _ => simp [hnames.1, hbefore]

/-! ## What all lines have -/

/-- The written lines have the one property, and the held rules have the others. -/
structure Settled (C : Clause → Prop) (A : Action → Prop) (P : ConfigLine → Prop)
    (events : List Event) (ctx : Context) : Prop where
  lines : ∀ line ∈ configLines events, P line
  rules : ∀ r ∈ ctx.rules, r.Has C A

theorem Settled.moves {C : Clause → Prop} {A : Action → Prop} {P : ConfigLine → Prop}
    (hs : ConfigLine.Inherits C A P) (hsettled : Settled C A P events ctx)
    (h : Moves settings ctx more mid) : Settled C A P (events ++ more) mid := by
  obtain ⟨hlines, hrules⟩ := h.lines hs hsettled.rules
  refine ⟨?_, hrules⟩
  rw [configLines_append]
  exact List.forall_mem_append.mpr ⟨hsettled.lines, hlines⟩

theorem Settled.did {C : Clause → Prop} {A : Action → Prop} {P : ConfigLine → Prop}
    (hs : ConfigLine.Inherits C A P)
    (hread : ∀ options r, LeafRule.ofText registry options = .ok r → r.Has C A)
    (hsettled : Settled C A P events ctx) {line : DumpLine}
    (h : Did settings registry ctx line more mid last) :
    Settled C A P (events ++ more) last := by
  obtain ⟨hlines, hrules⟩ := hsettled.moves hs h.moves
  refine ⟨hlines, ?_⟩
  rw [h.last]
  refine List.forall_mem_append.mpr ⟨hrules, fun r hr => ?_⟩
  obtain ⟨options, hoptions⟩ := DumpLine.rules_read hr
  exact hread options r hoptions

theorem entered_moves (settings : Settings) (ctx : Context) (line : DumpLine) :
    Moves settings ctx (ctx.entered settings line).2 (ctx.entered settings line).1 := by
  cases line with
  | rule chain options =>
    rw [entered]
    split
    · exact .refl
    · rename_i ht
      obtain ⟨table, htable⟩ := Option.ne_none_iff_exists'.mp (by simpa using ht)
      exact (enterChain_moves settings chain htable).1
  | _ => exact .refl

/-! ## Fatal lines -/

theorem handle_fatal_iff {line : DumpLine} :
    (ctx.handle settings registry number line).2 = some located ↔
      ∃ fault, (ctx.step settings registry number line).2 = some fault ∧
        fault.isFatal = true ∧ located = ⟨fault, some number⟩ := by
  unfold handle
  dsimp only
  cases (ctx.step settings registry number line).2 with
  | none => simp
  | some fault =>
    by_cases hf : fault.isFatal = true
    · simpa [hf] using ⟨Eq.symm, Eq.symm⟩
    · simp [hf]

/-- A fatal line has entered the chain that it names, and has written nothing else. -/
theorem handle_fatal {line : DumpLine}
    (h : ctx.handle settings registry number line = (traced, some located)) :
    traced.1 = (ctx.entered settings line).1 ∧
    configLines traced.2 = configLines (ctx.entered settings line).2 := by
  obtain ⟨fault, hfault, hfatal, _⟩ := handle_fatal_iff.mp (congrArg Prod.snd h)
  have hstep : ctx.handle settings registry number line
      = ((ctx.step settings registry number line).1, some ⟨fault, some number⟩) := by
    simp only [handle, hfault, hfatal, ite_true]
  obtain ⟨rfl, _⟩ := Prod.mk.inj (hstep.symm.trans h)
  obtain ⟨hlast, names, hevents⟩ := step_faulty hfault
  refine ⟨hlast, ?_⟩
  rw [hevents, configLines_append, (unknownModules_silent names number).2.1, List.append_nil]

theorem handleAll_settled {C : Clause → Prop} {A : Action → Prop} {P : ConfigLine → Prop}
    (hs : ConfigLine.Inherits C A P)
    (hread : ∀ options r, LeafRule.ofText registry options = .ok r → r.Has C A)
    {fault : Option LocatedFault}
    (h : handleAll settings registry number {} lines = (traced, fault)) :
    Settled C A P traced.2 traced.1 := by
  -- no line in front of the first fatal one is fatal
  have hdone : ∀ {lines : List String} {reached events},
      handleAll settings registry number {} lines = ((reached, events), none) →
      Settled C A P events reached := fun hlines =>
    handleAll_induction (P := fun _ events ctx => Settled C A P events ctx)
      (fun hsettled hdid => hsettled.did hs hread hdid)
      ⟨List.forall_mem_nil _, List.forall_mem_nil _⟩ hlines
  cases fault with
  | none => exact hdone h
  | some located =>
    obtain ⟨before, text, behind, mid, events, last, rfl, hbefore, hfatal, rfl⟩ :=
      handleAll_fatal h
    obtain ⟨hlast, hlines⟩ := handle_fatal hfatal
    obtain ⟨hwritten, hrules⟩ :=
      (hdone hbefore).moves hs (entered_moves settings mid (.ofText text))
    rw [configLines_append] at hwritten
    refine ⟨?_, hlast ▸ hrules⟩
    rw [configLines_append, hlines]
    exact hwritten

end Context

namespace Conversion

/-- What lines have from the rules that are read, all lines of a conversion have. -/
theorem lines_ofLines {registry : Registry} {C : Clause → Prop} {A : Action → Prop}
    {P : ConfigLine → Prop} (hs : ConfigLine.Inherits C A P)
    (hread : ∀ options r, LeafRule.ofText registry options = .ok r → r.Has C A)
    (settings : Settings) (lines : List String) :
    ∀ line ∈ configLines (ofLines settings registry lines).events, P line := by
  have hheader : ∀ line ∈ configLines (headerEvents settings), P line := by
    have hframe : ∀ line ∈ header, line.isFrame = true := by decide
    unfold headerEvents
    split
    · rw [configLines_ofLines]
      exact fun line hline => hs.frame line (hframe line hline)
    · exact List.forall_mem_nil _
  rw [ofLines_events, configLines_append]
  refine List.forall_mem_append.mpr ⟨hheader, ?_⟩
  rw [run_eq]
  rcases hall : Context.handleAll settings registry 1 {} lines with ⟨⟨ctx, events⟩, fault⟩
  have hsettled := Context.handleAll_settled hs hread hall
  cases fault with
  | some fault => exact hsettled.lines
  | none => exact (hsettled.moves hs (Context.Moves.closeDomain settings ctx)).lines

/-- Whatever a dump says, all that is written of it can be written. -/
theorem written_ofLines (settings : Settings) (registry : Registry) (lines : List String) :
    ((ofLines settings registry lines).written settings registry).fault = none :=
  Layout.fault_of_writable (lines_ofLines (ConfigLine.inherits_writable registry)
    (fun _ _ => LeafRule.has_of_text) settings lines) _

end Conversion

end FermRules
