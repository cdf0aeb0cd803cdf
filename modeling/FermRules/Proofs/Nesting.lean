import FermRules.Proofs.Lockstep
import FermRules.Proofs.Skipping

/-! # Nesting of what is written

A conversion agrees with itself, so its contexts are nested, and the level that
the printer has reached is the number of parts that are open in the context.
When all parts have been closed the level is zero. A domain is opened only by a
table line in front of which another domain was open, or none at all, and it
stays open until the next one is opened; so no domain follows itself. -/
namespace FermRules

/-! ## Domains -/

def ConfigLine.domain? : ConfigLine → Option String
  | openDomain name => some name
  | _ => none

/-- The domains that are opened, in order. -/
def openedDomains (events : List Event) : List String :=
  (configLines events).filterMap ConfigLine.domain?

theorem openedDomains_append (events more : List Event) :
    openedDomains (events ++ more) = openedDomains events ++ openedDomains more := by
  rw [openedDomains, configLines_append, List.filterMap_append, openedDomains, openedDomains]

theorem openedDomains_of_inner {events : List Event} (h : ∀ e ∈ events, e.isInner = true) :
    openedDomains events = [] := by
  rw [openedDomains, configLines, List.filterMap_filterMap]
  refine List.filterMap_eq_nil_iff.mpr fun e he => ?_
  have hinner := h e he
  cases e with
  | wrote line =>
    cases line with
    | openDomain name => cases hinner
    | _ => rfl
  | _ => rfl

namespace Context

/-- The domain stays as it is, or another one is opened. -/
def ChangesDomain (ctx : Context) (t : Traced) : Prop :=
  (t.1.domain = ctx.domain ∧ openedDomains t.2 = []) ∨
    ∃ domain, ctx.domain ≠ some domain ∧ t.1.domain = some domain ∧
      openedDomains t.2 = [domain]

variable (settings : Settings) (registry : Registry)

theorem startTable_changesDomain (name : String) (ctx : Context) :
    ctx.ChangesDomain (ctx.startTable settings name) := by
  obtain ⟨closing, hinner, hevents⟩ := startTable_events settings name ctx
  obtain ⟨_, _, _, hdomain, _⟩ := startTable_moves settings name ctx
  have hopened := openedDomains_of_inner hinner
  unfold ChangesDomain
  rw [hevents, hdomain, openedDomains_append, openedDomains_append, hopened, List.nil_append]
  by_cases hd : ctx.domain = some (nonEmptyOr ctx.hint settings.domain.name)
  · rw [if_pos hd]
    exact .inl ⟨hd.symm, rfl⟩
  · rw [if_neg hd]
    exact .inr ⟨_, hd, rfl, rfl⟩

theorem enterChain_domain (chain : String) (ctx : Context) :
    (ctx.enterChain settings chain).1.domain = ctx.domain := by
  unfold enterChain
  split
  · rfl
  · exact (closeChain_last settings ctx).2.2.1

theorem step_domain (number : Int) {line : DumpLine} (h : ∀ name, line ≠ .table name)
    (ctx : Context) : (ctx.step settings registry number line).1.1.domain = ctx.domain := by
  have hclosed := (closeChain_last settings ctx).2.2.1
  have hcase := step_cases settings registry number line ctx
  generalize ctx.step settings registry number line = result at hcase ⊢
  cases hcase with
  | refused => rfl
  | noted hdomain => exact hdomain
  | table name => exact absurd rfl (h name)
  | userChain | commit => exact hclosed
  | rule chain options =>
    have hadded := (addRule_moves settings registry number options
      (ctx.enterChain settings chain).1).2
    exact (congrArg Context.domain hadded).trans (enterChain_domain settings chain ctx)

theorem step_changesDomain (number : Int) (line : DumpLine) (ctx : Context) :
    ctx.ChangesDomain (ctx.step settings registry number line).1 := by
  by_cases h : ∃ name, line = .table name
  · obtain ⟨name, rfl⟩ := h
    exact startTable_changesDomain settings name ctx
  · have hline := not_exists.mp h
    exact .inl ⟨step_domain settings registry number hline ctx,
      openedDomains_of_inner (step_inner settings registry number hline ctx)⟩

theorem handle_changesDomain (number : Int) (line : DumpLine) (ctx : Context) :
    ctx.ChangesDomain (ctx.handle settings registry number line).1 := by
  have hstep := step_changesDomain settings registry number line ctx
  unfold handle
  dsimp only
  split
  · exact hstep
  · split
    · exact hstep
    · -- a report opens nothing
      have hreport : ∀ fault, openedDomains ((ctx.step settings registry number line).1.2
          ++ [.skipped fault]) = openedDomains (ctx.step settings registry number line).1.2 := by
        intro fault
        rw [openedDomains_append]
        exact List.append_nil _
      simpa only [ChangesDomain, Traced.andThen, hreport] using hstep

variable {settings registry}

end Context

/-! ## Written lines -/

namespace Conversion

variable {registry : Registry}

/-- The lines written for any lines of a dump, whether a fault ends them or not. -/
theorem shifts_handleAll (hr : registry.Legible) (settings : Settings) (number : Int)
    (lines : List String) :
    (Context.handleAll settings registry number {} lines).1.1.Tidy registry ∧
    ConfigLine.ShiftsAll registry 0
      (configLines (Context.handleAll settings registry number {} lines).1.2)
      (Context.handleAll settings registry number {} lines).1.1.depth := by
  obtain ⟨hagrees, _⟩ := @Context.handleAll_agrees registry settings settings {} hr rfl
    (Context.tidy_start registry) number lines
  exact ⟨hagrees.tidy, hagrees.steps.shifts hr⟩

/-- What is written of a whole dump ends at some level, and at level zero if no
fault has ended it. -/
theorem shifts_ofLines (hr : registry.Legible) (settings : Settings) (lines : List String) :
    ∃ level, ConfigLine.ShiftsAll registry 0
        (configLines (ofLines settings registry lines).events) level ∧
      ((ofLines settings registry lines).fault = none → level = 0) := by
  obtain ⟨level, hsteps, _, hlevel⟩ :=
    @lockstep_ofLines registry settings settings hr rfl rfl lines
  exact ⟨level, hsteps.shifts hr, hlevel⟩

end Conversion

end FermRules
