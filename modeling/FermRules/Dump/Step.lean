import FermRules.Dump.Context
import FermRules.Dump.Line
import FermRules.Rule.Reader

/-! What a line of a dump does to the context. -/

namespace FermRules.Context

/-- Reads a rule into the open chain. -/
def addRule (registry : Registry) (number : Int) (options : String) (ctx : Context) :
    Traced × Option DumpFault :=
  match tokenize options with
  | .error quote => ((ctx, []), some (.rule (.ofUnclosedQuote quote)))
  | .ok tokens =>
    let named := (LeafRule.unknownModules registry tokens).map fun name =>
      Event.unknownModule name number
    match LeafRule.ofTokens registry tokens with
    | .error fault => ((ctx, named), some (.rule fault))
    | .ok rule => (({ ctx with rules := ctx.rules ++ [rule] }, named), none)

/-- What a line does, and what is wrong with it. A rule that cannot be read still enters its
chain. -/
def step (settings : Settings) (registry : Registry) (number : Int) (line : DumpLine)
    (ctx : Context) : Traced × Option DumpFault :=
  match line with
  | .blank => ((ctx, []), none)
  | .comment text =>
    match Domain.ofComment? text with
    | some domain => (({ ctx with hint := some domain.name }, []), none)
    | none => ((ctx, []), none)
  | .table name => (ctx.startTable settings name, none)
  | .chain name policy =>
    if ctx.table.isNone then ((ctx, []), some (.outsideTable .chain))
    else match policy with
      | none =>
        ((ctx.closeChain settings).andThen fun ctx => (ctx, [.wrote (.emptyChain name)]), none)
      | some policy =>
        if builtinPolicies.contains policy then
          (({ ctx with policies := setPolicy name policy ctx.policies }, []), none)
        else ((ctx, []), some (.unknownPolicy policy name))
  | .rule chain options =>
    if ctx.table.isNone then ((ctx, []), some (.outsideTable .rule))
    else
      let entered := ctx.enterChain settings chain
      let (added, fault) := entered.1.addRule registry number options
      (entered.andThen fun _ => added, fault)
  | .commit =>
    if ctx.table.isNone then ((ctx, []), some (.outsideTable .commit))
    else (ctx.closeChain settings, none)
  | .unknown text => ((ctx, []), some (.unrecognized text))

/-- As `step`, with faults that are not fatal among the events. -/
def handle (settings : Settings) (registry : Registry) (number : Int) (line : DumpLine)
    (ctx : Context) : Traced × Option LocatedFault :=
  let (traced, fault) := ctx.step settings registry number line
  match fault with
  | none => (traced, none)
  | some fault =>
    let located := LocatedFault.mk fault (some number)
    if fault.isFatal then (traced, some located)
    else (traced.andThen fun ctx => (ctx, [.skipped located]), none)

end FermRules.Context
