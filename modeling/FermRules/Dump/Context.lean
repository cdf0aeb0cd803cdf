import FermRules.Dump.Event
import FermRules.Rule.Merge
import FermRules.Settings

/-! What is open while a dump is read, and how its parts are opened and closed. The rules of a chain
are held back until the chain closes, for only then is it known which of them can be written
together. -/

namespace FermRules

structure Context where
  domain : Option String := none
  table : Option String := none
  chain : Option String := none
  /-- The rules of the open chain. -/
  rules : List LeafRule := []
  /-- Declared policies of chains that have not been opened yet, in the order of declaration. -/
  policies : List (String × String) := []
  /-- The domain named by the last comment that names one. -/
  hint : Option String := none
  deriving DecidableEq, Repr

inductive Nesting where
  | nothing
  | domain
  | table
  | chain
  deriving DecidableEq, Repr

/-- A context with the events that led to it. -/
abbrev Traced := Context × List Event

def Traced.andThen (traced : Traced) (next : Context → Traced) : Traced :=
  let (context, events) := next traced.1
  (context, traced.2 ++ events)

/-- A declaration that is made again keeps its place. -/
def setPolicy (chain policy : String) : List (String × String) → List (String × String)
  | [] => [(chain, policy)]
  | (name, old) :: rest =>
    if name = chain then (name, policy) :: rest else (name, old) :: setPolicy chain policy rest

def builtinPolicies : List String := ["ACCEPT", "DROP", "QUEUE", "RETURN"]

/-- A text that is there and not empty, or else the default. -/
def nonEmptyOr (text : Option String) (default : String) : String :=
  match text with
  | some text => if text = "" then default else text
  | none => default

namespace Context

/-- The innermost part that is open. -/
def nesting (ctx : Context) : Nesting :=
  if ctx.chain.isSome then .chain
  else if ctx.table.isSome then .table
  else if ctx.domain.isSome then .domain
  else .nothing

def writtenRules (settings : Settings) (rules : List LeafRule) : List Rule :=
  if settings.optimize then Rule.optimize (rules.map .leaf) else rules.map .leaf

def closeChain (settings : Settings) (ctx : Context) : Traced :=
  match ctx.chain with
  | none => (ctx, [])
  | some chain =>
    let rules := writtenRules settings ctx.rules
    ({ ctx with chain := none, rules := [] },
      Event.ofLines (ConfigLine.ofRules rules ++ [.close]) ++ [.closedChain {
        domain := nonEmptyOr ctx.domain settings.domain.name
        table := ctx.table.getD ""
        chain
        rules := ctx.rules.length
        statements := Rule.statementsAll rules }])

/-- A chain that has a policy states it first. -/
def policyLines (chain : String) (policy : Option String) : List ConfigLine :=
  .openChain chain :: policy.toList.map .policy

def openChain (chain : String) (ctx : Context) : Traced :=
  ({ ctx with chain := some chain, policies := ctx.policies.filter (·.1 ≠ chain) },
    Event.ofLines (policyLines chain (ctx.policies.lookup chain)))

/-- Chains that were declared with a policy and got no rule still state their policy. -/
def closeTable (settings : Settings) (ctx : Context) : Traced :=
  (ctx.closeChain settings).andThen fun ctx =>
    match ctx.table with
    | none => (ctx, [])
    | some _ =>
      ({ ctx with table := none, policies := [] },
        Event.ofLines ((ctx.policies.flatMap fun (chain, policy) =>
          policyLines chain (some policy) ++ [.close]) ++ [.close]))

def closeDomain (settings : Settings) (ctx : Context) : Traced :=
  (ctx.closeTable settings).andThen fun ctx =>
    match ctx.domain with
    | none => (ctx, [])
    | some _ => ({ ctx with domain := none }, [.wrote .close])

def openDomain (domain : String) (ctx : Context) : Traced :=
  match ctx.domain with
  | some _ => (ctx, [])
  | none => ({ ctx with domain := some domain }, [.wrote (.openDomain domain)])

def openTable (name : String) (ctx : Context) : Traced :=
  ({ ctx with table := some name }, [.wrote (.openTable name)])

/-- A table closes the one before it, and the domain too if it belongs to another one. -/
def startTable (settings : Settings) (name : String) (ctx : Context) : Traced :=
  let domain := nonEmptyOr ctx.hint settings.domain.name
  let closed := if ctx.domain = some domain then ctx.closeTable settings
    else ctx.closeDomain settings
  (closed.andThen (openDomain domain)).andThen (openTable name)

def enterChain (settings : Settings) (chain : String) (ctx : Context) : Traced :=
  if ctx.chain = some chain then (ctx, [])
  else (ctx.closeChain settings).andThen (openChain chain)

end Context

end FermRules
