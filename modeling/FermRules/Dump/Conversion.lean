import FermRules.Config.Layout
import FermRules.Dump.Step

/-! Converting a whole dump. -/

namespace FermRules

/-- What happened, and the fault that ended it early. -/
structure Conversion where
  events : List Event
  fault : Option LocatedFault

namespace Conversion

def header : List ConfigLine :=
  [.comment "ferm rules generated by fermimporter",
   .comment "review before loading them with ferm",
   .blank]

/-- Handles lines from the given number on and closes what is open behind the last. -/
def run (settings : Settings) (registry : Registry) (number : Int) (ctx : Context) :
    List String → Conversion
  | [] => ⟨(ctx.closeDomain settings).2, none⟩
  | text :: rest =>
    match ctx.handle settings registry number (.ofText text) with
    | ((_, events), some fault) => ⟨events, some fault⟩
    | ((ctx, events), none) =>
      let later := run settings registry (number + 1) ctx rest
      { later with events := events ++ later.events }

def ofLines (settings : Settings) (registry : Registry) (lines : List String) : Conversion :=
  let body := run settings registry 1 {} lines
  { body with events := (if settings.header then Event.ofLines header else []) ++ body.events }

def written (settings : Settings) (registry : Registry) (c : Conversion) : Layout.Written :=
  (Layout.start settings.indent).write registry (configLines c.events)

def output (settings : Settings) (registry : Registry) (c : Conversion) : String :=
  (c.written settings registry).text

end Conversion

end FermRules
