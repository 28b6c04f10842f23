import Telemetry.Logging.Directive

/-! Which log lines are written. A filter is a list of directives, and the most specific one that is about a
line decides. -/
namespace Telemetry.Logging

/-- Directives, of which a later one replaces an earlier one that is as specific. -/
structure Filter where
  directives : List Directive
deriving DecidableEq

namespace Filter

/-- The filter of directives; without any, errors are let through. -/
def ofDirectives (directives : List Directive) : Filter :=
  if directives.isEmpty then ⟨[⟨none, none, none, some .error⟩]⟩ else ⟨directives⟩

/-- The parts of a filter's text that are not empty. -/
def parts (s : String) : List (List Char) := (s.toList.splitOn ',').filter (!·.isEmpty)

/-- The filter of a text in which every directive can be read. -/
def parse? (s : String) : Option Filter :=
  ofDirectives <$> (parts s).mapM Directive.parse?

/-- The filter of the directives in a text that can be read. -/
def ofText (s : String) : Filter :=
  ofDirectives ((parts s).filterMap Directive.parse?)

/-- The most specific of the directives about a line; of equally specific ones the last. -/
def directive? (filter : Filter) (target : String) (fields : List String) : Option Directive :=
  (filter.directives.filter (·.concerns target fields)).foldl (fun best d =>
    match best with
    | some b => if d.isBelow b then some b else some d
    | none => some d) none

/-- Whether a line of a target and a level, with fields, is written. -/
def admits (filter : Filter) (target : String) (level : Level) (fields : List String) : Bool :=
  match filter.directive? target fields with
  | some d => d.threshold.admits level
  | none => false

end Filter
end Telemetry.Logging
