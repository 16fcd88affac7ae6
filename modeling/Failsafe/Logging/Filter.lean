import Failsafe.Logging.Directive

/-!
# Log filters

A filter is a list of directives. Of those that apply to a line the narrowest decides, and of two equally narrow
ones the later. Directives about spans alone let no line through.

Directives that are malformed are passed over; when none is left, only errors are shown. A filter with a directive
that is torn cannot be read at all.
-/

namespace Failsafe

/-- Which log lines are shown. -/
structure LogFilter where
  directives : List LogDirective

namespace LogFilter

/-- One ceiling for all lines. -/
def upTo (ceiling : LogCeiling) : LogFilter := ⟨[⟨none, none, false, ceiling⟩]⟩

/-- The directives among some texts. -/
def readAll? : List String → Option (List LogDirective)
  | [] => some []
  | s :: rest =>
    match LogDirective.read s.toList with
    | .ok d => (readAll? rest).map (d :: ·)
    | .error .malformed => readAll? rest
    | .error .torn => none

/-- The filter of directives with commas between them. -/
def read? (s : String) : Option LogFilter :=
  (readAll? (s.splitOn ",")).map fun directives =>
    if directives.isEmpty then upTo (some .error) else ⟨directives⟩

/-- The directive that decides about lines. -/
def decisive? (f : LogFilter) (source : LogSource) : Option LogDirective :=
  f.directives.foldl (fun best d =>
    if d.applies source && best.all (·.givesWay d) then some d else best) none

def shows (f : LogFilter) (source : LogSource) (level : LogLevel) : Bool :=
  (f.decisive? source).any (·.ceiling.shows level)

end LogFilter

end Failsafe
