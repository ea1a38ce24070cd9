import LoadProbe.Log
import LoadProbe.Numeral
import LoadProbe.Text.Blank
import LoadProbe.Text.Split

/-!
Log filters: which events are shown. A filter is a list of directives, each with a level for the
sources that begin with its own; of those that match, the longest one decides.
-/
namespace LoadProbe

/-- One part of a filter. -/
structure LogDirective where
  /-- What the name of a source begins with. -/
  source : List Char
  /-- How much is shown, from nothing to everything. -/
  detail : Nat
  /-- Whether the directive is bound to a span, in which no event of these programs lies. -/
  spanned : Bool := false
  deriving DecidableEq, Repr

structure LogFilter where
  directives : List LogDirective
  deriving DecidableEq, Repr

namespace LogDirective

/-- The most detail that there is. -/
def everything : Nat := Severity.trace.detail

/-- The detail that a level stands for: a number up to five or a name in any case. -/
def readDetail? (text : List Char) : Option Nat :=
  match (Numeral.readUnsigned 5 text).toOption with
  | some detail => some detail
  | none =>
    match String.ofList (text.map Char.toLower) with
    | "off" => some 0
    | "" | "error" => some 1
    | "warn" => some 2
    | "info" => some 3
    | "debug" => some 4
    | "trace" => some 5
    | _ => none

/-- The detail after an equals sign; nothing stands for everything. -/
def readLevel? (text : List Char) : Option Nat :=
  if text = [] then some everything else readDetail? text

/-- What may begin a directive. -/
def isStart (c : Char) : Bool :=
  c.isAlphanum || c == '-' || c == ':' || c == '_' || c == '[' || 128 ≤ c.toNat

/-- The rest after a span in square brackets, none if it is not closed. -/
def afterSpan? (text : List Char) : Option (List Char) :=
  (text.dropWhile (· != ']')).tail?

/-- Reads a directive: a level, a source, or a source and a level. -/
def read? (text : List Char) : Option LogDirective :=
  let trimmed := Text.trim text
  match trimmed with
  | [] => none
  | first :: _ =>
    if !isStart first then none
    else
      let source := text.takeWhile fun c => c != '=' && c != '['
      match text.drop source.length with
      | [] =>
        match readDetail? source with
        | some detail => some ⟨[], detail, false⟩
        | none => some ⟨source, everything, false⟩
      | '=' :: level => (readLevel? level).map (⟨source, ·, false⟩)
      | _ :: span =>
        match afterSpan? span with
        | some [] => some ⟨source, everything, true⟩
        | some ('=' :: level) => (readLevel? level).map (⟨source, ·, true⟩)
        | _ => none

end LogDirective

namespace LogFilter

/-- Shows everything up to a severity. -/
def upTo (severity : Severity) : LogFilter := ⟨[⟨[], severity.detail, false⟩]⟩

/-- Reads a filter; one without directives shows errors only. -/
def read? (text : String) : Option LogFilter :=
  match ((Text.split ',' text.toList).filter (· ≠ [])).mapM LogDirective.read? with
  | none => none
  | some [] => some (upTo .error)
  | some directives => some ⟨directives⟩

/-- The filter that the environment asks for; without a valid one, information is shown. -/
def ofEnvironment (environment : List (String × String)) : LogFilter :=
  ((environment.lookup "RUST_LOG").bind read?).getD (upTo .info)

/-- The directive that decides on a source: the one with the longest name, of equals the last. -/
def deciding? (filter : LogFilter) (source : List Char) : Option LogDirective :=
  let matching := filter.directives.filter fun directive =>
    !directive.spanned && directive.source.isPrefixOf source
  matching.foldl (fun best? directive =>
    match best? with
    | some best =>
      if directive.source.length < best.source.length then some best else some directive
    | none => some directive) none

/-- Whether an event is shown. -/
def shows (filter : LogFilter) (event : LogEvent) : Bool :=
  (filter.deciding? event.source.toList).any fun directive =>
    event.severity.detail ≤ directive.detail

end LogFilter
end LoadProbe
