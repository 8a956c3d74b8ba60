import PipelineEditor.Text.Blank
import PipelineEditor.Logging.Directive

/-!
Log filters: which log lines the console and the log file keep.

A filter is a comma-separated list of directives. The user's filter is the one the command line
gives, else `trace` for two or more `-v`, `debug` for one, else the one the environment gives,
else the default `info`. When the user chose nothing explicitly (no filter on the command line
and no `-v`), the console filter puts the noise filter (which quiets the HTTP libraries) before
the user's filter, unless the noise filter is blank, and the file filter adds the directive that
records every editor command. Otherwise both are the user's filter.

A filter's directives are its comma-separated parts, empty ones skipped; a filter with a part
that is not a directive is not well formed (see `Directive.read`). A line logged outside any span
passes a filter when the most specific of its directives that speak for the line lets its level
through (see `enables`); a line that no directive speaks for is dropped.
-/

namespace PipelineEditor

namespace LogFilter

/-- The filter when the user chose none. -/
def defaultFilter : String := "info"

/-- The filter that quiets the HTTP libraries. -/
def defaultNoise : String := "hyper=warn,hyper_util=warn,reqwest=warn"

/-- The directive that keeps every editor command in the log file. -/
def editorDirective : String := "flowcanvas_core=debug"

end LogFilter

/-- What decides the log filters. -/
structure LogOptions where
  /-- How many times `-v` was given. -/
  verbose : Nat := 0
  /-- The filter the command line gives. -/
  commandLineFilter : Option String := none
  /-- The filter the environment gives. -/
  environmentFilter : Option String := none
  /-- The filter when nothing else chooses one. -/
  defaultFilter : String := LogFilter.defaultFilter
  /-- The filter put before an implicit user filter. -/
  noiseFilter : String := LogFilter.defaultNoise
  /-- Whether an implicit user filter gets the noise filter. -/
  quietNoise : Bool := true
  deriving Inhabited, Repr

/-- The three filters of a run. -/
structure LogFilters where
  user : String
  console : String
  file : String
  deriving BEq, Inhabited, Repr

namespace LogOptions

/-- The user's filter. -/
def userFilter (o : LogOptions) : String :=
  match o.commandLineFilter with
  | some filter => filter
  | none =>
    if 2 ≤ o.verbose then "trace"
    else if o.verbose == 1 then "debug"
    else o.environmentFilter.getD o.defaultFilter

/-- Whether the user chose no filter explicitly, so that the noise filter applies. -/
def isImplicit (o : LogOptions) : Bool :=
  o.quietNoise && o.commandLineFilter.isNone && o.verbose == 0

/-- The filters of the console and of the log file. -/
def filters (o : LogOptions) : LogFilters :=
  let user := o.userFilter
  let console :=
    if o.isImplicit && !isBlankText o.noiseFilter then o.noiseFilter ++ "," ++ user else user
  let file := if o.isImplicit then console ++ "," ++ LogFilter.editorDirective else user
  ⟨user, console, file⟩

end LogOptions

namespace LogFilter

/-- The directives of a filter: its comma-separated parts, empty ones skipped, read in order;
the first that cannot be read decides the failure. -/
def read (filter : String) : Except DirectiveError (List Directive) :=
  ((filter.splitOn ",").filter (!·.isEmpty)).mapM Directive.read

/-- The directives of the default filter. -/
def defaultDirectives : List Directive := [⟨none, none, [], 3⟩]

/-- The target of the program's own log lines. -/
def programTarget : String := "flowcanvas"

/-- The fields of the program's own error line: only its message. -/
def programFields : List String := ["message"]

/-- The verbosity of the error level. -/
def errorLevel : Nat := 1

end LogFilter

end PipelineEditor
