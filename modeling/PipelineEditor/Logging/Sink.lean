import PipelineEditor.Logging.Filter
import PipelineEditor.Storage.Basic
import PipelineEditor.Storage.Path

/-!
The log file sink: where log files go, and why there may be none.

Log files live in the log directory, which is taken from the data directory unless absolute;
there is one file a day, `flowcanvas.YYYY-MM-DD.log`, and a number of them are kept (fourteen
when the number asked for is zero). Without a data directory there is no file sink. Otherwise the
log directory is made, and today's file opened for appending; when either fails the program logs
to the console only, and says why.
-/

namespace PipelineEditor

/-- How many log files are kept when the number asked for is zero. -/
def defaultRetention : Nat := 14

/-- What decides the log file sink. -/
structure SinkOptions where
  /-- The data directory, if there is one. -/
  dataDir : Option String := none
  /-- The log directory, relative to the data directory unless absolute. -/
  logDir : String := "logs"
  /-- How many log files to keep. -/
  retention : Nat := defaultRetention
  deriving Inhabited, Repr

/-- Why the daily log file could not be opened. -/
inductive AppenderFailure where
  /-- Its directory could not be made. -/
  | directory (cause : OsError)
  /-- The file itself could not be opened. -/
  | file (cause : OsError)
  deriving Inhabited, Repr

/-- Why there is no log file sink. -/
inductive SinkFailure where
  /-- No data directory is configured. -/
  | noDataDirectory
  /-- The log directory could not be made. -/
  | unwritableDirectory (cause : OsError)
  /-- The daily log file could not be opened. -/
  | appender (cause : AppenderFailure)
  deriving Inhabited, Repr

/-- The log file sink of a run. -/
inductive FileSink where
  /-- Log files are written to a directory. -/
  | ready (logDir : String) (retention : Nat)
  /-- There are none: the directory tried, if any, and why it failed. -/
  | fallback (attempted : Option String) (retention : Nat) (reason : SinkFailure)
  deriving Inhabited, Repr

namespace AppenderFailure

/-- The message of the failure. -/
def message : AppenderFailure → String
  | .directory cause => "failed to create log directory: " ++ cause.message
  | .file cause => "failed to create initial log file: " ++ cause.message

end AppenderFailure

namespace SinkFailure

/-- What failed, without its cause. -/
def context : SinkFailure → String
  | .noDataDirectory => "file sink disabled: data_dir is not configured"
  | .unwritableDirectory _ => "failed to create log directory"
  | .appender _ => "failed to initialize rolling file sink"

/-- What failed, and why. -/
def reason (f : SinkFailure) : String :=
  match f with
  | .noDataDirectory => f.context
  | .unwritableDirectory cause => f.context ++ ": " ++ cause.message
  | .appender cause => f.context ++ ": " ++ cause.message

end SinkFailure

namespace FileSink

/-- Whether log files are written. -/
def isReady : FileSink → Bool
  | .ready _ _ => true
  | .fallback _ _ _ => false

/-- The log directory used or tried. -/
def logDir? : FileSink → Option String
  | .ready dir _ => some dir
  | .fallback attempted _ _ => attempted

/-- How many log files are kept. -/
def retention : FileSink → Nat
  | .ready _ n => n
  | .fallback _ n _ => n

/-- Why there are no log files. -/
def failure? : FileSink → Option SinkFailure
  | .ready _ _ => none
  | .fallback _ _ reason => some reason

end FileSink

/-- A number with at least `width` digits, zeros in front. -/
def padded (width : Nat) (n : Nat) : String :=
  let digits := toString n
  String.ofList (List.replicate (width - digits.length) '0') ++ digits

/-- The date `YYYY-MM-DD` of a day counted from 1970-01-01, in the Gregorian calendar: days are
counted in eras of 400 years (146097 days) whose years start on the first of March, so that the
leap day ends a year. -/
def dayText (days : Int) : String :=
  let z := days + 719468
  let era := z / 146097
  let dayOfEra := z - era * 146097
  let yearOfEra := (dayOfEra - dayOfEra / 1460 + dayOfEra / 36524 - dayOfEra / 146096) / 365
  let dayOfYear := dayOfEra - (365 * yearOfEra + yearOfEra / 4 - yearOfEra / 100)
  let shiftedMonth := (5 * dayOfYear + 2) / 153
  let day := dayOfYear - (153 * shiftedMonth + 2) / 5 + 1
  let month := if shiftedMonth < 10 then shiftedMonth + 3 else shiftedMonth - 9
  let year := yearOfEra + era * 400 + (if month ≤ 2 then 1 else 0)
  padded 4 year.toNat ++ "-" ++ padded 2 month.toNat ++ "-" ++ padded 2 day.toNat

example : dayText 0 = "1970-01-01" := by decide
example : dayText 11016 = "2000-02-29" := by decide

/-- The name of the log file of a day. -/
def logFileName (day : String) : String := "flowcanvas." ++ day ++ ".log"

/-- Opens today's log file in a directory for appending, making the directory again if the
first attempt fails. -/
def openDailyLog {m : Type → Type} [Monad m] [FileStore m] (logDir : String) :
    m (Except AppenderFailure Unit) := do
  let file := Path.join logDir (logFileName (← FileStore.today))
  if let .ok () ← FileStore.appendText file "" then return .ok ()
  if let .error e ← FileStore.createDirAll logDir then return .error (.directory e)
  match ← FileStore.appendText file "" with
  | .ok () => return .ok ()
  | .error e => return .error (.file e)

/-- The log file sink: none without a data directory; otherwise the log directory is made and
today's file opened, and either failure leaves the console only. -/
def SinkOptions.plan {m : Type → Type} [Monad m] [FileStore m] (o : SinkOptions) : m FileSink := do
  let retention := if o.retention == 0 then defaultRetention else o.retention
  let some dataDir := o.dataDir | return .fallback none retention .noDataDirectory
  let logDir := Path.resolveRelativeTo dataDir o.logDir
  if let .error e ← FileStore.createDirAll logDir then
    return .fallback (some logDir) retention (.unwritableDirectory e)
  match ← openDailyLog logDir with
  | .ok () => return .ready logDir retention
  | .error e => return .fallback (some logDir) retention (.appender e)

end PipelineEditor
