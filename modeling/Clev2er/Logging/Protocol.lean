import Clev2er.Logging.SortFile
import Mathlib.Data.List.Infix
import Mathlib.Logic.Function.Basic

/-!
# The processes that write the logs

With multi-processing, three kinds of processes share the logs. The children put
their records on `log_queue`. The logger process opens the two `.mp` files, takes
the records from the queue and writes each to the files whose level it has, until
it takes `None`. The main process waits for the children, puts `None`, goes on
logging to its own files, sorts the `.mp` files, merges them into the main logs
and removes them: it does not wait for the logger process.

Files are byte strings, a byte written as the character with its code. A process
that has a file open writes at its own offset, whatever others have done to the
file in between (`FileHandler` opens with mode `w`). Bytes are stamped with the
number of the record they belong to, so that a record can be told from a copy of
its text; no step looks at the stamps.
-/

namespace Clev2er.Logging

open Clev2er.Lib

/-! ## Records and files -/

/-- The content of a log: a byte of a record carries the record's number. -/
abbrev Log := Text (Option Nat)

/-- A record on the queue. `body` is its formatted text, without the newline that
the handlers add. -/
structure Entry where
  id : Nat
  level : Level
  body : List Char
deriving DecidableEq

/-- What a handler writes for a record. -/
def Entry.text (e : Entry) : Log := (e.body ++ ['\n']).map (fun c => (c, some e.id))

/-- What the main process writes for a line of its own. -/
def mainLine (body : List Char) : Log := (body ++ ['\n']).map (fun c => (c, none))

/-- The two `.mp` files. -/
inductive MpLog where
  | errors
  | info
deriving DecidableEq, Repr

/-- The level of each file's handler: `ERROR` and `INFO`. -/
def MpLog.accepts : MpLog → Entry → Bool
  | .errors, e => decide (Level.error.levelno ≤ e.level.levelno)
  | .info, e => decide (Level.info.levelno ≤ e.level.levelno)

/-- A `.mp` file: what its path holds, where the logger's next write goes, and
whether the file the logger has open is the one at the path. -/
structure MpFile where
  content : Option Log
  offset : Nat
  linked : Bool

/-- `FileHandler(path, mode="w")`. -/
def MpFile.opened : MpFile where
  content := some []
  offset := 0
  linked := true

/-- A write of the logger. To a file that has been removed it goes too, but no
path leads there. -/
def MpFile.write (file : MpFile) (text : Log) : MpFile where
  content := if file.linked then file.content.map (fun c => writeAt none c file.offset text)
    else file.content
  offset := file.offset + text.length
  linked := file.linked

/-! ## The main process -/

/-- The steps of the main process. -/
inductive MainOp where
  /-- `log.info`. -/
  | logInfo (body : List Char)
  /-- `log_queue.put(None)`. -/
  | putNone
  /-- `sort_file_by_number`. -/
  | sort (file : MpLog)
  /-- `insert_txtfile1_in_txtfile2_after_line_containing_string`, of the info log. -/
  | insertInfo
  /-- `append_file`, of the error log. -/
  | appendErrors
  /-- `os.remove`. -/
  | remove (file : MpLog)

/-- The line after which the info log of the children goes. -/
def marker : List Char := "MP processing completed with outputs logged:".toList

/-- The lines that the main process logs: while the children run, the head of the
marker line, up to the first sorting, the lines that announce each sorting and
the merging, and the rest. -/
structure MainLines where
  running : List (List Char)
  markerHead : List Char
  summary : List (List Char)
  sortingErrors : List Char
  sortingInfo : List Char
  merging : List Char
  closing : List (List Char)

/-- The main process, from the start of the children to the end of `main`. -/
def mainProgram (lines : MainLines) : List MainOp :=
  lines.running.map .logInfo ++
    [.putNone, .logInfo (lines.markerHead ++ marker)] ++
    lines.summary.map .logInfo ++
    [.logInfo lines.sortingErrors, .sort .errors, .logInfo lines.sortingInfo, .sort .info,
      .logInfo lines.merging, .insertInfo, .appendErrors, .remove .errors, .remove .info] ++
    lines.closing.map .logInfo

def hasMarker (line : Log) : Bool := decide (marker <:+: chars line)

/-- The list of lines that is written back, with `content1` after each line that
has the marker. -/
def insertLines (content1 : Log) : List Log → List Log
  | [] => []
  | line :: lines =>
      if hasMarker line then line :: content1 :: insertLines content1 lines
      else line :: insertLines content1 lines

/-! ## States and steps -/

/-- All processes and files. -/
structure State where
  /-- The records each child has still to put. -/
  pending : List (List Entry)
  /-- `log_queue`; `none` is the sentinel. -/
  queue : List (Option Entry)
  /-- The `.mp` files that the logger has still to open. -/
  opening : List MpLog
  /-- The writes that the logger has still to do for the record it has taken. -/
  writing : List (MpLog × Entry)
  stopped : Bool
  mp : MpLog → MpFile
  main : List MainOp
  infoLog : Log
  infoOffset : Nat
  errorLog : Log
  errorOffset : Nat
  crashed : Bool

/-- What can happen next. -/
inductive Step where
  /-- A child puts its next record. -/
  | child (i : Nat)
  /-- The logger opens a file, does a write, or takes from the queue. -/
  | logger
  /-- The main process goes on. -/
  | main
  /-- The main process goes on, to a removal that raises `OSError`, and logs it. -/
  | removeFails (body : List Char)

def childStep (s : State) (i : Nat) : Option State :=
  match s.pending[i]? with
  | some (e :: rest) =>
      some { s with pending := s.pending.set i rest, queue := s.queue ++ [some e] }
  | _ => none

/-- The handlers of the logger that take a record, in their order. -/
def handlersOf (e : Entry) : List (MpLog × Entry) :=
  ([.errors, .info].filter (fun f => MpLog.accepts f e)).map (fun f => (f, e))

def loggerStep (s : State) : Option State :=
  match s.opening, s.writing with
  | f :: rest, _ => some { s with opening := rest, mp := Function.update s.mp f MpFile.opened }
  | [], (f, e) :: rest =>
      some { s with writing := rest, mp := Function.update s.mp f ((s.mp f).write e.text) }
  | [], [] =>
      if s.stopped then none
      else match s.queue with
        | [] => none
        | some e :: rest => some { s with queue := rest, writing := handlersOf e }
        | none :: rest => some { s with queue := rest, stopped := true }

/-- A line to the main info log. -/
def logInfo (s : State) (body : List Char) : State :=
  { s with
    infoLog := writeAt none s.infoLog s.infoOffset (mainLine body)
    infoOffset := s.infoOffset + (mainLine body).length }

/-- A line to both main logs: `log.error`. -/
def logError (s : State) (body : List Char) : State :=
  { logInfo s body with
    errorLog := writeAt none s.errorLog s.errorOffset (mainLine body)
    errorOffset := s.errorOffset + (mainLine body).length }

/-- `FileNotFoundError`, which nothing catches. -/
def crash (s : State) : State := { s with main := [], crashed := true }

section Steps

variable (key : List Char → Nat)

def mainStep (s : State) : Option State :=
  match s.main with
  | [] => none
  | .logInfo body :: rest => some { logInfo s body with main := rest }
  | .putNone :: rest =>
      -- only after every child has been joined
      if s.pending.all List.isEmpty then
        some { s with queue := s.queue ++ [none], main := rest }
      else none
  | .sort f :: rest =>
      match (s.mp f).content with
      | none => some (crash s)
      | some c =>
          some { s with
            mp := Function.update s.mp f { s.mp f with content := some (sortFileBy key c) }
            main := rest }
  | .insertInfo :: rest =>
      match (s.mp .info).content with
      | none => some (crash s)
      | some c =>
          some { s with
            infoLog := (insertLines (translate c) (readlines s.infoLog)).flatten
            main := rest }
  | .appendErrors :: rest =>
      match (s.mp .errors).content with
      | none => some (crash s)
      | some c => some { s with errorLog := s.errorLog ++ translate c, main := rest }
  | .remove f :: rest =>
      match (s.mp f).content with
      | none => some { s with main := rest }
      | some _ =>
          some { s with
            mp := Function.update s.mp f { s.mp f with content := none, linked := false }
            main := rest }

def removeFailsStep (s : State) (body : List Char) : Option State :=
  match s.main with
  | .remove f :: rest =>
      if (s.mp f).content.isSome then some { logError s body with main := rest } else none
  | _ => none

def step (s : State) : Step → Option State
  | .child i => childStep s i
  | .logger => loggerStep s
  | .main => mainStep key s
  | .removeFails body => removeFailsStep s body

def exec : State → List Step → Option State
  | s, [] => some s
  | s, st :: steps => (step key s st).bind (fun s' => exec s' steps)

end Steps

/-! ## The start -/

/-- The records of the children, numbered. -/
def number : Nat → List (List (Level × List Char)) → List (List Entry)
  | _, [] => []
  | n, records :: rest =>
      (records.zipIdx n).map (fun r => ⟨r.2, r.1.1, r.1.2⟩) :: number (n + records.length) rest

/-- What a run starts from: the records each child is going to log, what earlier
runs have left at the paths of the `.mp` files, the lines of the main error log,
and the lines that the main process is going to log. -/
structure Setting where
  children : List (List (Level × List Char))
  stale : MpLog → Option (List Char)
  errorLines : List (List Char)
  lines : MainLines

/-- All records of the children. -/
def Setting.entries (setting : Setting) : List Entry := (number 0 setting.children).flatten

def Setting.init (setting : Setting) : State where
  pending := number 0 setting.children
  queue := []
  opening := [.errors, .info]
  writing := []
  stopped := false
  mp := fun f => ⟨(setting.stale f).map (fun t => t.map (fun c => (c, none))), 0, false⟩
  main := mainProgram setting.lines
  infoLog := []
  infoOffset := 0
  errorLog := setting.errorLines.flatMap mainLine
  errorOffset := (setting.errorLines.flatMap mainLine).length
  crashed := false

/-! ## What must not be lost -/

/-- The line has a byte of the record. -/
def touches (id : Nat) (line : Log) : Bool := line.any (fun u => u.2 = some id)

/-- The record appears in the log exactly once: the lines that have a byte of it
are its own lines, each once and whole. -/
def OccursOnce (e : Entry) (log : Log) : Prop :=
  ((readlines log).filter (touches e.id)).Perm (readlines e.text)

/-- Each record of level `INFO` or above is in the info log, and each of level
`ERROR` or above in the error log, exactly once. -/
def NothingLost (setting : Setting) (s : State) : Prop :=
  ∀ e ∈ setting.entries, (MpLog.accepts .info e → OccursOnce e s.infoLog) ∧
    (MpLog.accepts .errors e → OccursOnce e s.errorLog)

end Clev2er.Logging
