/-
# The command line

An invocation is a description of a device and a task for it.  This module reads one from the
words of a command line, runs it, and says what came out: the exit code, and what was printed and
logged, in order.

On the command line, options that describe the device stand in front of the task, and options of the
task behind it.  An option is known by its name or by a letter, and its value is attached to it or
is the next word, whatever that looks like.  A word that is not understood, or is left over, is an
error of usage, and nothing is run.

Running is a function (`Invocation.run`).  It takes what reading the image gave and the lines of the
input as arguments, and gives a trace; nothing is printed while it runs.  Whoever has a trace can
ask which lines are on it (`Completion.printed`) and which messages a filter would show
(`Completion.logged`), or play it.  What the system has to do with it is left to the program, or to
a folder that stands for the system (`Invocation.runIn`).

The exit code says whether the task was done: nought if it was, and one if anything failed on the
way, in which case the last message is why.
-/
import SerialEeprom.Command.Demo
import SerialEeprom.Command.Session

namespace SerialEeprom.Command

open SerialEeprom.Text

/-- What to do with the device. -/
inductive Task where
  | demo (options : RepeatOptions)
  | bridge (options : RepeatOptions)
  | session
  | dump
  deriving DecidableEq, Repr

/-- A command line that was understood.  Its options are still texts, which are read when the device
is opened. -/
structure Invocation where
  device : DeviceOptions
  image : Option String
  task : Task
  deriving DecidableEq, Repr

/-! ## 1. Reading a command line -/

/-- Why a command line is not understood.  It is found by its shape alone; a bad value is a failure
of the run. -/
inductive UsageError where
  | unknownOption (text : String)
  | noValue (name : String)
  | noTask
  | unknownTask (name : String)
  | surplus (text : String)
  deriving DecidableEq, Repr

/-- The wording of an error. -/
def UsageError.message : UsageError → String
  | .unknownOption text => "unknown option " ++ text
  | .noValue name => "option --" ++ name ++ " needs a value"
  | .noTask => "one of demo, bridge, session, dump is needed"
  | .unknownTask name => "unknown command " ++ name
  | .surplus text => "unexpected argument " ++ text

/-- The name of an option, and its letter if it has one. -/
structure OptionName where
  name : String
  letter : Option Char := none

/-- The options in front of the task.  All of them take a value, and none is required. -/
def deviceOptionNames : List OptionName :=
  [⟨"size", some 's'⟩, ⟨"address", some 'a'⟩, ⟨"sda", none⟩, ⟨"scl", none⟩, ⟨"image", some 'i'⟩]

/-- The options behind a task that repeats. -/
def repeatOptionNames : List OptionName :=
  [⟨"count", some 'c'⟩, ⟨"interval", none⟩]

/-- A value attached to its option, without the equals signs in front of it. -/
def attachedValue (cs : List Char) : String :=
  String.ofList (cs.dropWhile (· = '='))

/-- Read a word as an option: its name, and the value attached to it, if any.  A word that does
not look like an option gives nothing. -/
def optionOf (names : List OptionName) (word : String) :
    Except UsageError (Option (String × Option String)) :=
  match word.toList with
  | '-' :: '-' :: rest =>
    let name := String.ofList (rest.takeWhile (· ≠ '='))
    let value := rest.dropWhile (· ≠ '=')
    if names.any (·.name = name) then
      .ok (some (name, if value = [] then none else some (attachedValue value)))
    else .error (.unknownOption word)
  -- A dash alone is no option, and neither is an empty word.
  | '-' :: letter :: value =>
    match names.find? (·.letter = some letter) with
    | some option =>
      .ok (some (option.name, if value = [] then none else some (attachedValue value)))
    | none => .error (.unknownOption word)
  | _ => .ok none

/-- Read options up to the first word that is none; gives their values, in order, and the words
left. -/
def readOptions (names : List OptionName) :
    List String → Except UsageError (List (String × String) × List String)
  | [] => .ok ([], [])
  | word :: rest =>
    match optionOf names word with
    | .error e => .error e
    | .ok none => .ok ([], word :: rest)
    | .ok (some (name, some value)) => do
      let (values, left) ← readOptions names rest
      pure ((name, value) :: values, left)
    | .ok (some (name, none)) =>
      match rest with
      | [] => .error (.noValue name)
      | value :: rest => do
        let (values, left) ← readOptions names rest
        pure ((name, value) :: values, left)

/-- Read the options of a task and make sure that nothing follows. -/
def readLastOptions (names : List OptionName) (words : List String) :
    Except UsageError (List (String × String)) := do
  let (values, left) ← readOptions names words
  match left with
  | [] => pure values
  | word :: _ => throw (.surplus word)

/-- Read a task and its options.  A task that takes no options still refuses whatever follows it. -/
def Task.ofWords : List String → Except UsageError Task
  | [] => .error .noTask
  | name :: words =>
    if name = "demo" ∨ name = "bridge" then do
      let values ← readLastOptions repeatOptionNames words
      let options : RepeatOptions := ⟨values.lookup "count", values.lookup "interval"⟩
      pure (if name = "demo" then .demo options else .bridge options)
    else if name = "session" then do
      let _ ← readLastOptions [] words
      pure .session
    else if name = "dump" then do
      let _ ← readLastOptions [] words
      pure .dump
    else .error (.unknownTask name)

/-- Read the words of a command line. -/
def Invocation.ofWords (words : List String) : Except UsageError Invocation := do
  let (values, left) ← readOptions deviceOptionNames words
  let task ← Task.ofWords left
  let device : DeviceOptions :=
    ⟨values.lookup "size", values.lookup "address", values.lookup "sda", values.lookup "scl"⟩
  pure ⟨device, values.lookup "image", task⟩

/-! ## 2. Running it -/

/-- A device on a simulated bus that is not up yet.  The task brings it up, and can fail to. -/
def bench (device : Device) (observer : Option Announcer) : Bench :=
  ⟨⟨device, observer⟩, {}⟩

/-- Run a task on a device.  A task that needs a bus has its own, which it brings up first. -/
def Task.run {σ : Type} (task : Task) (device : Device) (input : List InputLine) :
    Action σ Output Failure Unit :=
  match task with
  | .demo options => do
    let (rounds, interval) ← Action.ofExcept (options.read 3)
    let _ ← Action.within (bench device (some .wordy))
      ((Command.demo rounds interval).mapError Failure.eeprom)
  | .bridge options => do
    let (rounds, interval) ← Action.ofExcept (options.read 5)
    let _ ← Action.within (bench device none)
      ((Command.bridge rounds interval).mapError Failure.eeprom)
  | .session => do
    let _ ← Action.within (bench device (some .terse)) (Command.session input)
  | .dump => printAll (Hexdump.lines device.snapshot)

/-- What came out of an invocation: its exit code, and all that it handed out.  No more can be seen
of a run from outside. -/
structure Completion where
  exitCode : UInt32
  trace : List (Emission Output)

/-- Run an invocation, given what reading its image gave and the lines of its input.  The task is
not begun before the device is open. -/
def Invocation.run (i : Invocation) (image : Option (Except ImageError (List UInt8)))
    (input : List InputLine) : Completion :=
  let whole : Action Unit Output Failure Unit := do
    let device ← i.device.openDevice image
    i.task.run device input
  let outcome := whole.run ()
  match outcome.result with
  | .ok () => ⟨0, outcome.trace⟩
  | .error failure => ⟨1, outcome.trace ++ [.log (.runFailed failure.message)]⟩

/-- Run an invocation in a working folder, from which its image is read. -/
def Invocation.runIn (i : Invocation) (folder : Folder) (input : List InputLine) : Completion :=
  i.run (i.image.map folder.read) input

/-! ## 3. What can be seen of it -/

/-- Which messages are shown: none, or those of a level and the graver ones.  It concerns the log
only; printed lines are never held back. -/
abbrev LogFilter := Option Level

/-- The filter of a name.  A name that is none of these gives nothing, and the standard filter is
used. -/
def logFilter? (name : String) : Option LogFilter :=
  if name = "off" then some none
  else if name = "error" then some (some .error)
  else if name = "warn" then some (some .warn)
  else if name = "info" then some (some .info)
  else if name = "debug" then some (some .debug)
  else if name = "trace" then some (some .trace)
  else none

/-- Whether a message is shown. -/
def LogFilter.shows (filter : LogFilter) (entry : LogEntry) : Bool :=
  match filter with
  | none => false
  | some level => entry.level.rank ≤ level.rank

/-- The lines of a message, which is cut at each line feed in it. -/
def logLines (entry : LogEntry) : List String :=
  (entry.line.toList.splitOn '\n').map String.ofList

/-- The lines printed by an invocation. -/
def Completion.printed (c : Completion) : List String :=
  c.trace.filterMap fun e => e.report?.bind Output.line?

/-- The lines logged by an invocation. -/
def Completion.logged (c : Completion) (filter : LogFilter) : List String :=
  (c.trace.filterMap Emission.log?).filter filter.shows |>.flatMap logLines

end SerialEeprom.Command
