/-
# The log

Everything the library logs, as values: a constructor for each kind of message, with its level
and its wording.  Statements about what is logged speak of the values, so that they say which
message was logged and with which numbers, and do not break when a wording is improved.

The wording matters where a log is shown.  It is one function (`LogEntry.text`), and the numbers of
a message can be found in it: which numbers a message carries, and that its line shows each of them
in its base and its column, is proved in a module of its own (`LogEntry.line_shows_figures`).

Levels are given by kind and not by content (`LogEntry.level`).

* What failed or was refused is an error, on the bus and from inside alike.
* What was out of order and got over is a warning, as a completion that nobody asked for, or an
  image that had to be cut.
* Below that are the steps of normal work, the bytes of a write that found no room among them, and
  at the bottom each event of the bus.

Whether a level is shown is decided by whoever runs the program.
-/
import SerialEeprom.Bus
import SerialEeprom.Text.Record

namespace SerialEeprom

open SerialEeprom.Text

/-- How much a message matters, the gravest first.  A filter shows a level and all that stand before
it. -/
inductive Level where
  | error
  | warn
  | info
  | debug
  | trace
  deriving DecidableEq, Repr

namespace Level

/-- How far down a level stands.  The greater it is, the less the level matters. -/
def rank : Level → Nat
  | error => 1
  | warn => 2
  | info => 3
  | debug => 4
  | trace => 5

/-- The name that stands in front of a message. -/
def name : Level → String
  | error => "ERROR"
  | warn => "WARN"
  | info => "INFO"
  | debug => "DEBUG"
  | trace => "TRACE"

end Level

/-- One message, with the numbers and texts that it carries.  Two messages are the same if they
carry the same, so runs can be compared by their logs. -/
inductive LogEntry where
  /-- An access did not stay below the end of the contents. -/
  | refused (access : OutOfBounds)
  | created (address : UInt8) (size : UInt16)
  | enabling (config : BusConfig)
  | enableFailed (reason : String)
  | listening (config : DeviceConfig)
  /-- Bytes were written from inside. -/
  | stored (count : Nat) (address : UInt16)
  | imageTruncated (length stored : Nat) (address : UInt16)
  | loaded (count : Nat) (address : UInt16)
  | receiveRefused (reason : String)
  | offerRefused (reason : String)
  | strayWrite (count : Nat)
  | shortWrite (count : Nat)
  | farAddress (address size : UInt16)
  | addressSet (address : UInt16)
  | bytesDropped (count : Nat)
  | written (count : Nat) (address : UInt16)
  | strayRead (count : Nat)
  /-- More bytes are said to be read than there were. -/
  | overread (claimed offered : Nat)
  | readDone (count : Nat) (address : UInt16)
  | busFault (fault : BusFault)
  | busEvent (event : BusEvent)
  /-- The target had no room for so many bytes. -/
  | refusedBytes (count : Nat)
  | registerSet (name : String) (value : UInt8)
  | registerMissing (name : String) (address size : UInt16)
  | lineFailed (line : Nat) (reason : String)
  | runFailed (reason : String)
  deriving DecidableEq, Repr

namespace LogEntry

/-- How much a message matters. -/
def level : LogEntry → Level
  | refused _ | enableFailed _ | receiveRefused _ | offerRefused _ | farAddress .. | busFault _
  | registerMissing .. | lineFailed .. | runFailed _ => .error
  | imageTruncated .. | strayWrite _ | shortWrite _ | strayRead _ | overread .. => .warn
  | listening _ | loaded .. => .info
  | created .. | enabling _ | stored .. | addressSet _ | bytesDropped _ | written ..
  | readDone .. | refusedBytes _ | registerSet .. => .debug
  | busEvent _ => .trace

end LogEntry

/-! ## 1. Wording -/

/-- An address or a size of the contents, in four hexadecimal digits. -/
def hex16 (n : UInt16) : String :=
  "0x" ++ Hex.text 4 n.toNat

/-- The settings of the bus, shown with their names. -/
def BusConfig.shown (config : BusConfig) : Shown :=
  .record "BusConfig" (.ofAtoms
    [("address", s!"{config.address}"), ("sda_psel", s!"{config.sda}"),
      ("scl_psel", s!"{config.scl}")])

/-- The name of a fault as a value. -/
def BusFault.name : BusFault → String
  | .read => "Read"
  | .write => "Write"
  | .general => "General"

/-- An event, shown with its name.  A completion is shown with its count, a fault with its kind. -/
def BusEvent.shown : BusEvent → Shown
  | .writeRequested => .atom "WriteRequested"
  | .writeDone received => .record "WriteDone" (.ofAtoms [("rx_amount", s!"{received}")])
  | .readRequested => .atom "ReadRequested"
  | .readDone sent => .record "ReadDone" (.ofAtoms [("tx_amount", s!"{sent}")])
  | .fault kind => .atom ("Error(" ++ kind.name ++ ")")

namespace LogEntry

/-- The wording of a message.  Counts are in decimal; addresses and sizes of the contents are in
hexadecimal, in four digits. -/
def text : LogEntry → String
  | refused ⟨address, length, size⟩ =>
    s!"Data out of bounds: {length} bytes @ " ++ hex16 address ++ " (size "
      ++ hex16 size ++ ")"
  | created address size =>
    "Creating virtual EEPROM @ 0x" ++ Hex.text 2 address.toNat ++ ", size " ++ hex16 size
  | enabling config => "Initializing EEPROM target: " ++ config.shown.compact
  | enableFailed reason => "Error initializing bus peripheral: " ++ reason
  | listening config =>
    "Virtual EEPROM listening @ 0x" ++ Hex.text 2 config.address.toNat ++ " (SDA "
      ++ config.sda.text ++ ", SCL " ++ config.scl.text ++ ")"
  | stored count address => s!"Internally written {count} bytes to " ++ hex16 address
  | imageTruncated length kept address =>
    s!"Image of {length} bytes truncated to {kept} bytes @ " ++ hex16 address
  | loaded count address => s!"Loaded {count} bytes @ " ++ hex16 address
  | receiveRefused reason => "Failed to prepare receive buffer: " ++ reason
  | offerRefused reason => "Failed to prepare transmit buffer: " ++ reason
  | strayWrite count => s!"Write of {count} bytes without receive buffer, dropped"
  | shortWrite count => s!"Write of {count} bytes too short for an address, ignored"
  | farAddress address size =>
    "Address " ++ hex16 address ++ " exceeds size " ++ hex16 size
  | addressSet address => "Set address to " ++ hex16 address
  | bytesDropped count => s!"Dropped {count} bytes beyond end of device"
  | written count address => s!"Written {count} bytes @ " ++ hex16 address
  | strayRead count => s!"Read of {count} bytes without transmit buffer, dropped"
  | overread claimed offered =>
    s!"Peripheral reports {claimed} bytes read, only {offered} were offered"
  | readDone count address => s!"Read {count} bytes @ " ++ hex16 address
  | busFault fault => "Bus " ++ fault.message
  | busEvent event => "Bus event " ++ event.shown.compact
  | refusedBytes count => s!"Receive buffer full, NACKing {count} bytes"
  | registerSet name value => "Set " ++ name ++ s!" = {value}"
  | registerMissing name address size =>
    "Register " ++ name ++ " @ " ++ hex16 address ++ " beyond device of size "
      ++ hex16 size
  | lineFailed line reason => s!"line {line}: " ++ reason
  | runFailed reason => "Error: " ++ reason

/-- A message behind the name of its level. -/
def line (entry : LogEntry) : String :=
  entry.level.name ++ " " ++ entry.text

end LogEntry

end SerialEeprom
