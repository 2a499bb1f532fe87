import SerialEeprom.Bus.Scripted
import SerialEeprom.Main
import SerialEeprom.Proofs.Addressed
import SerialEeprom.Proofs.Checked
import SerialEeprom.Target.Recorder
import SerialEeprom.Proofs.Accounts
import SerialEeprom.Proofs.Calls
import SerialEeprom.Proofs.Staging
import SerialEeprom.Proofs.Buffer
import SerialEeprom.Proofs.Board
import SerialEeprom.Proofs.Procedure
import SerialEeprom.Proofs.Line
import SerialEeprom.Proofs.Undisturbed
import SerialEeprom.Proofs.Failures
import SerialEeprom.Proofs.Registers
import SerialEeprom.Proofs.Sessions
import SerialEeprom.Proofs.Pieces
import SerialEeprom.Proofs.Deliveries
import SerialEeprom.Proofs.Spelling
import SerialEeprom.Proofs.RoundTrip
import SerialEeprom.Proofs.Numerals
import SerialEeprom.Proofs.PinText
import SerialEeprom.Proofs.Selected
import SerialEeprom.Proofs.LastWrite
import SerialEeprom.Proofs.Dropped
import SerialEeprom.Proofs.Arguments
import SerialEeprom.Proofs.Dump
import SerialEeprom.Proofs.Opening
import SerialEeprom.Proofs.ImageDump
