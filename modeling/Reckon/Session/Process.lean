/-
A process that works out expressions for others.

A caller hands over a byte string, or nothing, and gets the address of a buffer with the answer,
which stays as it is until the caller gives it back.  A logger can be installed once; from then
on the events that its filter lets through are written to the log.  How filters are read, and the
times in front of the lines, are those of the library that writes the log, whichever that is.

`Session.call` answers one call and `Session.run` a list of them.
-/
import Reckon.Calculator
import Reckon.Log.Library
import Reckon.Log.Line
import Reckon.Session.CString

namespace Reckon

/-- The outcome for a byte string, which ends before its first NUL byte; `none` is a null
pointer. -/
def outcomeFor : Option ByteArray → Outcome × Array Event
  | none => (.failure .invalidInput "null input pointer", #[])
  | some bytes =>
    let input := CString.untilNul bytes
    match String.fromUTF8? input with
    | some source => render source
    | none =>
      (.failure .invalidInput "input is not valid UTF-8", #[.rejected (Text.validUpTo input 0)])

/-- The version of the program. -/
def version : String := "0.1.0"

/-- Why a logger was not installed. -/
inductive InstallError where
  /-- The filter cannot be read. -/
  | filter
  /-- There is a logger already. -/
  | alreadyInstalled
  deriving DecidableEq

namespace InstallError

def message : InstallError → String
  | filter => "invalid filter directives"
  | alreadyInstalled => "a global subscriber is already installed"

end InstallError

/-- The number that stands for the result of an installation. -/
def installCode : Except InstallError Unit → Nat
  | .ok () => 0
  | .error .filter => 1
  | .error .alreadyInstalled => 2

/-- The address of a text that a caller may read. -/
inductive Address where
  | version
  | buffer (index : Nat)
  deriving DecidableEq

/-- A process, by what callers can see of it. -/
structure Session where
  /-- The library that writes the log. -/
  library : LogLibrary
  /-- The buffers that were handed out; those given back are gone. -/
  buffers : Array (Option ByteArray)
  /-- The filter of the installed logger. -/
  logger : Option Filter
  /-- The lines that were written. -/
  log : Array String

/-- What a caller may ask for. -/
inductive Call where
  | calculate (argument : Option ByteArray)
  /-- With a variable for the status, which holds a number, or without one. -/
  | calculateWithStatus (argument : Option ByteArray) (status : Option Nat)
  | read (address : Address)
  /-- Gives a buffer back; without an address, nothing happens. -/
  | free (address : Option Address)
  | version
  | installLogger (filter : Option ByteArray)
  | installLoggerText (filter : String)

/-- The answer to a call. -/
inductive Reply where
  /-- A new buffer, and what the variable for the status now holds. -/
  | answer (address : Address) (status : Option Nat)
  | text (text : Option String)
  | freed
  | version (address : Address)
  | install (result : Except InstallError Unit)

namespace Session

/-- A process in which nothing has happened. -/
def start (library : LogLibrary) : Session := ⟨library, #[], none, #[]⟩

/-- Writes the events that the logger lets through, each with the time in front. -/
def record (s : Session) (events : Array Event) : Session :=
  match s.logger with
  | none => s
  | some filter =>
    let lines := (events.filter filter.admits).mapIdx fun i e =>
      s.library.stamp (s.log.size + i) ++ e.line
    { s with log := s.log ++ lines }

/-- Puts a text into a new buffer. -/
def store (s : Session) (text : String) : Address × Session :=
  (.buffer s.buffers.size, { s with buffers := s.buffers.push (some (CString.terminate text)) })

/-- The bytes at an address. -/
def bytes? (s : Session) : Address → Option ByteArray
  | .version => some (CString.terminate Reckon.version)
  | .buffer index => s.buffers[index]?.join

/-- The text at an address. -/
def read (s : Session) (address : Address) : Option String :=
  (s.bytes? address).bind CString.read

/-- Works out an argument; the status goes into the caller's variable, if there is one. -/
def calculate (s : Session) (argument : Option ByteArray) (status : Option Nat) :
    Address × Option Nat × Session :=
  let (outcome, events) := outcomeFor argument
  let (address, s) := (s.record events).store outcome.text
  (address, status.map fun _ => outcome.status.code, s)

/-- Gives a buffer back. -/
def free (s : Session) : Option Address → Session
  | some (.buffer index) => { s with buffers := s.buffers.set! index none }
  | _ => s

/-- Installs a logger, unless the filter cannot be read or there is one already. -/
def install (s : Session) (filter : String) : Except InstallError Unit × Session :=
  match s.library.readFilter filter, s.logger with
  | none, _ => (.error .filter, s)
  | some _, some _ => (.error .alreadyInstalled, s)
  | some filter, none => (.ok (), { s with logger := some filter })

/-- Installs a logger with a filter given as a byte string. -/
def installBytes (s : Session) (filter : Option ByteArray) : Except InstallError Unit × Session :=
  match filter.bind CString.read with
  | none => (.error .filter, s)
  | some text => s.install text

/-- Answers a call. -/
def call (s : Session) : Call → Reply × Session
  | .calculate argument =>
    let (address, status, s) := s.calculate argument none
    (.answer address status, s)
  | .calculateWithStatus argument status =>
    let (address, status, s) := s.calculate argument status
    (.answer address status, s)
  | .read address => (.text (s.read address), s)
  | .free address => (.freed, s.free address)
  | .version => (.version .version, s)
  | .installLogger filter =>
    let (result, s) := s.installBytes filter
    (.install result, s)
  | .installLoggerText filter =>
    let (result, s) := s.install filter
    (.install result, s)

/-- Answers one call after another. -/
def run (s : Session) : List Call → List Reply × Session
  | [] => ([], s)
  | c :: cs =>
    let (reply, s) := s.call c
    let (replies, s) := s.run cs
    (reply :: replies, s)

end Session

end Reckon
