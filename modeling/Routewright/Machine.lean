import Routewright.Files.Fault
import Routewright.Path

/-!
# The machine

What the program asks of the machine it runs on: its variables, files and streams, and documents
from other machines. Everything that touches them is written for any `Machine`, so one and the same
program runs on a real machine and on a described one.
-/

namespace Routewright

/-- What is at a path. -/
inductive FileKind
  | directory
  | file
  deriving DecidableEq, Repr

/-- What another machine answers to the request for a document. -/
inductive Reply
  | answer (status : Nat) (contentType : String) (body : List UInt8)
  | failed (reason : String)
  deriving DecidableEq, Repr

/-- An operation on files, which may fail. -/
abbrev FileTask (m : Type → Type) := ExceptT FileFault m

/-- The operations of a machine. -/
class Machine (m : Type → Type) where
  /-- A file that is being written under a name of its own. -/
  Temporary : Type
  /-- The value of an environment variable. -/
  environment : String → m (Option String)
  /-- The name of the operating system. -/
  platform : m String
  /-- The home directory that the account has whatever the environment says. -/
  accountHome : m String
  /-- The present time as part of the name of a file. -/
  timestamp : m String
  /-- The working directory. -/
  workingDirectory : m Path
  /-- What is at a path, if anything. -/
  kind? : Path → FileTask m (Option FileKind)
  /-- The names in a directory, in any order. -/
  namesIn : Path → m (List String)
  /-- The bytes of a file. -/
  read : Path → FileTask m (List UInt8)
  /-- Makes a directory and those above it, unless they are there. -/
  makeDirectories : Path → FileTask m Unit
  /-- Writes a file in place. -/
  write : Path → String → FileTask m Unit
  /-- Creates an empty file beside the file of a path. -/
  createTemporary : Path → FileTask m Temporary
  /-- Hands text over to be written. -/
  append : Temporary → String → FileTask m Unit
  /-- Writes what has been handed over. -/
  flush : Temporary → FileTask m Unit
  /-- Waits until what is written cannot be lost. -/
  sync : Temporary → FileTask m Unit
  /-- Closes a file, writing what has been handed over and is not yet written. -/
  close : Temporary → FileTask m Unit
  /-- Closes a file after a step on it has failed. -/
  abandon : Temporary → FileTask m Unit
  /-- Moves a closed file to a path, instead of the file that is there. -/
  replace : Temporary → Path → FileTask m Unit
  /-- Removes a file; it stays if that fails. -/
  discard : Temporary → m Unit
  /-- Everything that standard input holds. -/
  input : m String
  /-- Asks for the document at an address. -/
  fetch : String → m Reply
  /-- Whether standard output is a terminal. -/
  isTerminal : m Bool
  /-- Writes to standard output, which does not fail. -/
  print : String → m Unit
  /-- Writes to standard error, which does not fail. -/
  report : String → m Unit
  /-- Adds a message to the log. -/
  log : String → m Unit

end Routewright
