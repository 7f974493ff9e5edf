import Graft.Console
import Graft.Diagnosis

/-!
# Sessions

A command runs in a session: it looks at the file tree and may change it, shows things,
and leaves records. It ends by itself, with an exit status, or with a fault, and
whatever it did before stands.
-/

namespace Graft.Command

open Text

/-- What a command has done so far. -/
structure Transcript where
  /-- The file tree as it is now. -/
  disk : Disk
  /-- What was shown. -/
  printed : List Printed := []
  /-- What was recorded. -/
  records : List Record := []

/-- How a command ends before its last line. -/
inductive Ending where
  /-- With an exit status. -/
  | exit (status : Nat)
  /-- With a fault that nobody handles. -/
  | fault (cause : Fault)

/-- A part of a command. -/
abbrev Session := EStateM Ending Transcript

namespace Session

/-- The file tree. -/
def disk : Session Disk := do return (← get).disk

/-- Show something. -/
def print (p : Printed) : Session Unit :=
  modify fun t => { t with printed := t.printed ++ [p.visible] }

/-- Show a text. -/
def say (t : Text) : Session Unit := print (.text t)

/-- Leave records. -/
def note (records : List Record) : Session Unit :=
  modify fun t => { t with records := t.records ++ records }

/-- Change the file tree. -/
def write (p : Path) (content : Text) : Session Unit :=
  modify fun t => { t with disk := t.disk.writeText p content }

/-- End the command with an exit status. -/
def exit {α : Type} (status : Nat) : Session α := throw (.exit status)

/-- The result of something that may fail. -/
def attempt {α : Type} : Except Fault α → Session α
  | .ok a => pure a
  | .error fault => throw (.fault fault)

/-- Show that something went wrong, with a message that may carry styling. -/
def complain (label message : Text) : Session Unit := do
  say (label ++ [' '] ++ (← attempt (Console.plain message)))

/-- Report a fault to the user and end the command. -/
def abort {α : Type} (message : Text) : Session α := do
  complain "Error:".toList message
  exit 1

/-- The result of something that may fail because of the configuration, which is reported
to the user. -/
def configured {α : Type} : Except Fault α → Session α
  | .error (.config cause) => abort cause.message
  | other => attempt other

end Session

end Graft.Command
