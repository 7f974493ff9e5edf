import Graft.Text.Basic

/-!
# Log records

What the program does along the way is noted in records. A record has a level, the part
of the program it comes from, and a message; those below the level that is asked for
are not kept.
-/

namespace Graft

/-- How much a record matters. -/
inductive Level where
  | debug
  | info
  | warning
  | error
deriving DecidableEq, Repr

/-- The rank of a level. -/
def Level.rank : Level → Nat
  | .debug => 0
  | .info => 1
  | .warning => 2
  | .error => 3

/-- The word for a level. -/
def Level.name : Level → Text
  | .debug => "DEBUG".toList
  | .info => "INFO".toList
  | .warning => "WARNING".toList
  | .error => "ERROR".toList

/-- The part of the program a record comes from. -/
inductive Origin where
  /-- Treating a document. -/
  | engine
  /-- Reading the page manifest. -/
  | pages
  /-- Registering in a script. -/
  | registration
  /-- A command. -/
  | command
deriving DecidableEq, Repr

/-- The name records carry for the part they come from. -/
def Origin.name : Origin → Text
  | .engine => "uniinject".toList
  | .pages => "uniinject.pages".toList
  | .registration => "uniinject.register".toList
  | .command => "uniinject.cli".toList

/-- A note of something that was done or found. -/
structure Record where
  /-- How much it matters. -/
  level : Level
  /-- Where it comes from. -/
  origin : Origin
  /-- What it says. -/
  message : Text
deriving DecidableEq, Repr

/-- The records of at least a level. -/
def Record.atLeast (level : Level) (records : List Record) : List Record :=
  records.filter fun record => level.rank ≤ record.level.rank

end Graft
