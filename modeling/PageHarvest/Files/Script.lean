/-!
Scripts: what a program does to files, step by step, without saying whose files
these are. Each step may fail, and what follows depends on how it went. A script
can be carried out on real files, on files in memory, and on files that fail as
one likes.
-/

namespace PageHarvest.Files

inductive Fault where
  | notFound
  | notDirectory
  | isDirectory
  | alreadyExists
  | nameTooLong
  | invalidName
  | other (message : String)
deriving DecidableEq, Repr

namespace Fault

def message : Fault → String
  | .notFound => "No such file or directory (os error 2)"
  | .alreadyExists => "File exists (os error 17)"
  | .notDirectory => "Not a directory (os error 20)"
  | .isDirectory => "Is a directory (os error 21)"
  | .nameTooLong => "File name too long (os error 36)"
  | .invalidName => "file name contained an unexpected NUL byte"
  | .other message => message

end Fault

/-- Steps on files that end with a value. -/
inductive Script (α : Type) where
  | done (value : α)
  /-- Reads a file. -/
  | read (path : String) (next : Except Fault (List UInt8) → Script α)
  /-- Looks whether there is something. -/
  | probe (path : String) (next : Bool → Script α)
  /-- Makes a directory and those above it, as far as they are missing. -/
  | makeDirectories (path : String) (next : Except Fault Unit → Script α)
  /-- Writes a file, in place of what was in it. -/
  | write (path : String) (bytes : List UInt8) (next : Except Fault Unit → Script α)
  /-- Moves a file, in place of the one that may stand there. -/
  | rename (source target : String) (next : Except Fault Unit → Script α)
  /-- Removes a file. -/
  | remove (path : String) (next : Except Fault Unit → Script α)

namespace Script

variable {α β : Type}

def bind (s : Script α) (f : α → Script β) : Script β :=
  match s with
  | .done value => f value
  | .read path next => .read path fun r => (next r).bind f
  | .probe path next => .probe path fun r => (next r).bind f
  | .makeDirectories path next => .makeDirectories path fun r => (next r).bind f
  | .write path bytes next => .write path bytes fun r => (next r).bind f
  | .rename source target next => .rename source target fun r => (next r).bind f
  | .remove path next => .remove path fun r => (next r).bind f

instance : Monad Script where
  pure := .done
  bind := .bind

def readFile (path : String) : Script (Except Fault (List UInt8)) := .read path .done

def doesExist (path : String) : Script Bool := .probe path .done

end Script

end PageHarvest.Files
