import DeviceStandby.Error

/-!
# The wake lock in files

The system is kept awake by writing the name of a lock to one file, and allowed to rest by writing it
to another.  A write begins at the start of the file and leaves what is beyond its end.  A file that
does not exist is not made.
-/

namespace DeviceStandby

/-- The two files, with what they hold, and the name of the lock. -/
structure LockFiles where
  name : List UInt8
  lock : Option (List UInt8)
  unlock : Option (List UInt8)
deriving DecidableEq, Repr

namespace LockFiles

/-- Whether both files are there. -/
def isSupported (files : LockFiles) : Bool := files.lock.isSome && files.unlock.isSome

/-- What a file holds after bytes were written to its start. -/
def overwrite (bytes held : List UInt8) : List UInt8 := bytes ++ held.drop bytes.length

/-- Writes the name to the first file. -/
def acquire (files : LockFiles) : Except HostError LockFiles :=
  match files.lock with
  | some held => .ok { files with lock := some (overwrite files.name held) }
  | none => .error (.wakeLock "no such file")

/-- Writes the name to the second file. -/
def release (files : LockFiles) : Except HostError LockFiles :=
  match files.unlock with
  | some held => .ok { files with unlock := some (overwrite files.name held) }
  | none => .error (.wakeLock "no such file")

end LockFiles

end DeviceStandby
