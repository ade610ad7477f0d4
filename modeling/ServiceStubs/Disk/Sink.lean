import ServiceStubs.Disk.Basic
import ServiceStubs.Path
import ServiceStubs.Staging

/-!
# Writing units to a disk

Units are written as files of one directory, which is made first.  They are written one after
another: when one cannot be written, those before it stay.  A host may fail to make the directory
and may fail any write, so what it makes of each is given with the units.
-/

namespace ServiceStubs.Disk

/-- What a host makes of a text that is to be written to a file. -/
inductive WriteFate where
  | taken
  /-- The file is not opened. -/
  | refused (reason : String)
  /-- So many octets are in the file when the write fails. -/
  | stopped (count : Nat) (reason : String)
  /-- All octets are in the file when the flush fails. -/
  | unflushed (reason : String)
  deriving DecidableEq, Repr

/-- What a host makes of a directory that is to be made. -/
inductive DirectoryFate where
  | taken
  /-- So many steps of the way to it are made when the host fails. -/
  | refused (count : Nat) (reason : String)
  deriving DecidableEq, Repr

/-- What a host makes of units that are written: of their directory, and of the units in order.  What
is behind these is taken. -/
structure WriteFates where
  directory : DirectoryFate := .taken
  units : List WriteFate := []
  deriving DecidableEq, Repr

/-- The fault of a failed action on a path. -/
def refusal (action path reason : String) : Fault :=
  .io ("Failed to " ++ action ++ " " ++ path ++ ": " ++ reason)

/-- Writes a file, which ends with the given result if it can be created. -/
def fill (d : Disk) (path : String) (c : Content) (result : Except Fault Unit) :
    Except Fault Unit × Disk :=
  match d.writeFile path c with
  | .ok d => (result, d)
  | .error e => (.error (refusal "create file" path e.message), d)

/-- Writes a unit into a directory. -/
def writeUnit (d : Disk) (directory : String) (unit : GeneratedUnit) (fate : WriteFate) :
    Except Fault Unit × Disk :=
  let path := Path.join directory unit.name
  match fate with
  | .taken => d.fill path (.text unit.text) (.ok ())
  | .refused reason => (.error (refusal "create file" path reason), d)
  | .stopped count reason =>
    -- Creating a file takes away what was in it, also when no octet of the text follows.
    d.fill path (.ofBytes (unit.text.toUTF8.extract 0 count))
      (.error (refusal "write file" path reason))
  | .unflushed reason =>
    d.fill path (.text unit.text) (.error (refusal "flush file" path reason))

/-- Writes units into a directory that is there, up to the first that cannot be written.  The fates
are those of the units in order. -/
def writeEach (directory : String) :
    Disk → List GeneratedUnit → List WriteFate → Except Fault Unit × Disk
  | d, [], _ => (.ok (), d)
  | d, unit :: rest, fates =>
    match d.writeUnit directory unit (fates.headD .taken) with
    | (.ok (), d) => writeEach directory d rest fates.tail
    | failed => failed

/-- Makes the directory that units are written into. -/
def makeRoot (d : Disk) (directory : String) (fate : DirectoryFate) : Except Fault Unit × Disk :=
  match fate with
  | .taken =>
    match d.makeAll directory with
    | (.ok (), d) => (.ok (), d)
    | (.error e, d) => (.error (refusal "create directory" directory e.message), d)
  | .refused count reason =>
    let way := (steps directory).take count
    (.error (refusal "create directory" directory reason),
      (makeAllFuel (d.start directory) (way.length + 1) way d).2)

/-- Makes a directory and writes units into it. -/
def writeUnits (d : Disk) (directory : String) (units : List GeneratedUnit)
    (fates : WriteFates := {}) : Except Fault Unit × Disk :=
  match d.makeRoot directory fates.directory with
  | (.ok (), d) => writeEach directory d units fates.units
  | refused => refused

end ServiceStubs.Disk
