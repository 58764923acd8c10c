import SupplicantWatch.Text.Scan

/-!
# Directories

What the paths in and around a directory lead to: the names of a path are followed one by one, and
each but the last has to lead to a directory.
-/

namespace SupplicantWatch

inductive Entry where
  | file (bytes : List UInt8)
  | directory
deriving DecidableEq, Repr

def Entry.bytes? : Entry → Option (List UInt8)
  | file bytes => some bytes
  | directory => none

/-- A directory with its files and those of the directories in it, under their paths. -/
structure Directory where
  files : List (String × List UInt8)

namespace Directory

/-- The names that a path is made of. Empty names and single points lead nowhere else. -/
def namesOf (path : List Char) : List (List Char) :=
  (path.splitOn '/').filter fun name => !name.isEmpty && name != ['.']

/-- Whether a path says by its end that it leads to a directory. -/
def wantsDirectory (path : List Char) : Bool :=
  (path.splitOn '/').getLast?.any fun name => name.isEmpty || name == ['.']

/-- The name that leads from a directory to the one that holds it. -/
def above : List Char :=
  ['.', '.']

/-- What is at the end of some names, none of which leads upwards. -/
def at? (d : Directory) (names : List (List Char)) : Option Entry :=
  match d.files.find? fun file => namesOf file.1.toList == names with
  | some (_, bytes) => some (.file bytes)
  | none =>
    if names.isEmpty || d.files.any fun file => names.isPrefixOf (namesOf file.1.toList) then
      some .directory
    else none

/-- What some names lead to from a place in the directory, whose own names stand in reverse. Of what
is above the directory only the way up is known. -/
def walk? (d : Directory) (place : List (List Char)) : List (List Char) → Option Entry
  | [] => d.at? place.reverse
  | name :: names =>
    match d.at? place.reverse with
    | some .directory =>
      if name = above then
        match place with
        | [] => if names.all (· == above) then some .directory else none
        | _ :: place => walk? d place names
      else walk? d (name :: place) names
    | _ => none

/-- What is known outside of the directory: some directories of every system, and the empty
device. -/
def outside : List (String × Entry) :=
  [("/", .directory), ("/dev", .directory), ("/dev/null", .file []), ("/etc", .directory),
   ("/proc", .directory), ("/tmp", .directory), ("/usr", .directory), ("/var", .directory)]

def find? (d : Directory) (path : String) : Option Entry :=
  let entry : Option Entry := match path.toList with
    | [] => none
    | '/' :: path =>
      (outside.find? fun known => namesOf known.1.toList == namesOf path).map (·.2)
    | path => d.walk? [] (namesOf path)
  entry.filter fun entry => entry == .directory || !wantsDirectory path.toList

end Directory

end SupplicantWatch
