import Jukebox.Text.Utf8

/-!
# Directories

A directory that holds files and folders by name. Nothing is known of what is in a folder.

## Main definitions

* `Jukebox.Directory`: the entries of a directory, in the order in which they are listed.
* `Jukebox.Directory.readText`: the text of a file.
* `Jukebox.Directory.save`: writes a file under a temporary name and then moves it into place.
* `Jukebox.Directory.removeFile?`: removes a file.
-/

namespace Jukebox

/-- An entry of a directory. -/
inductive Directory.Entry where
  | file (content : Bytes)
  | folder

/-- The entries of a directory, in the order in which they are listed. -/
structure Directory where
  entries : List (String × Directory.Entry) := []

namespace Directory

/-- What comes of reading a file. -/
inductive Reading where
  | missing
  | unreadable
  | text (s : String)

def find? (name : String) (d : Directory) : Option Entry :=
  d.entries.lookup name

/-- The names of the entries. -/
def names (d : Directory) : List String :=
  d.entries.map Prod.fst

/-- The directory without the entry of a name. -/
def erase (name : String) (d : Directory) : Directory :=
  ⟨d.entries.filter fun e => e.1 ≠ name⟩

def put (name : String) (entry : Entry) (d : Directory) : Directory :=
  if (d.find? name).isSome then
    ⟨d.entries.map fun e => if e.1 = name then (name, entry) else e⟩
  else ⟨d.entries ++ [(name, entry)]⟩

/-- Reads the text of a file. A folder cannot be read, nor can bytes that are no text. -/
def readText (name : String) (d : Directory) : Reading :=
  match d.find? name with
  | none => .missing
  | some .folder => .unreadable
  | some (.file content) =>
    match content.toString? with
    | some s => .text s
    | none => .unreadable

/-- Writes a file, unless there is a folder of its name. -/
def write? (name : String) (content : Bytes) (d : Directory) : Option Directory :=
  match d.find? name with
  | some .folder => none
  | _ => some (d.put name (.file content))

/-- Moves an entry in place of another one, which may not be a folder. -/
def move? (source target : String) (d : Directory) : Option Directory :=
  match d.find? source, d.find? target with
  | none, _ | _, some .folder => none
  | some entry, _ => some ((d.erase source).put target entry)

/-- Writes a file under a temporary name and then moves it into place. What was written stays under the
temporary name if it cannot be moved. The first component tells whether the file is in place. -/
def save (name temporary : String) (content : Bytes) (d : Directory) : Bool × Directory :=
  match d.write? temporary content with
  | none => (false, d)
  | some written =>
    match written.move? temporary name with
    | none => (false, written)
    | some moved => (true, moved)

/-- Removes a file. A folder stays. -/
def removeFile? (name : String) (d : Directory) : Option Directory :=
  match d.find? name with
  | some (.file _) => some (d.erase name)
  | _ => none

end Directory

end Jukebox
