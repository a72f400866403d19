import JFlexReport.Path

/-!
File trees and the way in which paths lead through them. A path is walked one step at a
time, as an operating system walks it: every step but the last must find a directory, an
idle step stays where it is but still needs one, and two points lead to the directory
above. So a path with a missing directory in it leads nowhere, even where later steps would
leave that directory again.
-/

namespace JFlexReport

inductive LookupError
  | notFound
  | notDirectory
  | denied
  | nameTooLong
  | nul
  | other (reason : String)
  deriving DecidableEq

def LookupError.message : LookupError → String
  | .notFound => "No such file or directory (os error 2)"
  | .notDirectory => "Not a directory (os error 20)"
  | .denied => "Permission denied (os error 13)"
  | .nameTooLong => "File name too long (os error 36)"
  | .nul => "file name contained an unexpected NUL byte"
  | .other reason => reason

/-- What opening a file gives. A file that is there need not be one that may be read. -/
abbrev Content := Except LookupError (List UInt8)

/-- A device can be read like a file, but is none. -/
inductive FileTree
  | file (content : Content)
  | device (content : Content)
  | directory (entries : List (String × FileTree))

namespace FileTree

def empty : FileTree := .directory []

def entries : FileTree → List (String × FileTree)
  | .directory es => es
  | _ => []

def child? (t : FileTree) (name : String) : Option FileTree := t.entries.lookup name

def isFile : FileTree → Bool
  | .file _ => true
  | _ => false

def isDirectory : FileTree → Bool
  | .directory _ => true
  | _ => false

def setChild (t : FileTree) (name : String) (new : FileTree) : FileTree :=
  .directory ((name, new) :: t.entries.filter fun e => e.1 ≠ name)

/-- Puts something at the end of a list of names; missing directories are made. -/
def put (new : FileTree) : List String → FileTree → FileTree
  | [], _ => new
  | n :: ns, t => t.setChild n (put new ns ((t.child? n).getD empty))

def makeDirectories : List String → FileTree → FileTree
  | [], t => t
  | n :: ns, t => t.setChild n (makeDirectories ns ((t.child? n).getD empty))

def remove : List String → FileTree → FileTree
  | [], t => t
  | [n], t => .directory (t.entries.filter fun e => e.1 ≠ n)
  | n :: ns, t =>
    match t.child? n with
    | some sub => t.setChild n (remove ns sub)
    | none => t

end FileTree

/-- The longest name of a directory entry, in bytes. -/
def longestName : Nat := 255

/-- The longest path, in bytes. -/
def longestPath : Nat := 4095

/-- A place in a tree: what stands there, and the way up, each directory with the name that
leads down from it. -/
structure Place where
  here : FileTree
  above : List (String × FileTree) := []

namespace Place

/-- The directory above. The root lies in itself. -/
def up (p : Place) : Place :=
  match p.above with
  | [] => p
  | (_, t) :: rest => { here := t, above := rest }

def enter (p : Place) (name : String) : Except LookupError Place :=
  match p.here with
  | .file _ | .device _ => .error .notDirectory
  | .directory es =>
    if name = "" ∨ name = "." then .ok p
    else if name = ".." then .ok p.up
    else if longestName < name.utf8ByteSize then .error .nameTooLong
    else
      match es.lookup name with
      | some t => .ok { here := t, above := (name, p.here) :: p.above }
      | none => .error .notFound

def walk (p : Place) (names : List String) : Except LookupError Place :=
  names.foldlM enter p

def root (p : Place) : Place :=
  match p.above.getLast? with
  | some (_, t) => { here := t }
  | none => p

/-- The place that a path leads to. -/
def resolve (p : Place) (path : Path) : Except LookupError Place :=
  if '\x00' ∈ path.text.toList then .error .nul
  else if path.text.isEmpty then .error .notFound
  else if longestPath < path.text.utf8ByteSize then .error .nameTooLong
  else (if path.isAbsolute then p.root else p).walk path.steps

/-- The absolute path of the place, free of idle steps. -/
def path (p : Place) : Path :=
  match p.above with
  | [] => ⟨"/"⟩
  | steps => ⟨steps.reverse.foldl (fun s (name, _) => s ++ "/" ++ name) ""⟩

end Place

/-- What a program sees of the files around it. -/
abbrev FileView := Path → Except LookupError FileTree

def Place.view (p : Place) : FileView := fun path => (p.resolve path).map Place.here

namespace FileView

def isFile (v : FileView) (p : Path) : Bool :=
  match v p with
  | .ok t => t.isFile
  | .error _ => false

def isDirectory (v : FileView) (p : Path) : Bool :=
  match v p with
  | .ok t => t.isDirectory
  | .error _ => false

end FileView

inductive ReadError
  | lookup (e : LookupError)
  | isDirectory
  | notUtf8
  deriving DecidableEq

def ReadError.message : ReadError → String
  | .lookup e => e.message
  | .isDirectory => "Is a directory (os error 21)"
  | .notUtf8 => "stream did not contain valid UTF-8"

def FileView.readBytes (v : FileView) (p : Path) : Except ReadError (List UInt8) :=
  match v p with
  | .ok (.file content) | .ok (.device content) => content.mapError .lookup
  | .ok (.directory _) => .error .isDirectory
  | .error e => .error (.lookup e)

end JFlexReport
