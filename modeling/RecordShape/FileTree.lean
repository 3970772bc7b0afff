import RecordShape.KeyMap

/-!
# Files

A folder holds files and folders by name. A path is a text of names with slashes between them; an
empty name and a single dot stay where they are and two dots go up. A path that begins with a slash
leads down from the root, and any other one from the folder that the program works in. Above the
root is the root again.
-/

namespace RecordShape

/-- Why a file cannot be read or written. -/
inductive FileError where
  | missing
  | notFolder
  | isFolder
  | other (reason : String)
  deriving DecidableEq

def FileError.message : FileError → String
  | missing => "No such file or directory (os error 2)"
  | notFolder => "Not a directory (os error 20)"
  | isFolder => "Is a directory (os error 21)"
  | other reason => reason

inductive FileTree where
  | file (text : String)
  | unreadable (error : FileError)
  | folder (entries : List (String × FileTree))

/-- What is found at a path. -/
abbrev Look := String → Except FileError FileTree

namespace FilePath

def names (path : String) : List String := (path.toList.splitOn '/').map String.ofList

def isAbsolute (path : String) : Bool := path.startsWith "/"

/-- The path of something inside a folder. -/
def join (folder inner : String) : String :=
  if folder.endsWith "/" then folder ++ inner else folder ++ "/" ++ inner

/-- The order of paths, name by name. -/
def isUpTo : List String → List String → Bool
  | [], _ => true
  | _ :: _, [] => false
  | a :: as, b :: bs => a < b || (a = b && isUpTo as bs)

/-- What follows the last dot of a name, unless the name begins with that dot. -/
def extension? (name : String) : Option String :=
  match (name.toList.splitOn '.').reverse with
  | ending :: stem :: rest =>
    if stem.isEmpty && rest.isEmpty then none else some (String.ofList ending)
  | _ => none

end FilePath

namespace FileTree

def text : FileTree → Except FileError String
  | file text => .ok text
  | unreadable error => .error error
  | folder _ => .error .isFolder

mutual
/-- The files at or below a node, each with the names that lead to it. -/
def files : FileTree → List (List String × FileTree)
  | file text => [([], file text)]
  | unreadable error => [([], unreadable error)]
  | folder entries => entryFiles entries

def entryFiles : List (String × FileTree) → List (List String × FileTree)
  | [] => []
  | (name, node) :: rest => node.files.map (fun f => (name :: f.1, f.2)) ++ entryFiles rest
end

def nodeAt? (root : FileTree) : List String → Option FileTree
  | [] => some root
  | name :: rest =>
    match root with
    | folder entries => (KeyMap.find? name entries).bind fun node => node.nodeAt? rest
    | _ => none

/-- The place that the names of a path lead to from some place in the tree. -/
def walk (root : FileTree) (place : List String) : List String → Except FileError (List String)
  | [] => .ok place
  | name :: rest =>
    match root.nodeAt? place with
    | some (folder entries) =>
      if name = "" ∨ name = "." then walk root place rest
      else if name = ".." then walk root place.dropLast rest
      else if (KeyMap.find? name entries).isSome then walk root (place ++ [name]) rest
      else .error .missing
    | _ => .error .notFolder

/-- Puts a node at a place. Folders are made on the way. -/
def put (node : FileTree) (root : FileTree) : List String → FileTree
  | [] => node
  | name :: rest =>
    match root with
    | folder entries =>
      folder (KeyMap.insert name
        (put node ((KeyMap.find? name entries).getD (folder [])) rest) entries)
    | _ => folder [(name, put node (folder []) rest)]

end FileTree

/-- All files there are, and the place of the folder that the program works in. -/
structure FileSystem where
  root : FileTree
  workplace : List String := []

/-- The only files are those in a folder for work; their paths are plain names and slashes. -/
def FileTree.ofFiles (files : List (String × String)) : FileSystem where
  root := files.foldl (fun root f => put (file f.2) root ("work" :: FilePath.names f.1))
    (folder [("work", folder [])])
  workplace := ["work"]

namespace FileSystem

/-- Where a path begins. -/
def start (system : FileSystem) (path : String) : List String :=
  if FilePath.isAbsolute path then [] else system.workplace

/-- What is found at a path. -/
def look (system : FileSystem) : Look := fun path =>
  if path.isEmpty then .error .missing
  else do
    let place ← system.root.walk (system.start path) (FilePath.names path)
    match system.root.nodeAt? place with
    | some node => .ok node
    | none => .error .missing

def read (system : FileSystem) (path : String) : Except FileError String :=
  system.look path >>= FileTree.text

/-- Writes a file. Its folder must be there. -/
def write (system : FileSystem) (path text : String) : Except FileError FileSystem :=
  match ((FilePath.names path).filter (· ≠ "")).reverse with
  | [] => .error (if path.isEmpty then .missing else .isFolder)
  | name :: above => do
    let place ← system.root.walk (system.start path) above.reverse
    match system.root.nodeAt? place with
    | some (.folder entries) =>
      if path.endsWith "/" || name = "." || name = ".." then .error .isFolder
      else
        match KeyMap.find? name entries with
        | some (.folder _) => .error .isFolder
        | _ => .ok { system with root := FileTree.put (.file text) system.root (place ++ [name]) }
    | _ => .error .notFolder

end FileSystem
end RecordShape
