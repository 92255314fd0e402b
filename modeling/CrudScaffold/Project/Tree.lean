import CrudScaffold.Error
import CrudScaffold.Text.Basic

/-! The files of a project, as a value: every file with its content, and the directories made
explicitly. A path is the list of its components from the project root; a directory also
exists when some file or directory lies under it.

The operations behave as a POSIX file system does. Making a directory fails on a file in the
way ("Not a directory") or a file in its place ("File exists"); writing a file makes its
directory first and fails on a directory in its place ("Is a directory"). Errors name the
path as `<root>/` followed by the path as it was written. -/

namespace CrudScaffold

/-- The components of a path written with `/`: empty components and `.` are dropped. -/
def pathComponents (path : String) : List String :=
  (Text.split path '/').filter fun c => !c.isEmpty && c != "."

/-- Joins a file name to a directory path as written: nothing is added after an empty
directory or one that ends with `/`. -/
def joinPath (dir file : String) : String :=
  if dir.isEmpty then file
  else if dir.endsWith "/" then dir ++ file
  else dir ++ "/" ++ file

/-- Drops from the front of a reversed path the slashes and the `.` components that end the
path, which name no entry of their own. -/
def dropTrailingDots : List Char → List Char
  | '/' :: cs => dropTrailingDots cs
  | '.' :: '/' :: cs => dropTrailingDots cs
  | cs => cs

/-- The directory of a path as written: the text before its last component, without the
slashes and `.` components that end either of them. -/
def parentPath (path : String) : String :=
  let cs := dropTrailingDots path.toList.reverse
  String.ofList (dropTrailingDots (cs.dropWhile (· != '/'))).reverse

/-- How errors name a path of the project. -/
def rootedPath (path : String) : String :=
  if path.isEmpty then "<root>" else joinPath "<root>" path

/-- The files and directories of a project. -/
structure Project where
  /-- Every file with its content. -/
  files : List (List String × String) := []
  /-- Directories made explicitly; their ancestors exist as well. -/
  dirs : List (List String) := []

namespace Project

/-- The content of the file at a path. -/
def file? (t : Project) (p : List String) : Option String :=
  (t.files.find? (·.1 == p)).map (·.2)

/-- Whether a file is at a path. -/
def isFile (t : Project) (p : List String) : Bool := (t.file? p).isSome

/-- Whether `p` lies strictly above `q`. -/
def isAbove (p q : List String) : Bool := p.length < q.length && p.isPrefixOf q

/-- Whether a directory is at a path: the root, a directory made explicitly, or one above a
file or a directory. -/
def isDir (t : Project) (p : List String) : Bool :=
  p.isEmpty || t.dirs.contains p || t.files.any (isAbove p ·.1) || t.dirs.any (isAbove p)

/-- Whether anything is at a path. -/
def present (t : Project) (p : List String) : Bool := t.isFile p || t.isDir p

/-- Makes a directory and the directories above it. A file above it gives "Not a directory",
a file at its place "File exists". -/
def makeDirs (t : Project) (p : List String) : Except IoFailure Project :=
  if ((List.range p.length).map fun i => p.take i).any t.isFile then .error .notADirectory
  else if t.isFile p then .error .fileExists
  else if t.isDir p then .ok t
  else .ok { t with dirs := t.dirs ++ [p] }

/-- Sets the content of the file at a path. -/
def put (t : Project) (p : List String) (content : String) : Project :=
  if t.isFile p then { t with files := t.files.map fun e => if e.1 == p then (p, content) else e }
  else { t with files := t.files ++ [(p, content)] }

/-- Writes a whole file at a path written as `path`: its directory is made first (errors name
the directory), then the content replaces whatever file was there. A directory in its place
refuses the write. -/
def write (t : Project) (path : String) (content : String) : Except ScaffoldError Project :=
  let p := pathComponents path
  match t.makeDirs p.dropLast with
  | .error e => .error (.io (parentPath (rootedPath path)) e)
  | .ok t =>
    if t.isDir p then .error (.io (rootedPath path) .isADirectory)
    else .ok (t.put p content)

/-- Reads the file at a path written as `path`, if anything is there: a directory cannot be
read. -/
def read? (t : Project) (path : String) : Except ScaffoldError (Option String) :=
  let p := pathComponents path
  match t.file? p with
  | some content => .ok (some content)
  | none => if t.isDir p then .error (.io (rootedPath path) .isADirectory) else .ok none

/-- The names of the entries directly inside a directory; none when it is not one. -/
def entries (t : Project) (dir : List String) : List String :=
  if !t.isDir dir then []
  else
    let below := (t.files.map (·.1)) ++ t.dirs
    (below.filterMap fun q =>
      if dir.isPrefixOf q && dir.length < q.length then q[dir.length]? else none).eraseDups

/-- Every file path with its content, paths written with `/`, in sorted order. -/
def listing (t : Project) : List (String × String) :=
  (t.files.map fun (p, c) => ("/".intercalate p, c)).mergeSort fun a b => decide (a.1 ≤ b.1)

end Project

end CrudScaffold
