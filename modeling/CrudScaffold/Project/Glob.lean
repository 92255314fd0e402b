import CrudScaffold.Generator

/-! The lookup of an earlier migration on the machine's file system. The generator finds the
migration that stands for a new one with the glob crate: the migration's directory and the part
of its name after the stamp are escaped, the stamp is written with `?` wildcards, and the file
system puts its root, escaped as well, in front of the pattern. The paths that match come back
relative to the root; they are sorted and the first is taken.

The glob crate is not part of the program, so it is a parameter here (`GlobCrate`). Paths are
read, compared and ordered by their components, as `std::path` does on Unix. -/

namespace CrudScaffold

/-- A component of a path, as `Path::components` reads it on Unix. -/
inductive PathComponent where
  /-- The `/` that starts an absolute path. -/
  | rootDir
  /-- A `.` that starts a relative path. -/
  | curDir
  /-- `..` -/
  | parentDir
  /-- Any other piece between separators. -/
  | normal (name : String)
deriving DecidableEq, Repr

namespace PathComponent

/-- What a piece of a path between two separators stands for past the path's start: an empty
piece and `.` stand for nothing. -/
def ofPiece (piece : String) : Option PathComponent :=
  if piece = "" ∨ piece = "." then none
  else if piece = ".." then some .parentDir
  else some (.normal piece)

/-- The order of the kinds of component: the root, `.`, `..`, then names. -/
def rank : PathComponent → Nat
  | .rootDir => 0
  | .curDir => 1
  | .parentDir => 2
  | .normal _ => 3

/-- `a ≤ b` as `Ord for Component` has it. Names compare by their bytes, which for UTF-8 is the
order of their code points. -/
def le : PathComponent → PathComponent → Bool
  | .normal a, .normal b => decide (a ≤ b)
  | a, b => decide (a.rank ≤ b.rank)

end PathComponent

namespace Path

/-- Whether a path starts at the root. -/
def isAbsolute (s : String) : Bool :=
  s.toList.head? == some '/'

/-- Whether a path starts with a `.` component, which `Path::components` yields as `CurDir`. -/
def startsAtCurrent (s : String) : Bool :=
  match s.toList with
  | ['.'] => true
  | '.' :: '/' :: _ => true
  | _ => false

/-- The components of a path past a leading `.`: the root, then what the pieces stand for. -/
def listed (s : String) : List PathComponent :=
  (if isAbsolute s then [.rootDir] else []) ++ (Text.split s '/').filterMap PathComponent.ofPiece

/-- `Path::components`. -/
def components (s : String) : List PathComponent :=
  (if startsAtCurrent s then [.curDir] else []) ++ listed s

/-- `Path::join`: a path that starts at the root replaces the base. -/
def join (base path : String) : String :=
  if isAbsolute path then path else joinPath base path

/-- `Path::file_name`: the last component, when it is a name. -/
def fileName (s : String) : Option String :=
  match (components s).getLast? with
  | some (.normal n) => some n
  | _ => none

/-- Drops the pieces at the end that stand for no component. -/
def dropEmptyPieces (pieces : List String) : List String :=
  (pieces.reverse.dropWhile fun p => (PathComponent.ofPiece p).isNone).reverse

/-- The characters of a path's start: the root, or a leading `.`. -/
def startLength (s : String) : Nat :=
  if isAbsolute s || startsAtCurrent s then 1 else 0

/-- A path past its start. -/
def body (s : String) : String :=
  String.ofList (s.toList.drop (startLength s))

/-- `path.parent().unwrap_or("")`: the text before the last component, less the separators and
`.` pieces that end it. The path's start stays; a path with no component past its start has
the empty path. -/
def parentOrEmpty (s : String) : String :=
  let upToLast := dropEmptyPieces (Text.split (body s) '/')
  if upToLast.isEmpty then ""
  else String.ofList (s.toList.take (startLength s)) ++
    "/".intercalate (dropEmptyPieces upToLast.dropLast)

/-- `Path::strip_prefix`: what follows `base` when the path starts with its components. -/
def stripPrefix (base p : List PathComponent) : Option (List PathComponent) :=
  if base.isPrefixOf p then some (p.drop base.length) else none

/-- `p ≤ q` as `Ord for Path` has it: component by component, a path before its extensions. -/
def le : List PathComponent → List PathComponent → Bool
  | [], _ => true
  | _ :: _, [] => false
  | a :: as, b :: bs => if a = b then le as bs else a.le b

end Path

/-- `str::get(n..)` on a text given by its characters: the characters from byte `n` on, or none
when byte `n` falls inside a character or past the end. -/
def dropBytes : Nat → List Char → Option (List Char)
  | 0, cs => some cs
  | _ + 1, [] => none
  | n + 1, c :: cs => if c.utf8Size ≤ n + 1 then dropBytes (n + 1 - c.utf8Size) cs else none

/-- What the lookup uses of the glob crate, on texts given by their characters. -/
structure GlobCrate where
  /-- `Pattern::escape` -/
  escape : List Char → List Char
  /-- `glob::glob` run on the machine's files: the components of each path it lists, or the
  crate's wording of the pattern's fault. -/
  glob : List Char → Except String (List (List PathComponent))

/-- Bytes of a migration's name that hold its stamp and the underscore after it
(`MIGRATION_PREFIX_LEN`). -/
def migrationPrefixLength : Nat := 18

/-- The stamp as the lookup writes it in a pattern: a wildcard for each digit. -/
def stampPattern : List Char :=
  "????_??_??_??????_".toList

/-- A local file system: the project's files lie under `root`. -/
structure LocalFilesystem where
  root : String

namespace LocalFilesystem

/-- `LocalFilesystem::glob`: the root, escaped, goes in front of the pattern, and each path
listed is given relative to the root when it starts with the root's components. -/
def glob (fs : LocalFilesystem) (G : GlobCrate) (pattern : String) :
    Except String (List (List PathComponent)) :=
  match G.glob (Path.join (String.ofList (G.escape fs.root.toList)) pattern).toList with
  | .error e => .error ("Invalid glob pattern: " ++ e)
  | .ok paths => .ok (paths.map fun p => (Path.stripPrefix (Path.components fs.root) p).getD p)

/-- `Generator::existing_migration`: the first, in path order, of the entries of the directory
of `path` whose name is a stamp followed by the part of the path's name after its stamp. A name
without a whole character at the end of its stamp has none. -/
def existingMigration (fs : LocalFilesystem) (G : GlobCrate) (path : String) :
    Except String (Option (List PathComponent)) :=
  match Path.fileName path with
  | none => .ok none
  | some name =>
    match dropBytes migrationPrefixLength name.toList with
    | none => .ok none
    | some suffix =>
      let dir := Path.parentOrEmpty path
      let pattern := Path.join (String.ofList (G.escape dir.toList))
        (String.ofList (stampPattern ++ G.escape suffix))
      match fs.glob G pattern with
      | .error e => .error e
      | .ok found => .ok (found.mergeSort Path.le).head?

end LocalFilesystem

end CrudScaffold
