import FixturePragmas.Files

/-!
# File trees

A tree of directories and files held in memory, and the file system it makes up. A path is followed
name by name: each step needs a directory to start from, a name that is not too long, and an entry
of that name. Above the top of the tree there are only directories, and nothing in them is known.
-/

namespace FixturePragmas

/-- A file with its bytes, or a directory with its entries. -/
inductive FileTree where
  | file (bytes : List UInt8)
  | directory (entries : List (String × FileTree))

namespace FileTree

/-- The longest name of a directory entry, in bytes. -/
def nameLimit : Nat := 255

/-- The entries of a tree: a file has none. -/
def entries : FileTree → List (String × FileTree)
  | .file _ => []
  | .directory es => es

/-- The entry called `name`. -/
def entry? (t : FileTree) (name : String) : Option FileTree := t.entries.lookup name

/-- The tree with `t'` under `name`, in place of what was there. -/
def setEntry (t : FileTree) (name : String) (t' : FileTree) : FileTree :=
  .directory ((t.entries.filter (·.1 ≠ name)) ++ [(name, t')])

/-- The tree with `t'` at the end of the names `ns`; directories on the way are made. -/
def put (t : FileTree) : (ns : List String) → (t' : FileTree) → FileTree
  | [], t' => t'
  | n :: ns, t' => t.setEntry n (put ((t.entry? n).getD (.directory [])) ns t')

/-- Follow `ns` from `t`, which lies below `above`, nearest first. -/
def follow (above : List FileTree) (t : FileTree) : List String → Except FileFault FileTree
  | [] => .ok t
  | n :: ns =>
    match t with
    | .file _ => .error .notADirectory
    | .directory _ =>
      -- two dots need a directory to start from, like a name
      if n = ".." then
        -- above the top there is no tree that could be followed
        match above with
        | [] => follow [] (.directory []) ns
        | up :: above' => follow above' up ns
      else if nameLimit < n.utf8ByteSize then .error .nameTooLong
      else
        match t.entry? n with
        | none => .error .notFound
        | some t' => follow (t :: above) t' ns

/-- What a path leads to, when the tree `t` is the directory `dir`. -/
def resolve (t : FileTree) (dir p : Path) : Except FileFault FileTree :=
  if Path.isTooLong p.toString then .error .nameTooLong
  else
    match dir.namesFrom? p with
    | some ns => follow [] t ns
    -- `p` does not lie in `dir`: it is relative and starts there, or it starts above the tree
    | none =>
      if p.root = .relative then follow [] t p.names else follow [] (.directory []) p.names

/-- The file system in which the tree `t` is the working directory, called `dir`. -/
def toFileSystem (t : FileTree) (dir : Path) : FileSystem where
  workingDirectory := dir
  kind p := (t.resolve dir p).map fun
    | .file _ => .file
    | .directory _ => .directory
  bytes p :=
    match t.resolve dir p with
    | .error fault => .error fault
    | .ok (.file bytes) => .ok bytes
    | .ok (.directory _) => .error .isADirectory

end FileTree

end FixturePragmas
