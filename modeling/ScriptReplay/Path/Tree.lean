import ScriptReplay.Path.System

/-!
# File trees

A file system: files and directories by the names that lead to them from its root, and a working
directory, where relative paths begin. `find` walks a path name by name, as the system does, so two
dots after a name need a directory of that name.
-/

namespace ScriptReplay

/-- A file with its content, or a directory. -/
inductive FileTree.Entry
  | file (content : List UInt8)
  | directory
  deriving Repr, DecidableEq

/-- A text that can be the name of an entry of a directory. -/
def FileTree.IsEntryName (name : String) : Prop :=
  Path.IsName name ∧ name ≠ ".." ∧ '\x00' ∉ name.toList

instance : DecidablePred FileTree.IsEntryName := fun _ => inferInstanceAs (Decidable (_ ∧ _ ∧ _))

theorem FileTree.isEntryName_of_mem_nil : ∀ name ∈ ([] : List String), IsEntryName name :=
  List.forall_mem_nil _

theorem FileTree.isEntryName_of_no_entry :
    ∀ entry ∈ ([] : List (List String × Entry)), ∀ name ∈ entry.1, IsEntryName name :=
  List.forall_mem_nil _

theorem FileTree.nodup_of_no_entry :
    (([] : List (List String × Entry)).map Prod.fst).Nodup :=
  List.nodup_nil

/-- The files and directories of a file system, and its working directory. The root is a directory
without an entry of its own. An entry is there once, and has a name by which it can be reached. A
tree that is written out has this decided. -/
structure FileTree where
  home : List String := []
  entries : List (List String × FileTree.Entry) := []
  home_names : ∀ name ∈ home, FileTree.IsEntryName name := by
    first | exact FileTree.isEntryName_of_mem_nil | decide
  entry_names : ∀ entry ∈ entries, ∀ name ∈ entry.1, FileTree.IsEntryName name := by
    first | exact FileTree.isEntryName_of_no_entry | decide
  nodup : (entries.map Prod.fst).Nodup := by
    first | exact FileTree.nodup_of_no_entry | decide
  deriving Repr, DecidableEq

namespace FileTree

/-- What the names from the root lead to. -/
def entryAt (tree : FileTree) (names : List String) : Option Entry :=
  if names.isEmpty then some .directory else tree.entries.lookup names

/-- The longest name the file system takes, in bytes. -/
def longestName : Nat := 255

/-- The length at which a whole path is too long, in bytes. -/
def pathLimit : Nat := 4096

/-- Walks on from a place name by name: the place reached and what is there. The parent of the root
is the root. -/
def walk (tree : FileTree) : List String → Entry → List String →
    Except SystemError.Reason (List String × Entry)
  | place, entry, [] => .ok (place, entry)
  | _, .file _, _ :: _ => .error .notDirectory
  | place, .directory, name :: rest =>
    if name == ".." then tree.walk place.dropLast .directory rest
    else if longestName < name.utf8ByteSize then .error .nameTooLong
    else
      match tree.entryAt (place ++ [name]) with
      | none => .error .notFound
      | some entry => tree.walk (place ++ [name]) entry rest

/-- The place where a walk along a path begins. -/
def startOf (tree : FileTree) (path : Path) : List String :=
  match path.root with
  | .relative => tree.home
  | .slash | .doubleSlash => []

/-- The place a path leads to, and what is there. -/
def find (tree : FileTree) (path : Path) : Except SystemError (List String × Entry) :=
  if pathLimit ≤ path.toString.utf8ByteSize then .error ⟨.nameTooLong, path⟩
  else
    match tree.walk (tree.startOf path) .directory path.parts with
    | .ok found => .ok found
    | .error reason => .error ⟨reason, path⟩

/-- The content of the file a path leads to. -/
def read (tree : FileTree) (path : Path) : Except SystemError (List UInt8) :=
  match tree.find path with
  | .ok (_, .file content) => .ok content
  | .ok (_, .directory) => .error ⟨.isDirectory, path⟩
  | .error error => .error error

/-- Whether a path holds the character that no path may hold. -/
def holdsNul (path : Path) : Bool :=
  path.parts.any fun part => part.toList.contains '\x00'

/-- What a path leads to: nothing if it leads nowhere. Only a name that is too long is an error. -/
def entry? (tree : FileTree) (path : Path) : Except SystemError (Option Entry) :=
  if holdsNul path then .ok none
  else
    match tree.find path with
    | .ok (_, entry) => .ok (some entry)
    | .error error => if error.reason == .nameTooLong then .error error else .ok none

/-- The names in the directory that a path leads to. -/
def names (tree : FileTree) (path : Path) : List String :=
  match tree.find path with
  | .ok (place, .directory) =>
    tree.entries.filterMap fun (entry, _) =>
      if place.isPrefixOf entry && entry.length == place.length + 1 then entry.getLast? else none
  | _ => []

/-- The directories below the directory that a path leads to, by the names that lead to them. -/
def directoriesBelow (tree : FileTree) (path : Path) : List (List String) :=
  match tree.find path with
  | .ok (place, .directory) =>
    tree.entries.filterMap fun (entry, kind) =>
      if kind == .directory && place.isPrefixOf entry && place.length < entry.length
      then some (entry.drop place.length) else none
  | _ => []

/-- Takes out what the given names lead to. -/
def without (tree : FileTree) (names : List String) : FileTree :=
  { tree with
    entries := tree.entries.filter (·.1 != names)
    entry_names := fun entry h => tree.entry_names entry (List.mem_filter.1 h).1
    nodup := tree.nodup.sublist (List.filter_sublist.map _) }

/-- Where nothing has the given names, an entry with them is the only one. -/
theorem nodup_set (tree : FileTree) (names : List String) (entry : Entry) :
    (((tree.without names).entries ++ [(names, entry)]).map Prod.fst).Nodup := by
  rw [List.map_append, List.nodup_append]
  refine ⟨(tree.without names).nodup, List.pairwise_singleton _ _, ?_⟩
  rintro other hother new hnew rfl
  obtain ⟨old, hold, holdNames⟩ := List.mem_map.1 hother
  have hnewNames : other = names := List.mem_singleton.1 hnew
  have hne := (List.mem_filter.1 hold).2
  rw [holdNames, hnewNames, bne_self_eq_false] at hne
  cases hne

/-- Sets what the given names lead to, if an entry can have them. -/
def set (tree : FileTree) (names : List String) (entry : Entry) : FileTree :=
  if hnames : ∀ name ∈ names, IsEntryName name then
    { tree with
      entries := (tree.without names).entries ++ [(names, entry)]
      entry_names := List.forall_mem_append.2
        ⟨(tree.without names).entry_names, List.forall_mem_singleton.2 hnames⟩
      nodup := tree.nodup_set names entry }
  else tree

/-- Makes the directories that lead to the given names. -/
def makeParents (tree : FileTree) (names : List String) : FileTree :=
  (List.range names.length).foldl
    (fun tree count =>
      let parent := names.take count
      if (tree.entryAt parent).isSome then tree else tree.set parent .directory)
    tree

/-- The names from the root that a path stands for where no name on the way is a file or missing. -/
def namesOf (tree : FileTree) (path : Path) : List String :=
  path.parts.foldl (fun place name => if name == ".." then place.dropLast else place ++ [name])
    (tree.startOf path)

/-- Puts a file or a directory at a path, making the directories on the way. A name that no entry
can have is not made. -/
def put (tree : FileTree) (path : Path) (entry : Entry) : FileTree :=
  let names := tree.namesOf path
  (tree.makeParents names).set names entry

/-- Removes the file at a path. -/
def remove (tree : FileTree) (path : Path) : FileTree :=
  tree.without (tree.namesOf path)

/-- The file system that holds only a working directory and the directories above it, if it can be
one. -/
def workingIn (home : List String) : FileTree :=
  if home_names : ∀ name ∈ home, IsEntryName name then
    let tree : FileTree := { home, home_names }
    (tree.makeParents home).set home .directory
  else {}

/-- The directories on the way to a path. -/
def waysTo (path : Path) : List Path :=
  (List.range path.parts.length).map fun count => { path with parts := path.parts.take count }

/-- A file system with one thing in it, and the directories on the way to it. -/
def holding (path : Path) (entry : Entry) : FileTree :=
  let ways : FileTree := (waysTo path).foldl (fun tree way => tree.put way .directory) {}
  ways.put path entry

/-- A file system in which reading a path ends in a known way. -/
def ofReading (path : Path) : Except SystemError.Reason (List UInt8) → FileTree
  | .ok content => holding path (.file content)
  | .error .isDirectory => holding path .directory
  | .error .notDirectory => holding { path with parts := path.parts.take 1 } (.file [])
  | .error .notFound | .error .nameTooLong => {}

end FileTree

end ScriptReplay
