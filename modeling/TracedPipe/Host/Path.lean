import TracedPipe.Errno
import TracedPipe.Text.Basic

/-!
# Files and paths

The files of a host, and the way from a path to one of them.
-/

namespace TracedPipe

/-!
## Nodes

What a path can name. Nodes are numbered in the order of their creation and are never taken away, so
that a file whose name is gone stays readable through the descriptors open on it.
-/

/-- The number of a node. -/
abbrev NodeId := Nat

/-- What a path can name. -/
inductive Node where
  /-- A regular file. -/
  | file (content : Bytes)
  /-- A directory, with its parent and its named entries. -/
  | directory (parent : NodeId) (entries : List (Bytes × NodeId))
  /-- A symbolic link. -/
  | link (target : Bytes)
  /-- A FIFO, with the bytes written and not yet read. -/
  | fifo (queue : Bytes)
  /-- A socket file, which cannot be opened by its path. -/
  | socket
  /-- The device without content. -/
  | nullDevice
  /-- The device of endless zeros. -/
  | zeroDevice
deriving DecidableEq, Repr

/-- Whether a node is a directory. -/
def Node.isDirectory : Node → Bool
  | .directory _ _ => true
  | _ => false

/-- Whether a node is a directory without entries. -/
def Node.isEmptyDirectory : Node → Bool
  | .directory _ [] => true
  | _ => false

/-- All nodes, each at its number. -/
abbrev Nodes := List Node

namespace Nodes

/-- The entry of a directory under a name. -/
def entry? (nodes : Nodes) (directory : NodeId) (name : Bytes) : Option NodeId :=
  match nodes[directory]? with
  | some (.directory _ entries) => entries.lookup name
  | _ => none

/-- The nodes with an entry in a directory, in place of any entry of the same name. -/
def addEntry (nodes : Nodes) (directory : NodeId) (name : Bytes) (id : NodeId) : Nodes :=
  nodes.modify directory fun
    | .directory parent entries => .directory parent ((name, id) :: entries.filter (·.1 ≠ name))
    | node => node

/-- The nodes without the entry of a directory under a name. -/
def removeEntry (nodes : Nodes) (directory : NodeId) (name : Bytes) : Nodes :=
  nodes.modify directory fun
    | .directory parent entries => .directory parent (entries.filter (·.1 ≠ name))
    | node => node

/-- The nodes with a directory moved below another parent. -/
def setParent (nodes : Nodes) (directory parent : NodeId) : Nodes :=
  nodes.modify directory fun
    | .directory _ entries => .directory parent entries
    | node => node

/-- Whether a directory is another one or lies below it, as far as `depth` steps up show. -/
def isWithin (nodes : Nodes) (ancestor : NodeId) : (depth : Nat) → NodeId → Bool
  | 0, id => id = ancestor
  | depth + 1, id =>
    id = ancestor ||
      match nodes[id]? with
      | some (.directory parent _) => isWithin nodes ancestor depth parent
      | _ => false

end Nodes

/-!
## Path resolution

A path is a row of names between slashes, walked from a directory. An empty name and `.` stand
for the directory the walk is at, so that repeated slashes are one slash and a slash at the end
asks for a directory. A symbolic link is replaced by the names of its target, at most
`Path.maxLinks` times in one walk.

`Path.walk` ends at the node a path names, or at a last name that has no entry yet, or with the
reason why it leads nowhere: something on the way is not a directory, a name is too long, a name is
missing, or there were too many links.
-/

namespace Path

/-- The byte between the names of a path. -/
def slash : UInt8 := 47

/-- The longest name. -/
def maxName : Nat := 255

/-- The longest path. -/
def maxLength : Nat := 4095

/-- How many links one walk follows. -/
def maxLinks : Nat := 40

/-- The names of a path. -/
def names : Bytes → List Bytes
  | [] => [[]]
  | b :: rest =>
    if b = slash then [] :: names rest
    else match names rest with
      | [] => [[b]]
      | name :: more => (b :: name) :: more

/-- The root directory. -/
def root : NodeId := 0

/-- Where the walk of a path starts: at the root if the path begins with a slash. -/
def start (here : NodeId) (path : Bytes) : NodeId :=
  if path.head? = some slash then root else here

/-- Where a walk ends. -/
inductive Found where
  /-- At a node. -/
  | node (id : NodeId)
  /-- At a last name that has no entry in its directory. -/
  | vacant (directory : NodeId) (name : Bytes)
deriving DecidableEq, Repr

/-- The node a walk ends at; a name without an entry is missing. -/
def Found.existing : Found → Except Errno NodeId
  | .node id => .ok id
  | .vacant _ _ => .error .noEntry

/-- Walks names from a node, giving a link's target and the names after it to `onLink`. -/
def walkNames (nodes : Nodes) (onLink : NodeId → List Bytes → Except Errno Found) :
    NodeId → List Bytes → Except Errno Found
  | here, [] => .ok (.node here)
  | here, name :: rest =>
    match nodes[here]? with
    | some (.directory parent entries) =>
      -- Even a name that stays here asks for a directory to stay in.
      if name = [] ∨ name = ascii "." then walkNames nodes onLink here rest
      else if name = ascii ".." then walkNames nodes onLink parent rest
      else if maxName < name.length then .error .nameTooLong
      else match entries.lookup name with
        | none => if rest = [] then .ok (.vacant here name) else .error .noEntry
        | some id =>
          match nodes[id]? with
          | some (.link target) => onLink (start here target) (names target ++ rest)
          | _ => walkNames nodes onLink id rest
    | _ => .error .notDirectory

/-- **Where a row of names leads,** following at most `links` links. -/
def walk (nodes : Nodes) : (links : Nat) → NodeId → List Bytes → Except Errno Found
  | 0 => walkNames nodes fun _ _ => .error .tooManyLinks
  | links + 1 => walkNames nodes (walk nodes links)

/-- Where a path leads, seen from the directory `here`. -/
def find (nodes : Nodes) (here : NodeId) (path : Bytes) : Except Errno Found :=
  if path = [] then .error .noEntry
  else if maxLength < path.length then .error .nameTooLong
  else walk nodes maxLinks (start here path) (names path)

/-- **The node a path names,** seen from the directory `here`. -/
def resolve (nodes : Nodes) (here : NodeId) (path : Bytes) : Except Errno NodeId :=
  match find nodes here path with
  | .ok found => found.existing
  | .error e => .error e

/-- The directory of a path and its last name, whatever that name stands for; slashes at the end are
dropped. A last name that stands for a directory by itself, or is too long, has no place. -/
def place? (nodes : Nodes) (here : NodeId) (path : Bytes) : Option (NodeId × Bytes) :=
  let parts := ((names path).reverse.dropWhile (· = [])).reverse
  match parts.getLast? with
  | none => none
  | some name =>
    if name = ascii "." ∨ name = ascii ".." ∨ maxName < name.length ∨ maxLength < path.length then
      none
    else
      -- The empty name after the others makes sure that they lead to a directory.
      match walk nodes maxLinks (start here path) (parts.dropLast ++ [[]]) with
      | .ok (.node directory) => some (directory, name)
      | _ => none

end Path

end TracedPipe
