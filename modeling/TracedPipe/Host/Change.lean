import TracedPipe.Host.Calls

/-!
# Changes from outside

What others do to the files while a session runs: they make, change, rename and remove files,
and they write into FIFOs. A change that cannot be made, such as one below a missing directory,
leaves the host as it is.
-/

namespace TracedPipe

/-- A change made to the host from outside. -/
inductive Change where
  /-- Creates a file, or empties it, and writes it; a FIFO is written to. -/
  | file (path data : Bytes)
  /-- Writes at the end of a file, creating it if it is missing; a FIFO is written to. -/
  | append (path data : Bytes)
  /-- Writes over a file that exists, from an offset on. -/
  | overwrite (path : Bytes) (offset : Nat) (data : Bytes)
  /-- Cuts off a file that exists, or extends it with zeros. -/
  | truncate (path : Bytes) (length : Nat)
  /-- Makes a directory. -/
  | makeDirectory (path : Bytes)
  /-- Removes an empty directory. -/
  | removeDirectory (path : Bytes)
  /-- Removes a name. -/
  | remove (path : Bytes)
  /-- Moves a name, in place of what the new name stood for. -/
  | rename (path target : Bytes)
  /-- Makes a symbolic link. -/
  | link (path target : Bytes)
  /-- Gives a file another name. -/
  | hardLink (path target : Bytes)
  /-- Makes a socket file. -/
  | socket (path : Bytes)
  /-- Makes a FIFO. -/
  | fifo (path : Bytes)
  /-- Opens a FIFO for writing. -/
  | openWriter (path : Bytes)
  /-- Writes into a FIFO opened for writing. -/
  | write (path data : Bytes)
  /-- Closes a FIFO opened for writing. -/
  | closeWriter (path : Bytes)
deriving DecidableEq, Repr

namespace Host

/-- The node a path names, if there is one. -/
def find? (host : Host) (path : Bytes) : Option NodeId :=
  (Path.resolve host.nodes host.scratch path).toOption

/-- The content of a file changed by a function; other nodes stay. -/
def modifyFile (host : Host) (id : NodeId) (f : Bytes → Bytes) : Host :=
  { host with
    nodes := host.nodes.modify id fun
      | .file content => .file (f content)
      | node => node }

/-- The bytes of a FIFO changed by a function; other nodes stay. -/
def modifyQueue (host : Host) (id : NodeId) (f : Bytes → Bytes) : Host :=
  { host with
    nodes := host.nodes.modify id fun
      | .fifo queue => .fifo (f queue)
      | node => node }

/-- A new node under a name of a directory that has no entry of that name. -/
def addNode (host : Host) (dir : NodeId) (name : Bytes) (node : Node) : Host :=
  { host with nodes := Nodes.addEntry (host.nodes ++ [node]) dir name host.nodes.length }

/-- The place of a path. -/
def place? (host : Host) (path : Bytes) : Option (NodeId × Bytes) :=
  Path.place? host.nodes host.scratch path

/-- A new node at the place of a path, if that has no entry. The node is made from the directory it
comes into. -/
def create (host : Host) (path : Bytes) (node : NodeId → Node) : Host :=
  match host.place? path with
  | none => host
  | some (dir, name) =>
    if (host.nodes.entry? dir name).isSome then host else host.addNode dir name (node dir)

/-- Bytes written through a path, after as much of a file's content as `kept` leaves. A missing file
is made first; where the path ends in a link, it is made where the link leads. A FIFO takes the
bytes into its queue whatever is kept; then the end they came through is closed. -/
def writeThrough (host : Host) (path data : Bytes) (kept : Bytes → Bytes) : Host :=
  match Path.find host.nodes host.scratch path with
  | .ok (.node id) =>
    ((host.modifyFile id (kept · ++ data)).modifyQueue id (· ++ data)).release id
  | .ok (.vacant dir name) => host.addNode dir name (.file data)
  | .error _ => host

/-- The content of a file that exists, changed by a function. -/
def changeFile (host : Host) (path : Bytes) (f : Bytes → Bytes) : Host :=
  match host.find? path with
  | some id => host.modifyFile id f
  | none => host

/-- A name taken out of its directory, if its node may be removed so. -/
def removeName (host : Host) (path : Bytes) (allowed : Node → Bool) : Host :=
  match host.place? path with
  | none => host
  | some (dir, name) =>
    match (host.nodes.entry? dir name).bind fun id => host.nodes[id]? with
    | some node =>
      if allowed node then { host with nodes := host.nodes.removeEntry dir name } else host
    | none => host

/-- Whether a node may be moved to a name that stands for another node, or for none. -/
def mayReplace (node : Node) : Option Node → Bool
  | none => true
  | some former => if node.isDirectory then former.isEmptyDirectory else !former.isDirectory

/-- A name moved to another place. -/
def renameTo (host : Host) (path target : Bytes) : Host :=
  match host.place? path, host.place? target with
  | some (dir, name), some (newDir, newName) =>
    let former := host.nodes.entry? newDir newName
    match host.nodes.entry? dir name with
    | none => host
    | some id =>
      match host.nodes[id]? with
      | none => host
      | some node =>
        -- Both names may stand for one file already, or the directory would move below itself.
        if former = some id ∨ host.nodes.isWithin id host.nodes.length newDir = true ∨
            mayReplace node (former.bind fun id => host.nodes[id]?) = false then host
        else
          { host with
            nodes :=
              ((host.nodes.removeEntry dir name).addEntry newDir newName id).setParent id newDir }
  | _, _ => host

/-- The node that a path names itself, be it a link. -/
def named? (host : Host) (path : Bytes) : Option NodeId :=
  (host.place? path).bind fun (dir, name) => host.nodes.entry? dir name

/-- Another name for the node of a path that is not a directory. -/
def linkTo (host : Host) (path target : Bytes) : Host :=
  match host.place? path, host.named? target with
  | some (dir, name), some id =>
    if (host.nodes.entry? dir name).isSome ∨ (host.nodes[id]?.any Node.isDirectory) = true then host
    else { host with nodes := host.nodes.addEntry dir name id }
  | _, _ => host

/-- Bytes written over a content from an offset on. A gap before them is filled with zeros; where
nothing is written there is no gap to fill. -/
def overwriteAt (offset : Nat) (data content : Bytes) : Bytes :=
  if data = [] then content
  else
    content.take offset ++ List.replicate (offset - content.length) 0 ++ data ++
      content.drop (offset + data.length)

/-- A content cut off or extended with zeros. -/
def resize (length : Nat) (content : Bytes) : Bytes :=
  content.take length ++ List.replicate (length - content.length) 0

/-- A FIFO opened for writing under a name, in place of an earlier one of that name. -/
def openWriter (host : Host) (path : Bytes) : Host :=
  match host.find? path with
  | none => host
  | some id =>
    let former := host.writers.lookup path
    let host := { host with writers := (path, id) :: host.writers.filter (·.1 ≠ path) }
    match former with
    | some old => host.release old
    | none => host

/-- The writing end of a name closed. -/
def closeWriter (host : Host) (path : Bytes) : Host :=
  match host.writers.lookup path with
  | none => host
  | some id => { host with writers := host.writers.filter (·.1 ≠ path) }.release id

/-- **The host after a change.** -/
def apply (host : Host) : Change → Host
  | .file path data => host.writeThrough path data fun _ => []
  | .append path data => host.writeThrough path data id
  | .overwrite path offset data => host.changeFile path (overwriteAt offset data)
  | .truncate path length => host.changeFile path (resize length)
  | .makeDirectory path => host.create path fun parent => .directory parent []
  | .removeDirectory path => host.removeName path Node.isEmptyDirectory
  | .remove path => host.removeName path fun node => !node.isDirectory
  | .rename path target => host.renameTo path target
  | .link path target => host.create path fun _ => .link target
  | .hardLink path target => host.linkTo path target
  | .socket path => host.create path fun _ => .socket
  | .fifo path => host.create path fun _ => .fifo []
  | .openWriter path => host.openWriter path
  | .write path data =>
    match host.writers.lookup path with
    | some id => host.modifyQueue id (· ++ data)
    | none => host
  | .closeWriter path => host.closeWriter path

end Host

end TracedPipe
