import TracedPipe.Proofs.Host.OpenFiles

/-!
# What reads leave alone

A read may move the position of an open file and take bytes out of a queue. The *outline* of a host
is the host without positions and without the bytes in queues, so that no read changes it
(`Host.outline_reading`).

Only reads look at what the outline leaves out: opening and closing do to an outline what they do to
the host (`Host.opening_outline`, `Host.outline_closing`).
-/

namespace TracedPipe

/-! ### Outlines -/

/-- A node without the bytes in its queue. -/
def Node.outline : Node → Node
  | .fifo _ => .fifo []
  | node => node

/-- All nodes without the bytes in their queues. -/
def Nodes.outline (nodes : Nodes) : Nodes := nodes.map Node.outline

/-- An open file at its beginning. -/
def OpenFile.outline (file : OpenFile) : OpenFile := ⟨file.node, 0⟩

/-- All open files at their beginnings. -/
def Table.outline (table : Table) : Table := table.map (Option.map OpenFile.outline)

/-- **A host without positions and without the bytes in queues.** -/
def Host.outline (host : Host) : Host :=
  { host with nodes := host.nodes.outline, table := host.table.outline }

/-! ### Nodes -/

theorem Node.outline_outline (node : Node) : node.outline.outline = node.outline := by
  cases node <;> rfl

@[simp] theorem Node.isDirectory_outline (node : Node) :
    node.outline.isDirectory = node.isDirectory := by
  cases node <;> rfl

@[simp] theorem Node.isEmptyDirectory_outline (node : Node) :
    node.outline.isEmptyDirectory = node.isEmptyDirectory := by
  cases node <;> rfl

/-- The outline of a regular file is the file with its content, and of nothing else. -/
theorem Node.outline_eq_file_iff {node : Node} {content : Bytes} :
    node.outline = .file content ↔ node = .file content := by
  cases node <;> simp [outline]

namespace Nodes

variable {nodes : Nodes}

theorem outline_outline (nodes : Nodes) : nodes.outline.outline = nodes.outline := by
  unfold outline
  rw [List.map_map]
  exact List.map_congr_left fun node _ => node.outline_outline

@[simp] theorem length_outline (nodes : Nodes) : nodes.outline.length = nodes.length :=
  List.length_map _

theorem getElem?_outline (nodes : Nodes) (id : NodeId) :
    nodes.outline[id]? = nodes[id]?.map Node.outline :=
  List.getElem?_map

/-- A change of one node that does not look into queues goes through to the outline. -/
theorem outline_modify {f g : Node → Node} (h : ∀ node, (f node).outline = g node.outline)
    (nodes : Nodes) (id : NodeId) :
    Nodes.outline (nodes.modify id f) = nodes.outline.modify id g := by
  refine List.ext_getElem? fun n => ?_
  rw [getElem?_outline, List.getElem?_modify, List.getElem?_modify, getElem?_outline]
  cases nodes[n]? with
  | none => rfl
  | some node =>
    dsimp only [Option.map_some, Option.map_eq_map]
    split
    · rw [h]
    · rfl

@[simp] theorem entry?_outline (nodes : Nodes) (directory : NodeId) (name : Bytes) :
    nodes.outline.entry? directory name = nodes.entry? directory name := by
  unfold entry?
  rw [getElem?_outline]
  cases nodes[directory]? with
  | none => rfl
  | some node => cases node <;> rfl

theorem outline_addEntry (nodes : Nodes) (directory : NodeId) (name : Bytes) (id : NodeId) :
    (nodes.addEntry directory name id).outline = nodes.outline.addEntry directory name id := by
  refine outline_modify (fun node => ?_) nodes directory
  cases node <;> rfl

theorem outline_removeEntry (nodes : Nodes) (directory : NodeId) (name : Bytes) :
    (nodes.removeEntry directory name).outline = nodes.outline.removeEntry directory name := by
  refine outline_modify (fun node => ?_) nodes directory
  cases node <;> rfl

theorem outline_setParent (nodes : Nodes) (directory parent : NodeId) :
    (nodes.setParent directory parent).outline = nodes.outline.setParent directory parent := by
  refine outline_modify (fun node => ?_) nodes directory
  cases node <;> rfl

theorem outline_append (nodes : Nodes) (node : Node) :
    Nodes.outline (nodes ++ [node]) = nodes.outline ++ [node.outline] :=
  List.map_append

@[simp] theorem isWithin_outline (nodes : Nodes) (ancestor : NodeId) (depth : Nat) (id : NodeId) :
    nodes.outline.isWithin ancestor depth id = nodes.isWithin ancestor depth id := by
  induction depth generalizing id with
  | zero => rfl
  | succ depth ih =>
    rw [isWithin, isWithin, getElem?_outline]
    cases nodes[id]? with
    | none => rfl
    | some node =>
      cases node with
      | directory parent entries =>
        dsimp only [Option.map_some, Node.outline]
        rw [ih]
      | _ => rfl

/-- Emptying a queue, or filling it, does not show in the outline. -/
theorem outline_set_fifo {id : NodeId} {queue : Bytes} (h : nodes[id]? = some (.fifo queue))
    (other : Bytes) : Nodes.outline (nodes.set id (.fifo other)) = nodes.outline := by
  have houtline : nodes.outline[id]? = some (.fifo []) := by
    rw [getElem?_outline, h]
    rfl
  unfold outline at houtline ⊢
  rw [List.map_set]
  exact set_of_getElem? houtline

end Nodes

/-! ### Paths -/

namespace Path

theorem walkNames_outline (nodes : Nodes) {onLink other : NodeId → List Bytes → Except Errno Found}
    (h : ∀ here names, other here names = onLink here names) (here : NodeId) (names : List Bytes) :
    walkNames nodes.outline other here names = walkNames nodes onLink here names := by
  -- By induction on the names; `onLink` and `other` are what the two walks do with a link, which
  -- the hypothesis keeps equal.
  induction names generalizing here with
  | nil => rfl
  | cons name rest ih =>
    rw [walkNames, walkNames, nodes.getElem?_outline]
    -- A walk looks into directories and links, and an outline has them as they are.
    cases nodes[here]? with
    | none => rfl
    | some node =>
      cases node with
      | directory parent entries =>
        dsimp only [Option.map_some, Node.outline]
        rw [ih here, ih parent]
        cases entries.lookup name with
        | none => rfl
        | some id =>
          dsimp only
          rw [nodes.getElem?_outline, ih id]
          cases nodes[id]? with
          | none => rfl
          | some node =>
            cases node with
            | link target =>
              dsimp only [Option.map_some, Node.outline]
              rw [h]
            | _ => rfl
      | _ => rfl

theorem walk_outline (nodes : Nodes) (links : Nat) (here : NodeId) (names : List Bytes) :
    walk nodes.outline links here names = walk nodes links here names := by
  induction links generalizing here names with
  | zero => exact walkNames_outline nodes (fun _ _ => rfl) here names
  | succ links ih => exact walkNames_outline nodes ih here names

@[simp] theorem find_outline (nodes : Nodes) (here : NodeId) (path : Bytes) :
    find nodes.outline here path = find nodes here path := by
  unfold find
  rw [walk_outline]

@[simp] theorem resolve_outline (nodes : Nodes) (here : NodeId) (path : Bytes) :
    resolve nodes.outline here path = resolve nodes here path := by
  unfold resolve
  rw [find_outline]

@[simp] theorem place?_outline (nodes : Nodes) (here : NodeId) (path : Bytes) :
    place? nodes.outline here path = place? nodes here path := by
  unfold place?
  simp only [walk_outline]

end Path

/-! ### The table of open files -/

namespace Table

@[simp] theorem length_outline (table : Table) : table.outline.length = table.length :=
  List.length_map _

theorem outline_outline (table : Table) : table.outline.outline = table.outline := by
  unfold outline
  rw [List.map_map]
  refine List.map_congr_left fun row _ => ?_
  cases row <;> rfl

@[simp] theorem lowestFree_outline (table : Table) :
    table.outline.lowestFree = table.lowestFree := by
  unfold lowestFree outline
  rw [List.findIdx_map]
  congr 1
  funext row
  cases row <;> rfl

theorem lookup_outline (table : Table) (d : Descriptor) :
    table.outline.lookup d = (table.lookup d).map OpenFile.outline := by
  unfold lookup row? outline
  cases d.number with
  | ofNat n =>
    dsimp only
    rw [List.getElem?_map]
    cases table[n]? <;> rfl
  | negSucc n => rfl

theorem outline_put (table : Table) (n : Nat) (file : OpenFile) :
    (table.put n file).outline = table.outline.put n file.outline := by
  unfold put
  rw [length_outline]
  split
  · exact List.map_set
  · exact List.map_append

theorem outline_clear (table : Table) (d : Descriptor) :
    (table.clear d).outline = table.outline.clear d :=
  List.map_set

theorem outline_update (table : Table) (d : Descriptor) (file : OpenFile) :
    (table.update d file).outline = table.outline.update d file.outline :=
  List.map_set

/-- Another position does not show in the outline. -/
theorem outline_update_position {table : Table} {d : Descriptor} {file : OpenFile}
    (h : table.lookup d = some file) (position : Nat) :
    (table.update d ⟨file.node, position⟩).outline = table.outline := by
  have hself := update_self h
  calc (table.update d ⟨file.node, position⟩).outline
      = table.outline.update d file.outline := outline_update table d ⟨file.node, position⟩
    _ = (table.update d file).outline := (outline_update table d file).symm
    _ = table.outline := by rw [hself]

end Table

namespace Host

@[simp] theorem outline_outline (host : Host) : host.outline.outline = host.outline := by
  unfold outline
  dsimp only
  rw [Nodes.outline_outline, Table.outline_outline]

/-- Hosts with the same outline have the same regular files. -/
theorem node_of_outline {host other : Host} (h : host.outline = other.outline) {id : NodeId}
    {content : Bytes} (hnode : host.nodes[id]? = some (.file content)) :
    other.nodes[id]? = some (.file content) := by
  have hnodes : host.nodes.outline = other.nodes.outline := congrArg Host.nodes h
  have hsame := congrArg (fun nodes : Nodes => nodes[id]?) hnodes
  simp only [Nodes.getElem?_outline, hnode, Option.map_some] at hsame
  obtain ⟨node, hother, hfile⟩ := Option.map_eq_some_iff.mp hsame.symm
  rw [hother, Node.outline_eq_file_iff.mp hfile]

/-! ### Calls -/

/-- Letting go of a node at most empties its queue. -/
@[simp] theorem outline_release (host : Host) (id : NodeId) :
    (host.release id).outline = host.outline := by
  unfold release
  split
  · next queue hqueue =>
    split
    · rfl
    · unfold outline
      dsimp only
      rw [Nodes.outline_set_fifo hqueue]
  · rfl

/-- **A read does not show in the outline.** -/
theorem outline_reading (host : Host) (d : Descriptor) (count : Nat) (destination : Destination)
    (pace : Pace) : (host.reading d count destination pace).host.outline = host.outline := by
  cases hfile : host.table.lookup d with
  | none => rw [reading_of_not_open hfile]
  | some file =>
    rw [(reading_of_open hfile count destination pace).2]
    unfold consume
    -- The position of a file and the queue of a FIFO are what an outline leaves out.
    split
    · unfold outline
      dsimp only
      rw [Table.outline_update_position hfile]
    · next queue hqueue =>
      unfold outline
      dsimp only
      rw [Nodes.outline_set_fifo hqueue]
    · rfl

theorem openFile_outline (host : Host) (path : Option Bytes) :
    host.outline.openFile path
      = (host.openFile path).map fun opened => (opened.1, opened.2.outline) := by
  -- The number that the open gives, the row it fills and the node it looks for are in the outline.
  have hnumber : host.outline.table.lowestFree = host.table.lowestFree :=
    host.table.lowestFree_outline
  have hopened (id : NodeId) :
      ({ host.outline with
          table := host.outline.table.put host.table.lowestFree ⟨id, 0⟩ } : Host)
        = outline { host with table := host.table.put host.table.lowestFree ⟨id, 0⟩ } := by
    unfold outline
    dsimp only
    rw [Table.outline_put]
    rfl
  unfold openFile
  cases path with
  | none => rfl
  | some path =>
    have hresolve : Path.resolve host.outline.nodes host.outline.scratch path
        = Path.resolve host.nodes host.scratch path := Path.resolve_outline _ _ _
    dsimp only
    rw [hnumber, hresolve]
    cases Path.resolve host.nodes host.scratch path with
    | error e => rfl
    | ok id =>
      have hnode : host.outline.nodes[id]? = host.nodes[id]?.map Node.outline :=
        Nodes.getElem?_outline host.nodes id
      have hwriter : host.outline.hasWriter id = host.hasWriter id := rfl
      dsimp only
      rw [hopened, hnode, hwriter]
      cases host.nodes[id]? with
      | none => rfl
      | some node =>
        cases node with
        -- A FIFO needs a writer, and the outline has the writers.
        | fifo queue =>
          dsimp only [Option.map_some, Node.outline]
          split <;> rfl
        | _ => rfl

/-- **An open does to an outline what it does to the host,** and shows the same. -/
theorem opening_outline (host : Host) (path : Option Pathname) :
    host.outline.opening path
      = { host.opening path with host := (host.opening path).host.outline } := by
  unfold opening
  rw [openFile_outline]
  cases host.openFile (path.map Pathname.bytes) <;> rfl

/-- **A close does to an outline what it does to the host,** except that it may empty a queue. -/
theorem outline_closing (host : Host) (d : Descriptor) :
    (host.closing d).host.outline = (host.outline.closing d).host.outline := by
  have hlookup : host.outline.table.lookup d = (host.table.lookup d).map OpenFile.outline :=
    host.table.lookup_outline d
  rw [closing_eq, closing_eq, hlookup]
  cases host.table.lookup d with
  | none => exact host.outline_outline.symm
  | some file =>
    dsimp only [Option.map_some]
    rw [outline_release, outline_release]
    unfold outline
    dsimp only
    rw [Nodes.outline_outline, Table.outline_clear, Table.outline_clear, Table.outline_outline]

end Host

end TracedPipe
