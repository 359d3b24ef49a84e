import TracedPipe.Host.Change
import TracedPipe.Proofs.Host.Outline

/-!
# Changes from outside

What others do to the files goes through paths, nodes and writers. It leaves the table of open files
alone (`Host.table_apply`), and it does not look at positions, nor at the bytes in queues but to add
to them: a change does to the outline of a host what it does to the host (`Host.outline_apply`).
-/

namespace TracedPipe.Host

/-! ### The open files -/

@[simp] theorem table_writeThrough (host : Host) (path data : Bytes) (kept : Bytes → Bytes) :
    (host.writeThrough path data kept).table = host.table := by
  unfold writeThrough
  split
  · exact table_release _ _
  · rfl
  · rfl

@[simp] theorem table_create (host : Host) (path : Bytes) (node : NodeId → Node) :
    (host.create path node).table = host.table := by
  unfold create
  split
  · rfl
  · split <;> rfl

@[simp] theorem table_changeFile (host : Host) (path : Bytes) (f : Bytes → Bytes) :
    (host.changeFile path f).table = host.table := by
  unfold changeFile
  split <;> rfl

@[simp] theorem table_removeName (host : Host) (path : Bytes) (allowed : Node → Bool) :
    (host.removeName path allowed).table = host.table := by
  unfold removeName
  split
  · rfl
  · split
    · split <;> rfl
    · rfl

@[simp] theorem table_renameTo (host : Host) (path target : Bytes) :
    (host.renameTo path target).table = host.table := by
  unfold renameTo
  split
  · dsimp only
    split
    · rfl
    · split
      · rfl
      · split <;> rfl
  · rfl

@[simp] theorem table_linkTo (host : Host) (path target : Bytes) :
    (host.linkTo path target).table = host.table := by
  unfold linkTo
  split
  · split <;> rfl
  · rfl

@[simp] theorem table_openWriter (host : Host) (path : Bytes) :
    (host.openWriter path).table = host.table := by
  unfold openWriter
  split
  · rfl
  · dsimp only
    split
    · exact table_release _ _
    · rfl

@[simp] theorem table_closeWriter (host : Host) (path : Bytes) :
    (host.closeWriter path).table = host.table := by
  unfold closeWriter
  split
  · rfl
  · exact table_release _ _

/-- **Changes from outside leave the open files alone.** -/
@[simp] theorem table_apply (host : Host) (change : Change) :
    (host.apply change).table = host.table := by
  cases change with
  | write path data =>
    unfold apply
    dsimp only
    split <;> rfl
  | _ => simp [apply]

/-! ### The outline -/

@[simp] theorem find?_outline (host : Host) (path : Bytes) :
    host.outline.find? path = host.find? path := by
  show (Path.resolve host.nodes.outline host.scratch path).toOption = _
  rw [Path.resolve_outline]
  rfl

@[simp] theorem host_place?_outline (host : Host) (path : Bytes) :
    host.outline.place? path = host.place? path :=
  Path.place?_outline host.nodes host.scratch path

@[simp] theorem host_entry?_outline (host : Host) (directory : NodeId) (name : Bytes) :
    host.outline.nodes.entry? directory name = host.nodes.entry? directory name :=
  Nodes.entry?_outline host.nodes directory name

/-- Writing into a queue does not show in the outline. -/
@[simp] theorem outline_modifyQueue (host : Host) (id : NodeId) (f : Bytes → Bytes) :
    (host.modifyQueue id f).outline = host.outline := by
  have hnodes : (host.modifyQueue id f).nodes.outline = host.nodes.outline := by
    -- Node by node: the change is made to a queue, which the outline of a FIFO leaves out.
    refine List.ext_getElem? fun n => ?_
    rw [Nodes.getElem?_outline, Nodes.getElem?_outline, modifyQueue, List.getElem?_modify]
    cases host.nodes[n]? with
    | none => rfl
    | some node =>
      dsimp only [Option.map_some, Option.map_eq_map]
      split
      · cases node <;> rfl
      · rfl
  unfold outline
  rw [hnodes]
  rfl

theorem outline_modifyFile (host : Host) (id : NodeId) (f : Bytes → Bytes) :
    (host.modifyFile id f).outline = host.outline.modifyFile id f := by
  have hnodes : (host.modifyFile id f).nodes.outline = (host.outline.modifyFile id f).nodes := by
    refine Nodes.outline_modify (fun node => ?_) host.nodes id
    cases node <;> rfl
  unfold outline at hnodes ⊢
  rw [hnodes]
  rfl

theorem outline_addNode (host : Host) (directory : NodeId) (name : Bytes) (node : Node) :
    (host.addNode directory name node).outline
      = host.outline.addNode directory name node.outline := by
  unfold addNode outline
  dsimp only
  rw [Nodes.outline_addEntry, Nodes.outline_append, Nodes.length_outline]

theorem outline_create (host : Host) (path : Bytes) (node : NodeId → Node) :
    (host.create path node).outline = (host.outline.create path node).outline := by
  unfold create
  rw [host_place?_outline]
  cases host.place? path with
  | none => exact host.outline_outline.symm
  | some place =>
    dsimp only
    rw [host_entry?_outline]
    split
    · exact host.outline_outline.symm
    · rw [outline_addNode, outline_addNode, outline_outline]

theorem outline_writeThrough (host : Host) (path data : Bytes) (kept : Bytes → Bytes) :
    (host.writeThrough path data kept).outline
      = (host.outline.writeThrough path data kept).outline := by
  have hfind : Path.find host.outline.nodes host.outline.scratch path
      = Path.find host.nodes host.scratch path := Path.find_outline _ _ _
  unfold writeThrough
  rw [hfind]
  cases Path.find host.nodes host.scratch path with
  | error e => exact host.outline_outline.symm
  | ok found =>
    cases found with
    -- What is written ends up in a queue or in a file. A file keeps its content in the outline.
    | node id =>
      simp only [outline_release, outline_modifyQueue, outline_modifyFile, outline_outline]
    | vacant directory name =>
      simp only [outline_addNode, outline_outline]

theorem outline_changeFile (host : Host) (path : Bytes) (f : Bytes → Bytes) :
    (host.changeFile path f).outline = (host.outline.changeFile path f).outline := by
  unfold changeFile
  rw [find?_outline]
  cases host.find? path with
  | none => exact host.outline_outline.symm
  | some id => simp only [outline_modifyFile, outline_outline]

/-- The node of an entry, and that of its outline. -/
theorem bind_entry?_outline (host : Host) (directory : NodeId) (name : Bytes) :
    ((host.outline.nodes.entry? directory name).bind fun id => host.outline.nodes[id]?)
      = ((host.nodes.entry? directory name).bind fun id => host.nodes[id]?).map Node.outline := by
  rw [host_entry?_outline]
  cases host.nodes.entry? directory name with
  | none => rfl
  | some id => exact Nodes.getElem?_outline host.nodes id

theorem outline_removeName (host : Host) (path : Bytes) {allowed : Node → Bool}
    (hallowed : ∀ node : Node, allowed node.outline = allowed node) :
    (host.removeName path allowed).outline = (host.outline.removeName path allowed).outline := by
  unfold removeName
  -- The name is looked for and checked in the outline as in the host, and the node that it names
  -- may be removed from the one as from the other.
  rw [host_place?_outline]
  cases host.place? path with
  | none => exact host.outline_outline.symm
  | some place =>
    dsimp only
    rw [bind_entry?_outline]
    cases (host.nodes.entry? place.1 place.2).bind fun id => host.nodes[id]? with
    | none => exact host.outline_outline.symm
    | some node =>
      dsimp only [Option.map_some]
      rw [hallowed]
      split
      · unfold outline
        dsimp only
        rw [Nodes.outline_removeEntry, Nodes.outline_removeEntry, Nodes.outline_outline,
          Table.outline_outline]
      · exact host.outline_outline.symm

theorem mayReplace_outline (node : Node) (former : Option Node) :
    mayReplace node.outline (former.map Node.outline) = mayReplace node former := by
  cases former with
  | none => rfl
  | some former => simp [mayReplace]

theorem outline_renameTo (host : Host) (path target : Bytes) :
    (host.renameTo path target).outline = (host.outline.renameTo path target).outline := by
  unfold renameTo
  rw [host_place?_outline, host_place?_outline]
  cases host.place? path with
  | none => exact host.outline_outline.symm
  | some place =>
    cases host.place? target with
    | none => exact host.outline_outline.symm
    | some newPlace =>
      dsimp only
      -- Everything that the change asks before it is made has the same answer in the outline: what
      -- has the target name now, what is to get it, whether that would come to lie within itself,
      -- and whether it may take the place of the former.
      have hformer := host.bind_entry?_outline newPlace.1 newPlace.2
      rw [hformer, host_entry?_outline, host_entry?_outline]
      cases host.nodes.entry? place.1 place.2 with
      | none => exact host.outline_outline.symm
      | some id =>
        dsimp only
        have hnode : host.outline.nodes[id]? = host.nodes[id]?.map Node.outline :=
          Nodes.getElem?_outline host.nodes id
        have hwithin : host.outline.nodes.isWithin id host.outline.nodes.length newPlace.1
            = host.nodes.isWithin id host.nodes.length newPlace.1 := by
          show host.nodes.outline.isWithin id host.nodes.outline.length newPlace.1 = _
          rw [Nodes.isWithin_outline, Nodes.length_outline]
        rw [hnode, hwithin]
        cases host.nodes[id]? with
        | none => exact host.outline_outline.symm
        | some node =>
          dsimp only [Option.map_some]
          rw [mayReplace_outline]
          -- It is made in both or in neither, and then to entries and parents only.
          split
          · exact host.outline_outline.symm
          · unfold outline
            dsimp only
            rw [Nodes.outline_setParent, Nodes.outline_setParent, Nodes.outline_addEntry,
              Nodes.outline_addEntry, Nodes.outline_removeEntry, Nodes.outline_removeEntry,
              Nodes.outline_outline, Table.outline_outline]

theorem outline_linkTo (host : Host) (path target : Bytes) :
    (host.linkTo path target).outline = (host.outline.linkTo path target).outline := by
  -- What is linked to, and whether it is a directory, can be seen in the outline.
  have hnamed : host.outline.named? target = host.named? target := by
    unfold named?
    rw [host_place?_outline]
    simp only [host_entry?_outline]
  unfold linkTo
  rw [host_place?_outline, hnamed]
  cases host.place? path with
  | none => exact host.outline_outline.symm
  | some place =>
    cases host.named? target with
    | none => exact host.outline_outline.symm
    | some id =>
      dsimp only
      have hdirectory : host.outline.nodes[id]?.any Node.isDirectory
          = host.nodes[id]?.any Node.isDirectory := by
        show (host.nodes.outline[id]?).any Node.isDirectory = _
        rw [Nodes.getElem?_outline]
        cases host.nodes[id]? with
        | none => rfl
        | some node => exact node.isDirectory_outline
      rw [host_entry?_outline, hdirectory]
      split
      · exact host.outline_outline.symm
      · unfold outline
        dsimp only
        rw [Nodes.outline_addEntry, Nodes.outline_addEntry, Nodes.outline_outline,
          Table.outline_outline]

/-- Other writers do to an outline what they do to the host. -/
theorem outline_withWriters (host : Host) (writers : List (Bytes × NodeId)) :
    outline { host with writers } = outline { host.outline with writers } := by
  unfold outline
  dsimp only
  rw [Nodes.outline_outline, Table.outline_outline]

theorem outline_openWriter (host : Host) (path : Bytes) :
    (host.openWriter path).outline = (host.outline.openWriter path).outline := by
  unfold openWriter
  rw [find?_outline]
  cases host.find? path with
  | none => exact host.outline_outline.symm
  | some id =>
    -- A writer that opens a name anew lets go of the FIFO that it had by this name.
    have hwriters := host.outline_withWriters ((path, id) :: host.writers.filter (·.1 ≠ path))
    have hlookup : host.outline.writers.lookup path = host.writers.lookup path := rfl
    dsimp only
    rw [hlookup]
    cases host.writers.lookup path with
    | none => exact hwriters
    | some old =>
      dsimp only
      rw [outline_release, outline_release]
      exact hwriters

theorem outline_closeWriter (host : Host) (path : Bytes) :
    (host.closeWriter path).outline = (host.outline.closeWriter path).outline := by
  have hwriters := host.outline_withWriters (host.writers.filter (·.1 ≠ path))
  have hlookup : host.outline.writers.lookup path = host.writers.lookup path := rfl
  unfold closeWriter
  rw [hlookup]
  cases host.writers.lookup path with
  | none => exact host.outline_outline.symm
  | some id =>
    dsimp only
    rw [outline_release, outline_release]
    exact hwriters

/-- **A change from outside does to an outline what it does to the host.** -/
theorem outline_apply (host : Host) (change : Change) :
    (host.apply change).outline = (host.outline.apply change).outline := by
  -- One lemma for each way of changing; several changes are one of these ways with other arguments.
  cases change with
  | file path data => exact host.outline_writeThrough path data _
  | append path data => exact host.outline_writeThrough path data _
  | overwrite path offset data => exact host.outline_changeFile path _
  | truncate path length => exact host.outline_changeFile path _
  | makeDirectory path => exact host.outline_create path _
  | removeDirectory path => exact host.outline_removeName path Node.isEmptyDirectory_outline
  | remove path =>
    refine host.outline_removeName path fun node => ?_
    rw [Node.isDirectory_outline]
  | rename path target => exact host.outline_renameTo path target
  | link path target => exact host.outline_create path _
  | hardLink path target => exact host.outline_linkTo path target
  | socket path => exact host.outline_create path _
  | fifo path => exact host.outline_create path _
  | openWriter path => exact host.outline_openWriter path
  | write path data =>
    have hlookup : host.outline.writers.lookup path = host.writers.lookup path := rfl
    unfold apply
    dsimp only
    rw [hlookup]
    cases host.writers.lookup path with
    | none => exact host.outline_outline.symm
    | some id => simp only [outline_modifyQueue, outline_outline]
  | closeWriter path => exact host.outline_closeWriter path

end TracedPipe.Host
