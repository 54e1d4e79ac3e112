import CamFlow.Provenance.Record

namespace CamFlow.Provenance

open CamFlow.Ifc

/-- A hook runs to completion on the kernel, or faults. -/
abbrev ProvM := StateT Kernel (Except Fault)

theorem bind_apply {α β : Type} (m : ProvM α) (f : α → ProvM β) (s : Kernel) :
    (m >>= f) s=match m s with
      | .ok (a,s') => f a s'
      | .error e => .error e := by
  show Except.bind _ _=_
  rcases m s with e | ⟨a,s'⟩ <;> rfl

theorem bind_of_ok {α β : Type} {m : ProvM α} {f : α → ProvM β} {s s₁ : Kernel} {a : α}
    (h : m s=.ok (a,s₁)) : (m >>= f) s=f a s₁ := by
  rw [bind_apply,h]

theorem pure_apply {α : Type} (a : α) (s : Kernel) : (pure a : ProvM α) s=.ok (a,s) := rfl

def fault {α : Type} (f : Fault) : ProvM α := fun _ => .error f

/-- Reading a host object the hook was handed. -/
def getObj {α : Type} (t : Host → Nat → Option α) (i : Nat) : ProvM α := fun s =>
  match t s.host i with
  | some x => .ok (x,s)
  | none => .error .badCall

def getCred (i : Nat) : ProvM Cred := getObj Host.creds i
def getInode (i : Nat) : ProvM Inode := getObj Host.inodes i
def getFile (i : Nat) : ProvM File := getObj Host.files i
def getSocket (i : Nat) : ProvM Socket := getObj Host.socks i
def getMsg (i : Nat) : ProvM MsgMsg := getObj Host.msgs i
def getShm (i : Nat) : ProvM Shm := getObj Host.shms i
def getSb (i : Nat) : ProvM SuperBlock := getObj Host.sbs i

/-- The provenance pointer of a host object: `cred->provenance`, `inode_get_provenance(inode)`,
`sk->sk_provenance`, `msg->provenance`, `shp->shm_perm.provenance`, `sb->s_provenance`. -/
def provOf (o : Obj) : ProvM (Option Nat) := fun s =>
  if s.host.Live o then .ok (s.sec o,s) else .error .badCall

/-- Storing a provenance pointer in a host object. -/
def setProv (o : Obj) (p : Option Nat) : ProvM Unit := fun s =>
  .ok ((),{s with sec := Function.update s.sec o p})

/-- `current_provenance()`, for the current task's credential `cur`. -/
def currentProvenance (cur : Nat) : ProvM (Option Nat) := provOf (.cred cur)

/-- A pointer the hook is about to dereference: it must be non-null and live. -/
def livePtr (p : Option Nat) : ProvM Nat := fun s =>
  match p with
  | none => .error .nullDeref
  | some q => if (s.heap q).isSome then .ok (q,s) else .error .danglingDeref

/-- Reading the record behind a pointer. -/
def node (p : Option Nat) : ProvM ProvMsg := fun s =>
  match p with
  | none => .error .nullDeref
  | some q =>
    match s.heap q with
    | some m => .ok (m,s)
    | none => .error .danglingDeref

/-- Writing fields of the record behind a pointer. -/
def modifyNode (p : Option Nat) (f : ProvMsg → ProvMsg) : ProvM Unit := fun s =>
  match p with
  | none => .error .nullDeref
  | some q =>
    match s.heap q with
    | some m => .ok ((),{s with heap := Function.update s.heap q (some (f m))})
    | none => .error .danglingDeref

/-- `&ifc->context` for a `struct ifc_struct` pointer that may be null. -/
def ifcContext (c : Option IfcContext) : ProvM IfcContext := fun s =>
  match c with
  | some x => .ok (x,s)
  | none => .error .nullDeref

def emit (r : SinkRec) : ProvM Unit := fun s => .ok ((),{s with log := s.log++[r]})

/-- One allocation attempt; the host decides whether it succeeds. -/
def allocAttempt : ProvM Bool := fun s =>
  .ok (s.allocOk s.allocs,{s with allocs := s.allocs+1})

/-- Modelled from the spec: `alloc_provenance(ntype, gfp)` returns a zero-filled record of
kind `ntype`, or `NULL` when the allocation fails. -/
def allocProvenance (t : MsgType) : ProvM (Option Nat) := do
  if ← allocAttempt then
    fun s => .ok (some s.next,{ s with
      heap := Function.update s.heap s.next (some (.zero t))
      next := s.next+1 })
  else return none

/-- Modelled from the spec: `free_provenance(prov)` releases the record; a null pointer is
ignored. -/
def freeProvenance (p : Option Nat) : ProvM Unit := fun s =>
  match p with
  | none => .ok ((),s)
  | some q =>
    .ok ((),{ s with
      heap := Function.update s.heap q none
      frees := Function.update s.frees q (s.frees q+1) })

/-- `ASSIGN_NODE_ID`, the identifier argument that asks for a fresh one. -/
def ASSIGN_NODE_ID : Option Nat := none

/-- Modelled from the spec: `set_node_id(node, nid)` stores the identifier it is given, or one
drawn fresh from `prov_next_node_id` for `ASSIGN_NODE_ID`. -/
def setNodeId (p : Option Nat) (nid : Option Nat) : ProvM Unit := do
  let id ← match nid with
    | some n => pure n
    | none => fun s => .ok (s.nextNodeId,{s with nextNodeId := s.nextNodeId+1})
  modifyNode p fun m => { m with nodeId := id }

/-- Modelled from the spec: `record_edge(type, from, to, allowed)` hands the edge between two
live records to the sink. -/
def recordEdge (t : EdgeType) (src dst : Option Nat) (allowed : Bool) : ProvM Unit := do
  let a ← livePtr src
  let b ← livePtr dst
  emit (.edge t a b allowed)

/-- Modelled from the spec: `prov_update_version(node)` bumps the version counter. -/
def provUpdateVersion (p : Option Nat) : ProvM Unit :=
  modifyNode p fun m => { m with version := m.version+1 }

/-- Modelled from the spec: `prov_record_ifc(prov, ctx)` stores a snapshot of the context. -/
def provRecordIfc (p : Option Nat) (c : IfcContext) : ProvM Unit :=
  modifyNode p fun m => { m with ifc := some c }

/-- `FLOW_ALLOWED`, the only flow flag the hooks pass. -/
def FLOW_ALLOWED : Bool := true

/-- Modelled from the spec: `alloc_long_provenance(ntype, gfp)`, or `NULL` on failure. -/
def allocLongProvenance : ProvM (Option Nat) := do
  if ← allocAttempt then fun s => .ok (some s.nextLong,{s with nextLong := s.nextLong+1})
  else return none

/-- `kzalloc(PATH_MAX, GFP_KERNEL)`: whether the buffer was allocated. -/
def kzalloc : ProvM Bool := allocAttempt

/-- Modelled from the spec: `long_prov_write(rec)` hands a long record to the sink. -/
def longProvWrite (l : Nat) (m : LongMsg) : ProvM Unit := emit (.longWrite l m)

/-- Modelled from the spec: `long_record_edge(type, from, long, allowed)` links a live record
to a long record. -/
def longRecordEdge (t : EdgeType) (src : Option Nat) (l : Nat) (allowed : Bool) :
    ProvM Unit := do
  let a ← livePtr src
  emit (.longEdge t a l allowed)

section Exec

variable {β : Type} (s : Kernel)

theorem fault_bind (e : Fault) (f : α → ProvM β) : (fault e >>= f) s=.error e := rfl

theorem getObj_bind {γ : Type} (t : Host → Nat → Option γ) (i : Nat) (f : γ → ProvM β) :
    (getObj t i >>= f) s=match t s.host i with
      | some x => f x s
      | none => .error .badCall := by
  show Except.bind _ _=_; unfold getObj; rcases t s.host i <;> rfl

theorem provOf_bind (o : Obj) (f : Option Nat → ProvM β) :
    (provOf o >>= f) s=if s.host.Live o then f (s.sec o) s else .error .badCall := by
  show Except.bind _ _=_; unfold provOf; split <;> rfl

theorem setProv_bind (o : Obj) (p : Option Nat) (f : Unit → ProvM β) :
    (setProv o p >>= f) s=f () {s with sec := Function.update s.sec o p} := rfl

theorem node_bind (p : Option Nat) (f : ProvMsg → ProvM β) :
    (node p >>= f) s=match p with
      | none => .error .nullDeref
      | some q =>
        match s.heap q with
        | some m => f m s
        | none => .error .danglingDeref := by
  show Except.bind _ _=_; unfold node; rcases p with _ | q; rfl; dsimp only; rcases s.heap q <;> rfl

theorem modifyNode_bind (p : Option Nat) (g : ProvMsg → ProvMsg) (f : Unit → ProvM β) :
    (modifyNode p g >>= f) s=match p with
      | none => .error .nullDeref
      | some q =>
        match s.heap q with
        | some m => f () {s with heap := Function.update s.heap q (some (g m))}
        | none => .error .danglingDeref := by
  show Except.bind _ _=_; unfold modifyNode; rcases p with _ | q; rfl; dsimp only
  rcases s.heap q <;> rfl

theorem livePtr_bind (p : Option Nat) (f : Nat → ProvM β) :
    (livePtr p >>= f) s=match p with
      | none => .error .nullDeref
      | some q => if (s.heap q).isSome then f q s else .error .danglingDeref := by
  show Except.bind _ _=_; unfold livePtr; rcases p with _ | q; rfl; dsimp only; split <;> rfl

theorem ifcContext_bind (c : Option IfcContext) (f : IfcContext → ProvM β) :
    (ifcContext c >>= f) s=match c with
      | some x => f x s
      | none => .error .nullDeref := by
  rcases c <;> rfl

theorem emit_bind (r : SinkRec) (f : Unit → ProvM β) :
    (emit r >>= f) s=f () {s with log := s.log++[r]} := rfl

/-- An edge between two live records is appended to the log. -/
theorem recordEdge_bind_live {t : EdgeType} {a b : Nat} {al : Bool} (f : Unit → ProvM β)
    (ha : (s.heap a).isSome=true) (hb : (s.heap b).isSome=true) :
    (recordEdge t (some a) (some b) al >>= f) s=f () {s with log := s.log++[.edge t a b al]} := by
  simp only [recordEdge,bind_assoc,livePtr_bind,emit_bind,ha,hb,if_true]

/-- An edge between two live records that the hook records only when `c` holds. -/
theorem recordEdge_when {c : Prop} [Decidable c] {t : EdgeType} {a b : Nat} {al : Bool}
    (m : ProvM β) (ha : (s.heap a).isSome=true) (hb : (s.heap b).isSome=true) :
    (if c then recordEdge t (some a) (some b) al >>= (fun _ => m) else m) s=
      m {s with log := s.log++if c then [.edge t a b al] else []} := by
  split
  · exact recordEdge_bind_live s _ ha hb
  · rw [List.append_nil]

theorem allocAttempt_bind (f : Bool → ProvM β) :
    (allocAttempt >>= f) s=f (s.allocOk s.allocs) {s with allocs := s.allocs+1} := rfl

theorem allocProvenance_bind (t : MsgType) (f : Option Nat → ProvM β) :
    (allocProvenance t >>= f) s=if s.allocOk s.allocs then
      f (some s.next) { s with
        allocs := s.allocs+1
        heap := Function.update s.heap s.next (some (.zero t))
        next := s.next+1 }
    else f none {s with allocs := s.allocs+1} := by
  simp only [allocProvenance,allocAttempt,bind_apply]; cases s.allocOk s.allocs <;> rfl

theorem setNodeId_bind (q : Nat) (nid : Option Nat) (f : Unit → ProvM β) :
    (setNodeId (some q) nid >>= f) s=match s.heap q with
      | some m => f () { s with
          heap := Function.update s.heap q (some {m with nodeId := nid.getD s.nextNodeId})
          nextNodeId := if nid.isNone then s.nextNodeId+1 else s.nextNodeId }
      | none => .error .danglingDeref := by
  rcases nid with _ | n <;> simp only [setNodeId,bind_assoc,bind_apply,pure_apply] <;>
    dsimp only [modifyNode] <;> rcases s.heap q <;> rfl

theorem freeProvenance_bind (p : Option Nat) (f : Unit → ProvM β) :
    (freeProvenance p >>= f) s=match p with
      | none => f () s
      | some q => f () { s with
          heap := Function.update s.heap q none
          frees := Function.update s.frees q (s.frees q+1) } := by
  rcases p <;> rfl

theorem allocLongProvenance_bind (f : Option Nat → ProvM β) :
    (allocLongProvenance >>= f) s=if s.allocOk s.allocs then
      f (some s.nextLong) {s with allocs := s.allocs+1, nextLong := s.nextLong+1}
    else f none {s with allocs := s.allocs+1} := by
  simp only [allocLongProvenance,allocAttempt,bind_apply]; cases s.allocOk s.allocs <;> rfl

end Exec

def PATH_MAX : Nat := 4096

/-- `dentry_path_raw(dentry, buffer, PATH_MAX)`: it writes the path into `buffer`, and returns
an `ERR_PTR` (here `none`) when the path with its terminator does not fit. -/
def dentryPathRaw (path : List UInt8) (buffer : Bool) : ProvM (Option (List UInt8)) :=
  if !buffer then fault .nullDeref
  else if PATH_MAX<path.length+1 then pure none
  else pure (some path)

theorem dentryPathRaw_bind {β : Type} (path : List UInt8) (buffer : Bool)
    (f : Option (List UInt8) → ProvM β) (s : Kernel) :
    (dentryPathRaw path buffer >>= f) s=if !buffer then .error .nullDeref
      else if PATH_MAX<path.length+1 then f none s else f (some path) s := by
  unfold dentryPathRaw; split <;> [rfl; split <;> rfl]

end CamFlow.Provenance
