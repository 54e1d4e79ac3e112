import CamFlow.Ifc.Label

namespace CamFlow.Provenance

open CamFlow.Ifc

/-- `node_info.message_id`: the kind `alloc_provenance` stamps on a record. -/
inductive MsgType
  | task | inode | msg | shm | sock | sb
  deriving DecidableEq, Repr

/-- The `ED_*` edge types the hooks record. -/
inductive EdgeType
  | edFork | edChange | edCreate | edWrite | edRead | edExec | edOpen | edMmap | edAttach
  | edAssociate | edBind | edConnect | edListen | edAccept | edNamed | edUnknown
  deriving DecidableEq, Repr

/-- A 16-byte uuid, `uint8_t[16]`. -/
structure Uuid where
  bytes : List UInt8
  length_eq : bytes.length=16
  deriving DecidableEq

def Uuid.zero : Uuid := ⟨List.replicate 16 0,rfl⟩

theorem Uuid.eq_zero_iff (u : Uuid) : u=.zero ↔ ∀ b ∈ u.bytes, b=0 := by
  rcases u with ⟨bs,hb⟩
  simp only [Uuid.zero,Uuid.mk.injEq,List.eq_replicate_iff,hb,true_and]

/-- `prov_msg_t`. The C union of per-kind infos is flattened into one record; each hook writes
the fields of its own kind. -/
structure ProvMsg where
  /-- `node_info.message_id` -/
  messageId : MsgType
  /-- `node_info.node_id` -/
  nodeId : Nat
  /-- `node_info.version` -/
  version : Nat
  /-- `node_kern.tracked`, `node_kern.opaque`, `node_kern.name_recorded` -/
  tracked : Bool
  isOpaque : Bool
  nameRecorded : Bool
  /-- `task_info.uid`, `task_info.gid`, or the same fields of `inode_info` -/
  uid : Nat
  gid : Nat
  /-- `inode_info.mode` or `shm_info.mode` -/
  mode : Nat
  /-- `inode_info.sb_uuid` -/
  sbUuid : Uuid
  /-- `sb_info.uuid` -/
  uuid : Uuid
  /-- `msg_msg_info.type` -/
  mType : Int
  /-- `sock_info.type`, `sock_info.family`, `sock_info.protocol` -/
  sockType : Int
  family : Int
  protocol : Int
  /-- the snapshot `prov_record_ifc` takes of an IFC context -/
  ifc : Option IfcContext
  deriving DecidableEq

/-- The zero-filled record `alloc_provenance` returns for a kind. -/
def ProvMsg.zero (t : MsgType) : ProvMsg :=
  ⟨t,0,0,false,false,false,0,0,0,.zero,.zero,0,0,0,0,none⟩

/-- `long_prov_msg_t`: a file name (`MSG_FILE_NAME`) or a socket address (`MSG_ADDR`). -/
inductive LongMsg
  | fileName (name : List UInt8) (length : Nat)
  | address (addr : List UInt8) (length : Int)
  deriving DecidableEq

/-- What the hooks hand to the log sink, naming records by their addresses. -/
inductive SinkRec
  | edge (type : EdgeType) (src dst : Nat) (allowed : Bool)
  | longWrite (rec : Nat) (msg : LongMsg)
  | longEdge (type : EdgeType) (src : Nat) (dst : Nat) (allowed : Bool)
  deriving DecidableEq

/-- How a hook can go wrong. `badCall` is a call the host never makes: it names an object
that does not exist. -/
inductive Fault
  | nullDeref | danglingDeref | errPtrDeref | panic | badCall
  deriving DecidableEq, Repr

/-- The fields of `struct cred` the hooks read: `euid`, `egid`, and `cred->ifc`. -/
structure Cred where
  euid : Nat
  egid : Nat
  ifc : Option IfcContext
  deriving DecidableEq

/-- The fields of `struct inode` the hooks read; `ifc` is `inode_get_ifc(inode)`. -/
structure Inode where
  ino : Nat
  sb : Nat
  uid : Nat
  gid : Nat
  mode : Nat
  isPrivate : Bool
  ifc : Option IfcContext
  deriving DecidableEq

/-- `struct file`: `file_inode(file)` and the path of `file->f_path.dentry`. -/
structure File where
  inode : Nat
  path : List UInt8
  deriving DecidableEq

/-- `struct socket`: `sock->sk` and `SOCK_INODE(sock)`. -/
structure Socket where
  sk : Nat
  inode : Nat
  deriving DecidableEq

/-- `struct msg_msg`: `m_type` and `msg->ifc`. -/
structure MsgMsg where
  mType : Int
  ifc : Option IfcContext
  deriving DecidableEq

/-- `struct shmid_kernel`: `shm_perm.mode` and `shm_perm.ifc`. -/
structure Shm where
  mode : Nat
  ifc : Option IfcContext
  deriving DecidableEq

/-- `struct super_block`: `s_uuid`. -/
structure SuperBlock where
  sUuid : Uuid
  deriving DecidableEq

/-- A host object that carries a provenance pointer. -/
inductive Obj
  | cred (id : Nat) | inode (id : Nat) | sk (id : Nat) | msg (id : Nat) | shm (id : Nat)
  | sb (id : Nat)
  deriving DecidableEq, Repr

/-- The kind of record each object carries. -/
def Obj.kind : Obj → MsgType
  | .cred _ => .task
  | .inode _ => .inode
  | .sk _ => .sock
  | .msg _ => .msg
  | .shm _ => .shm
  | .sb _ => .sb

/-- The host objects by identifier: `sks` says which `struct sock`s exist. -/
structure Host where
  creds : Nat → Option Cred
  inodes : Nat → Option Inode
  files : Nat → Option File
  socks : Nat → Option Socket
  sks : Nat → Bool
  msgs : Nat → Option MsgMsg
  shms : Nat → Option Shm
  sbs : Nat → Option SuperBlock

/-- Whether a host object exists. -/
def Host.Live (h : Host) : Obj → Bool
  | .cred i => (h.creds i).isSome
  | .inode i => (h.inodes i).isSome
  | .sk i => h.sks i
  | .msg i => (h.msgs i).isSome
  | .shm i => (h.shms i).isSome
  | .sb i => (h.sbs i).isSome

/-- The kernel as the hooks see it: host objects, their provenance pointers, the records of
`provenance_cache`, the node identifier counter, the log, and the host's allocation oracle. -/
structure Kernel where
  host : Host
  sec : Obj → Option Nat
  heap : Nat → Option ProvMsg
  frees : Nat → Nat
  next : Nat
  nextNodeId : Nat
  allocOk : Nat → Bool
  allocs : Nat
  nextLong : Nat
  log : List SinkRec

end CamFlow.Provenance
