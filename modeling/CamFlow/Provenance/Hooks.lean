import CamFlow.Provenance.Monad

namespace CamFlow.Provenance

open CamFlow.Ifc

def MAY_EXEC : UInt32 := 1
def MAY_WRITE : UInt32 := 2
def MAY_READ : UInt32 := 4
def MAY_APPEND : UInt32 := 8

def PROT_READ : UInt64 := 1
def PROT_WRITE : UInt64 := 2
def PROT_EXEC : UInt64 := 4

def SHM_RDONLY : UInt32 := 0x1000

/-- `cred_init_provenance`: the record of the init task's credential. -/
def credInitProvenance (cred : Nat) : ProvM Unit := do
  let c ← getCred cred
  let prov ← allocProvenance .task
  if prov.isNone then fault .panic
  setNodeId prov ASSIGN_NODE_ID
  modifyNode prov fun m => { m with uid := c.euid, gid := c.egid }
  setProv (.cred cred) prov

def provenanceCredAllocBlank (cred : Nat) : ProvM Int := do
  let prov ← allocProvenance .task
  if prov.isNone then return -ENOMEM
  setNodeId prov ASSIGN_NODE_ID
  let c ← getCred cred
  modifyNode prov fun m => { m with uid := c.euid, gid := c.egid }
  setProv (.cred cred) prov
  return 0

def provenanceCredFree (cred : Nat) : ProvM Unit := do
  freeProvenance (← provOf (.cred cred))
  setProv (.cred cred) none

def provenanceCredPrepare (new old : Nat) : ProvM Int := do
  let oldProv ← provOf (.cred old)
  let prov ← allocProvenance .task
  if prov.isNone then return -ENOMEM
  setNodeId prov ASSIGN_NODE_ID
  let n ← getCred new
  modifyNode prov fun m => { m with uid := n.euid, gid := n.egid }
  let ctx ← ifcContext n.ifc
  if ifcIsLabelled ctx then
    modifyNode prov fun m => { m with tracked := true }
    provRecordIfc prov ctx
  recordEdge .edFork oldProv prov FLOW_ALLOWED
  setProv (.cred new) prov
  return 0

/-- `*prov=*old_prov`: the whole record of the old credential is copied over the new one's. -/
def provenanceCredTransfer (new old : Nat) : ProvM Unit := do
  let oldProv ← provOf (.cred old)
  let prov ← provOf (.cred new)
  let m ← node oldProv
  modifyNode prov fun _ => m

def provenanceTaskFixSetuid (new old : Nat) : ProvM Int := do
  let oldProv ← provOf (.cred old)
  let prov ← provOf (.cred new)
  recordEdge .edChange oldProv prov FLOW_ALLOWED
  return 0

def provenanceInodeAllocSecurity (cur inode : Nat) : ProvM Int := do
  let cprov ← currentProvenance cur
  let iprov ← allocProvenance .inode
  if iprov.isNone then return -ENOMEM
  let i ← getInode inode
  setNodeId iprov (some i.ino)
  modifyNode iprov fun m => { m with uid := i.uid, gid := i.gid, mode := i.mode }
  let sprov ← provOf (.sb i.sb)
  let sm ← node sprov
  modifyNode iprov fun m => { m with sbUuid := sm.uuid }
  setProv (.inode inode) iprov
  let ctx ← ifcContext i.ifc
  if ifcIsLabelled ctx then
    modifyNode iprov fun m => { m with tracked := true }
    provRecordIfc iprov ctx
  recordEdge .edCreate cprov iprov FLOW_ALLOWED
  return 0

/-- `if(!prov) free_provenance(prov)`: the record is released only when there is none. -/
def provenanceInodeFreeSecurity (inode : Nat) : ProvM Unit := do
  let prov ← provOf (.inode inode)
  if prov.isNone then freeProvenance prov
  setProv (.inode inode) none

def provenanceInodePermission (cur inode : Nat) (mask : UInt32) : ProvM Int := do
  let cprov ← currentProvenance cur
  let i ← getInode inode
  if i.isPrivate then return 0
  let iprov ← provOf (.inode inode)
  let iprov ← if iprov.isNone then do
      let _ ← provenanceInodeAllocSecurity cur inode
      provOf (.inode inode)
    else pure iprov
  let mask := mask &&& (MAY_READ ||| MAY_WRITE ||| MAY_EXEC ||| MAY_APPEND)
  if mask &&& (MAY_WRITE ||| MAY_APPEND)≠0 then recordEdge .edWrite cprov iprov FLOW_ALLOWED
  if mask &&& MAY_READ≠0 then recordEdge .edRead iprov cprov FLOW_ALLOWED
  if mask &&& MAY_EXEC≠0 then recordEdge .edExec iprov cprov FLOW_ALLOWED
  return 0

/-- The body of `provenance_inode_link` is commented out. -/
def provenanceInodeLink : ProvM Int := return 0

/-- `provenance_record_file_name`: the path of a tracked file's inode, recorded once. -/
def provenanceRecordFileName (file : Nat) : ProvM Unit := do
  let f ← getFile file
  let iprov ← provOf (.inode f.inode)
  let m ← node iprov
  if !m.nameRecorded && m.tracked then
    let buffer ← kzalloc
    let fnameProv ← allocLongProvenance
    let ptr ← dentryPathRaw f.path buffer
    let some name := ptr | fault .errPtrDeref
    let some l := fnameProv | fault .nullDeref
    longProvWrite l (.fileName name name.length)
    longRecordEdge .edNamed iprov l FLOW_ALLOWED
    modifyNode iprov fun m => { m with nameRecorded := true }

def provenanceFilePermission (cur file : Nat) (mask : UInt32) : ProvM Int := do
  let f ← getFile file
  provenanceRecordFileName file
  let _ ← provenanceInodePermission cur f.inode mask
  return 0

def provenanceFileOpen (cur file : Nat) : ProvM Int := do
  let cprov ← currentProvenance cur
  let f ← getFile file
  if (← provOf (.inode f.inode)).isNone then
    let _ ← provenanceInodeAllocSecurity cur f.inode
  provenanceRecordFileName file
  let iprov ← provOf (.inode f.inode)
  recordEdge .edOpen iprov cprov FLOW_ALLOWED
  return 0

/-- `provenance_mmap_file`; a null `file` is an anonymous mapping. -/
def provenanceMmapFile (cur : Nat) (file : Option Nat) (prot : UInt64) : ProvM Int := do
  let cprov ← currentProvenance cur
  let some file := file | return 0
  provenanceRecordFileName file
  let f ← getFile file
  let iprov ← provOf (.inode f.inode)
  let prot := prot &&& (PROT_EXEC ||| PROT_READ ||| PROT_WRITE)
  if prot &&& (PROT_WRITE ||| PROT_EXEC)≠0 then recordEdge .edMmap cprov iprov FLOW_ALLOWED
  if prot &&& (PROT_READ ||| PROT_EXEC ||| PROT_WRITE)≠0 then
    recordEdge .edMmap iprov cprov FLOW_ALLOWED
  return 0

def provenanceFileIoctl (cur file : Nat) : ProvM Int := do
  let cprov ← currentProvenance cur
  let f ← getFile file
  if (← provOf (.inode f.inode)).isNone then
    let _ ← provenanceInodeAllocSecurity cur f.inode
  provenanceRecordFileName file
  let iprov ← provOf (.inode f.inode)
  recordEdge .edWrite cprov iprov FLOW_ALLOWED
  provUpdateVersion iprov
  recordEdge .edRead iprov cprov FLOW_ALLOWED
  provUpdateVersion cprov
  return 0

/-- `if(!ifc){ if(ifc_is_labelled(&ifc->context)) ... }`: the context is read exactly when
the pointer is null. -/
def provenanceMsgMsgAllocSecurity (cur msg : Nat) : ProvM Int := do
  let cprov ← currentProvenance cur
  let mm ← getMsg msg
  let mprov ← allocProvenance .msg
  if mprov.isNone then return -ENOMEM
  setNodeId mprov ASSIGN_NODE_ID
  modifyNode mprov fun m => { m with mType := mm.mType }
  if mm.ifc.isNone then
    let ctx ← ifcContext mm.ifc
    if ifcIsLabelled ctx then
      modifyNode mprov fun m => { m with tracked := true }
      provRecordIfc mprov ctx
  setProv (.msg msg) mprov
  recordEdge .edCreate cprov mprov FLOW_ALLOWED
  return 0

def provenanceMsgMsgFreeSecurity (msg : Nat) : ProvM Unit := do
  let prov ← provOf (.msg msg)
  setProv (.msg msg) none
  freeProvenance prov

def provenanceMsgQueueMsgsnd (cur msg : Nat) : ProvM Int := do
  let cprov ← currentProvenance cur
  let mprov ← provOf (.msg msg)
  recordEdge .edWrite cprov mprov FLOW_ALLOWED
  return 0

/-- `provenance_msg_queue_msgrcv` reads the record of the receiving task's credential. -/
def provenanceMsgQueueMsgrcv (msg target : Nat) : ProvM Int := do
  let cprov ← provOf (.cred target)
  let mprov ← provOf (.msg msg)
  recordEdge .edRead mprov cprov FLOW_ALLOWED
  return 0

def provenanceShmAllocSecurity (cur shm : Nat) : ProvM Int := do
  let cprov ← currentProvenance cur
  let sh ← getShm shm
  let sprov ← allocProvenance .shm
  if sprov.isNone then return -ENOMEM
  setNodeId sprov ASSIGN_NODE_ID
  modifyNode sprov fun m => { m with mode := sh.mode }
  if sh.ifc.isNone then
    let ctx ← ifcContext sh.ifc
    if ifcIsLabelled ctx then
      modifyNode sprov fun m => { m with tracked := true }
      provRecordIfc sprov ctx
  setProv (.shm shm) sprov
  recordEdge .edAttach sprov cprov FLOW_ALLOWED
  recordEdge .edAttach cprov sprov FLOW_ALLOWED
  return 0

def provenanceShmFreeSecurity (shm : Nat) : ProvM Unit := do
  freeProvenance (← provOf (.shm shm))
  setProv (.shm shm) none

def provenanceShmShmat (cur shm : Nat) (shmflg : UInt32) : ProvM Int := do
  let cprov ← currentProvenance cur
  let sprov ← provOf (.shm shm)
  if sprov.isNone then return -ENOMEM
  if shmflg &&& SHM_RDONLY≠0 then
    recordEdge .edAttach sprov cprov FLOW_ALLOWED
  else
    recordEdge .edAttach sprov cprov FLOW_ALLOWED
    recordEdge .edAttach cprov sprov FLOW_ALLOWED
  return 0

def provenanceSkAllocSecurity (sk : Nat) : ProvM Int := do
  let skprov ← allocProvenance .sock
  if skprov.isNone then return -ENOMEM
  setNodeId skprov ASSIGN_NODE_ID
  setProv (.sk sk) skprov
  return 0

def provenanceSkFreeSecurity (sk : Nat) : ProvM Unit := do
  freeProvenance (← provOf (.sk sk))
  setProv (.sk sk) none

def provenanceSocketPostCreate (cur sock : Nat) (family type protocol kern : Int) :
    ProvM Int := do
  let cprov ← currentProvenance cur
  let so ← getSocket sock
  let iprov ← provOf (.inode so.inode)
  if kern≠0 then return 0
  if (← provOf (.sk so.sk)).isNone then
    let _ ← provenanceSkAllocSecurity so.sk
  let skprov ← provOf (.sk so.sk)
  modifyNode skprov fun m => { m with sockType := type, family := family, protocol := protocol }
  recordEdge .edCreate cprov skprov FLOW_ALLOWED
  recordEdge .edAssociate skprov iprov FLOW_ALLOWED
  return 0

/-- `provenance_record_address`: the address of a tracked socket, recorded once. -/
def provenanceRecordAddress (sock : Nat) (address : List UInt8) (addrlen : Int) :
    ProvM Unit := do
  let so ← getSocket sock
  let skprov ← provOf (.sk so.sk)
  let m ← node skprov
  if !m.nameRecorded && m.tracked then
    let some l ← allocLongProvenance | fault .nullDeref
    longProvWrite l (.address (address.take addrlen.toNat) addrlen)
    longRecordEdge .edNamed skprov l FLOW_ALLOWED
    modifyNode skprov fun m => { m with nameRecorded := true }

/-- `provenance_socket_bind` and `provenance_socket_connect`, which differ in the edge type. -/
def provenanceSocketAddress (t : EdgeType) (cur sock : Nat) (address : List UInt8)
    (addrlen : Int) : ProvM Int := do
  let cprov ← currentProvenance cur
  let so ← getSocket sock
  let skprov ← provOf (.sk so.sk)
  if (← node cprov).isOpaque then return 0
  if skprov.isNone then return -ENOMEM
  provenanceRecordAddress sock address addrlen
  recordEdge t cprov skprov FLOW_ALLOWED
  return 0

def provenanceSocketBind (cur sock : Nat) (address : List UInt8) (addrlen : Int) : ProvM Int :=
  provenanceSocketAddress .edBind cur sock address addrlen

def provenanceSocketConnect (cur sock : Nat) (address : List UInt8) (addrlen : Int) :
    ProvM Int :=
  provenanceSocketAddress .edConnect cur sock address addrlen

def provenanceSocketListen (cur sock : Nat) : ProvM Int := do
  let cprov ← currentProvenance cur
  let so ← getSocket sock
  let skprov ← provOf (.sk so.sk)
  recordEdge .edListen cprov skprov FLOW_ALLOWED
  return 0

def provenanceSocketSendmsg (cur sock : Nat) : ProvM Int := do
  let so ← getSocket sock
  provenanceInodePermission cur so.inode MAY_WRITE

def provenanceSocketRecvmsg (cur sock : Nat) : ProvM Int := do
  let so ← getSocket sock
  provenanceInodePermission cur so.inode MAY_READ

def provenanceSocketAccept (cur sock newsock : Nat) : ProvM Int := do
  let cprov ← currentProvenance cur
  let so ← getSocket sock
  let skprov ← provOf (.inode so.inode)
  let nso ← getSocket newsock
  let nskprov ← provOf (.inode nso.inode)
  recordEdge .edCreate skprov nskprov FLOW_ALLOWED
  recordEdge .edAccept nskprov cprov FLOW_ALLOWED
  return 0

def provenanceUnixStreamConnect (cur sk other newsk : Nat) : ProvM Int := do
  let cprov ← currentProvenance cur
  let skprov ← provOf (.sk sk)
  let nskprov ← provOf (.sk newsk)
  let okprov ← provOf (.sk other)
  recordEdge .edConnect cprov skprov FLOW_ALLOWED
  recordEdge .edAssociate skprov nskprov FLOW_ALLOWED
  recordEdge .edAssociate skprov okprov FLOW_ALLOWED
  return 0

def provenanceUnixMaySend (sock other : Nat) : ProvM Int := do
  let so ← getSocket sock
  let skprov ← provOf (.sk so.sk)
  let oo ← getSocket other
  let okprov ← provOf (.sk oo.sk)
  recordEdge .edUnknown skprov okprov FLOW_ALLOWED
  return 0

/-- `provenance_bprm_set_creds`, for the credential `bprm->cred`. -/
def provenanceBprmSetCreds (cred : Nat) : ProvM Int := do
  if (← provOf (.cred cred)).isNone then provenanceCredAllocBlank cred
  else return 0

/-- `provenance_bprm_committing_creds`, for `bprm->cred` and `bprm->file`. -/
def provenanceBprmCommittingCreds (cur cred file : Nat) : ProvM Unit := do
  let cprov ← currentProvenance cur
  let nprov ← provOf (.cred cred)
  let f ← getFile file
  let iprov ← provOf (.inode f.inode)
  recordEdge .edCreate cprov nprov FLOW_ALLOWED
  recordEdge .edCreate iprov nprov FLOW_ALLOWED

def provenanceSbAllocSecurity (sb : Nat) : ProvM Int := do
  let sbprov ← allocProvenance .sb
  if sbprov.isNone then return -ENOMEM
  setProv (.sb sb) sbprov
  return 0

def provenanceSbFreeSecurity (sb : Nat) : ProvM Unit := do
  freeProvenance (← provOf (.sb sb))
  setProv (.sb sb) none

/-- The loop of `provenance_sb_kern_mount`: each byte of `s_uuid` is copied and or-ed into `c`. -/
def kernMountLoop : List UInt8 → UInt8 → List UInt8 × UInt8
  | [],c => ([],c)
  | b::bs,c =>
    let r := kernMountLoop bs (c ||| b)
    (b::r.1,r.2)

theorem kernMountLoop_fst (bs : List UInt8) (c : UInt8) : (kernMountLoop bs c).1=bs := by
  induction bs generalizing c with
  | nil => rfl
  | cons b bs ih => simp [kernMountLoop,ih]

theorem uint8_or_eq_zero (a b : UInt8) : a ||| b=0 ↔ a=0 ∧ b=0 := by
  have iff0 {x : UInt8} : x=0 ↔ x.toNat=0 :=
    ⟨fun h => h ▸ UInt8.toNat_zero,fun h => UInt8.toNat.inj (h.trans UInt8.toNat_zero.symm)⟩
  have h : (a ||| b).toNat=a.toNat ||| b.toNat := BitVec.toNat_or _ _
  rw [iff0,iff0,iff0,h]
  refine ⟨fun h0 => ⟨?_,?_⟩,fun ⟨ha,hb⟩ => by rw [ha,hb]; rfl⟩ <;>
    refine Nat.eq_zero_of_le_zero (h0 ▸ Nat.le_of_testBit fun i hi => ?_) <;> simp [hi]

/-- The or-accumulator ends at zero exactly when it starts at zero and every byte is zero. -/
theorem kernMountLoop_snd_eq_zero (bs : List UInt8) (c : UInt8) :
    (kernMountLoop bs c).2=0 ↔ c=0 ∧ ∀ b ∈ bs, b=0 := by
  induction bs generalizing c with
  | nil => simp [kernMountLoop]
  | cons b bs ih => simp [kernMountLoop,ih,uint8_or_eq_zero,and_assoc]

/-- `provenance_sb_kern_mount`, given the bytes `get_random_bytes` would return. -/
def provenanceSbKernMount (sb : Nat) (random : Uuid) : ProvM Int := do
  let sbprov ← provOf (.sb sb)
  let s ← getSb sb
  let r := kernMountLoop s.sUuid.bytes 0
  modifyNode sbprov fun m =>
    { m with uuid := ⟨r.1,by rw [kernMountLoop_fst]; exact s.sUuid.length_eq⟩ }
  if r.2=0 then modifyNode sbprov fun m => { m with uuid := random }
  return 0

end CamFlow.Provenance
