import CamFlow.Provenance.Hooks

namespace CamFlow.Provenance

open CamFlow.Ifc

/-- The host object `o` is destroyed. -/
def Host.erase (h : Host) : Obj → Host
  | .cred i => { h with creds := Function.update h.creds i none }
  | .inode i => { h with inodes := Function.update h.inodes i none }
  | .sk i => { h with sks := Function.update h.sks i false }
  | .msg i => { h with msgs := Function.update h.msgs i none }
  | .shm i => { h with shms := Function.update h.shms i none }
  | .sb i => { h with sbs := Function.update h.sbs i none }

def getHost : ProvM Host := fun s => .ok (s.host,s)

def modifyHost (f : Host → Host) : ProvM Unit := fun s => .ok ((),{s with host := f s.host})

theorem getHost_bind {β : Type} (f : Host → ProvM β) (s : Kernel) :
    (getHost >>= f) s=f s.host s := rfl

theorem modifyHost_bind {β : Type} (g : Host → Host) (f : Unit → ProvM β) (s : Kernel) :
    (modifyHost g >>= f) s=f () {s with host := g s.host} := rfl

/-- The host creates `o` and runs its allocation hook; when the hook fails the object is not
created. -/
def create (o : Obj) (add : Host → Host) (hook : ProvM Int) : ProvM Int := do
  if (← getHost).Live o then fault .badCall
  modifyHost add
  let r ← hook
  if r≠0 then modifyHost (·.erase o)
  return r

/-- The host runs the free hook of `o` and destroys it. -/
def destroy (o : Obj) (hook : ProvM Unit) : ProvM Int := do
  hook
  modifyHost (·.erase o)
  return 0

/-- A host object with the fields the hooks read. -/
inductive HostObj
  | cred (c : Cred) | inode (i : Inode) | sk | msg (m : MsgMsg) | shm (sh : Shm)
  | sb (s : SuperBlock)

def HostObj.obj (i : Nat) : HostObj → Obj
  | .cred _ => .cred i
  | .inode _ => .inode i
  | .sk => .sk i
  | .msg _ => .msg i
  | .shm _ => .shm i
  | .sb _ => .sb i

/-- The host with `x` added under identifier `i`. -/
def HostObj.insert (i : Nat) (x : HostObj) (h : Host) : Host :=
  match x with
  | .cred c => { h with creds := Function.update h.creds i (some c) }
  | .inode n => { h with inodes := Function.update h.inodes i (some n) }
  | .sk => { h with sks := Function.update h.sks i true }
  | .msg m => { h with msgs := Function.update h.msgs i (some m) }
  | .shm sh => { h with shms := Function.update h.shms i (some sh) }
  | .sb s => { h with sbs := Function.update h.sbs i (some s) }

/-- What the host does: a hook of `provenance_hooks[]` (`cur` is the credential of `current`),
or it creates a file, a socket, or an object no allocation hook ran for (spec 4.3). -/
inductive Event
  | credAllocBlank (cred : Nat) (c : Cred)
  | credFree (cred : Nat)
  | credPrepare (new old : Nat) (c : Cred)
  | credTransfer (new old : Nat)
  | taskFixSetuid (new old : Nat)
  | inodeAllocSecurity (cur inode : Nat) (i : Inode)
  | inodeFreeSecurity (inode : Nat)
  | inodePermission (cur inode : Nat) (mask : UInt32)
  | filePermission (cur file : Nat) (mask : UInt32)
  | mmapFile (cur : Nat) (file : Option Nat) (prot : UInt64)
  | fileIoctl (cur file : Nat)
  | inodeLink
  | msgMsgAllocSecurity (cur msg : Nat) (m : MsgMsg)
  | msgMsgFreeSecurity (msg : Nat)
  | msgQueueMsgsnd (cur msg : Nat)
  | msgQueueMsgrcv (msg target : Nat)
  | shmAllocSecurity (cur shm : Nat) (sh : Shm)
  | shmFreeSecurity (shm : Nat)
  | shmShmat (cur shm : Nat) (shmflg : UInt32)
  | skAllocSecurity (sk : Nat)
  | skFreeSecurity (sk : Nat)
  | socketPostCreate (cur sock : Nat) (family type protocol kern : Int)
  | socketBind (cur sock : Nat) (address : List UInt8) (addrlen : Int)
  | socketConnect (cur sock : Nat) (address : List UInt8) (addrlen : Int)
  | socketListen (cur sock : Nat)
  | socketSendmsg (cur sock : Nat)
  | socketRecvmsg (cur sock : Nat)
  | socketAccept (cur sock newsock : Nat)
  | unixStreamConnect (cur sk other newsk : Nat)
  | unixMaySend (sock other : Nat)
  | bprmSetCreds (cred : Nat)
  | bprmCommittingCreds (cur cred file : Nat)
  | sbAllocSecurity (sb : Nat) (s : SuperBlock)
  | sbFreeSecurity (sb : Nat)
  | sbKernMount (sb : Nat) (random : Uuid)
  | fileOpen (cur file : Nat)
  | fileCreate (file : Nat) (f : File)
  | socketCreate (sock : Nat) (so : Socket)
  | createUnhooked (i : Nat) (x : HostObj)

/-- One step of the host: the hook an event runs, with the object it creates or destroys. -/
def hostStep : Event → ProvM Int
  | .credAllocBlank cred c =>
    create (.cred cred) (fun h => { h with creds := Function.update h.creds cred (some c) })
      (provenanceCredAllocBlank cred)
  | .credFree cred => destroy (.cred cred) (provenanceCredFree cred)
  | .credPrepare new old c =>
    create (.cred new) (fun h => { h with creds := Function.update h.creds new (some c) })
      (provenanceCredPrepare new old)
  | .credTransfer new old => do provenanceCredTransfer new old; return 0
  | .taskFixSetuid new old => provenanceTaskFixSetuid new old
  | .inodeAllocSecurity cur inode i =>
    create (.inode inode) (fun h => { h with inodes := Function.update h.inodes inode (some i) })
      (provenanceInodeAllocSecurity cur inode)
  | .inodeFreeSecurity inode => destroy (.inode inode) (provenanceInodeFreeSecurity inode)
  | .inodePermission cur inode mask => provenanceInodePermission cur inode mask
  | .filePermission cur file mask => provenanceFilePermission cur file mask
  | .mmapFile cur file prot => provenanceMmapFile cur file prot
  | .fileIoctl cur file => provenanceFileIoctl cur file
  | .inodeLink => provenanceInodeLink
  | .msgMsgAllocSecurity cur msg m =>
    create (.msg msg) (fun h => { h with msgs := Function.update h.msgs msg (some m) })
      (provenanceMsgMsgAllocSecurity cur msg)
  | .msgMsgFreeSecurity msg => destroy (.msg msg) (provenanceMsgMsgFreeSecurity msg)
  | .msgQueueMsgsnd cur msg => provenanceMsgQueueMsgsnd cur msg
  | .msgQueueMsgrcv msg target => provenanceMsgQueueMsgrcv msg target
  | .shmAllocSecurity cur shm sh =>
    create (.shm shm) (fun h => { h with shms := Function.update h.shms shm (some sh) })
      (provenanceShmAllocSecurity cur shm)
  | .shmFreeSecurity shm => destroy (.shm shm) (provenanceShmFreeSecurity shm)
  | .shmShmat cur shm shmflg => provenanceShmShmat cur shm shmflg
  | .skAllocSecurity sk =>
    create (.sk sk) (fun h => { h with sks := Function.update h.sks sk true })
      (provenanceSkAllocSecurity sk)
  | .skFreeSecurity sk => destroy (.sk sk) (provenanceSkFreeSecurity sk)
  | .socketPostCreate cur sock family type protocol kern =>
    provenanceSocketPostCreate cur sock family type protocol kern
  | .socketBind cur sock address addrlen => provenanceSocketBind cur sock address addrlen
  | .socketConnect cur sock address addrlen => provenanceSocketConnect cur sock address addrlen
  | .socketListen cur sock => provenanceSocketListen cur sock
  | .socketSendmsg cur sock => provenanceSocketSendmsg cur sock
  | .socketRecvmsg cur sock => provenanceSocketRecvmsg cur sock
  | .socketAccept cur sock newsock => provenanceSocketAccept cur sock newsock
  | .unixStreamConnect cur sk other newsk => provenanceUnixStreamConnect cur sk other newsk
  | .unixMaySend sock other => provenanceUnixMaySend sock other
  | .bprmSetCreds cred => provenanceBprmSetCreds cred
  | .bprmCommittingCreds cur cred file => do provenanceBprmCommittingCreds cur cred file; return 0
  | .sbAllocSecurity sb s =>
    create (.sb sb) (fun h => { h with sbs := Function.update h.sbs sb (some s) })
      (provenanceSbAllocSecurity sb)
  | .sbFreeSecurity sb => destroy (.sb sb) (provenanceSbFreeSecurity sb)
  | .sbKernMount sb random => provenanceSbKernMount sb random
  | .fileOpen cur file => provenanceFileOpen cur file
  | .fileCreate file f => do
    modifyHost fun h => { h with files := Function.update h.files file (some f) }
    return 0
  | .socketCreate sock so => do
    modifyHost fun h => { h with socks := Function.update h.socks sock (some so) }
    return 0
  | .createUnhooked i x => create (x.obj i) (x.insert i) (pure 0)

/-- A run of the host: the events in order, stopping at the first fault. -/
def run : List Event → Kernel → Except Fault Kernel
  | [],k => .ok k
  | e::es,k =>
    match hostStep e k with
    | .ok (_,k') => run es k'
    | .error f => .error f

/-- The kernel before `provenance_add_hooks`: the init task's credential `0` and nothing else;
`allocOk` says which allocations will succeed. -/
def Kernel.start (allocOk : Nat → Bool) (init : Cred) : Kernel where
  host :=
    { creds := Function.update (fun _ => none) 0 (some init)
      inodes := fun _ => none
      files := fun _ => none
      socks := fun _ => none
      sks := fun _ => false
      msgs := fun _ => none
      shms := fun _ => none
      sbs := fun _ => none }
  sec := fun _ => none
  heap := fun _ => none
  frees := fun _ => 0
  next := 0
  nextNodeId := 0
  allocOk := allocOk
  allocs := 0
  nextLong := 0
  log := []

/-- `provenance_add_hooks`: `cred_init_provenance` on the start kernel. -/
def boot (allocOk : Nat → Bool) (init : Cred) : Except Fault Kernel :=
  match credInitProvenance 0 (Kernel.start allocOk init) with
  | .ok (_,k) => .ok k
  | .error f => .error f

/-- The states the hook layer can be in: after boot, then any run. -/
inductive Reachable : Kernel → Prop
  | boot {allocOk : Nat → Bool} {init : Cred} {k : Kernel} :
    CamFlow.Provenance.boot allocOk init = .ok k → Reachable k
  | step {k k' : Kernel} {e : Event} {r : Int} :
    Reachable k → hostStep e k = .ok (r,k') → Reachable k'

theorem Reachable.run {k k' : Kernel} (hk : Reachable k) :
    ∀ {es : List Event}, CamFlow.Provenance.run es k = .ok k' → Reachable k'
  | [],h => by cases h; exact hk
  | e::es,h => by
    simp only [CamFlow.Provenance.run] at h
    split at h
    · next r k₁ h₁ => exact (hk.step h₁).run h
    · cases h

/-- Boot, then a run. -/
def bootRun (allocOk : Nat → Bool) (init : Cred) (es : List Event) : Except Fault Kernel :=
  (boot allocOk init).bind (run es)

theorem Reachable.of_bootRun {allocOk : Nat → Bool} {init : Cred} {es : List Event} {k : Kernel}
    (h : bootRun allocOk init es=.ok k) : Reachable k := by
  unfold bootRun at h
  cases hb : CamFlow.Provenance.boot allocOk init with
  | error => rw [hb] at h; cases h
  | ok k₀ => rw [hb] at h; exact (Reachable.boot hb).run h

/-- A context with one secrecy tag. -/
def labelledContext : IfcContext :=
  { IfcContext.empty with secrecy := ⟨[1],List.nodup_singleton 1⟩ }

def rootCred : Cred := ⟨0,0,some .empty⟩

def zeroSb : SuperBlock := ⟨.zero⟩

/-- Inode `7` of superblock `0`, carrying the labelled context. -/
def labelledInode : Inode := ⟨7,0,0,0,0,false,some labelledContext⟩

instance decEqExceptFault {α : Type} [DecidableEq α] : DecidableEq (Except Fault α)
  | .ok a,.ok b => if h : a=b then isTrue (h ▸ rfl) else isFalse fun e => h (by cases e; rfl)
  | .error e,.error e' =>
    if h : e=e' then isTrue (h ▸ rfl) else isFalse fun h' => h (by cases h'; rfl)
  | .ok _,.error _ => isFalse fun h => by cases h
  | .error _,.ok _ => isFalse fun h => by cases h

theorem ok_of_map {α β : Type} {x : Except Fault α} {v : α → β} {b : β} (h : x.map v=.ok b) :
    ∃ a, x=.ok a ∧ v a=b := by
  cases x with
  | error => cases h
  | ok a => cases h; exact ⟨a,rfl,rfl⟩

/-- A step from a kernel a concrete run reaches. -/
theorem ok_of_bind_map {α β γ : Type} {x : Except Fault α} {a : α} (hx : x=.ok a)
    {f : α → Except Fault β} {v : β → γ} {c : γ} (h : (x.bind fun a => (f a).map v)=.ok c) :
    ∃ b, f a=.ok b ∧ v b=c := by
  subst hx; exact ok_of_map h

end CamFlow.Provenance
