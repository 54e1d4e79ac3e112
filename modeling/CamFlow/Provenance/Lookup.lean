import CamFlow.Provenance.Ownership

namespace CamFlow.Provenance

open CamFlow.Ifc Function

/-- A computation that returns 0 whenever it returns. -/
def ReturnsZero (m : ProvM Int) : Prop := ∀ s r s', m s=.ok (r,s') → r=0

namespace ReturnsZero

theorem bind {α : Type} {m : ProvM α} {f : α → ProvM Int} (hf : ∀ a, ReturnsZero (f a)) :
    ReturnsZero (m >>= f) :=
  fun _ _ _ h => let ⟨a,_,_,h⟩ := bind_ok h; hf a _ _ _ h

theorem ite {c : Prop} [Decidable c] {m₁ m₂ : ProvM Int} (h₁ : ReturnsZero m₁)
    (h₂ : ReturnsZero m₂) : ReturnsZero (if c then m₁ else m₂) := by
  split <;> assumption

theorem zero : ReturnsZero (pure 0) := fun _ _ _ h => by cases h; rfl

/-- The host creating an object and running no hook for it. -/
theorem create {o : Obj} {add : Host → Host} : ReturnsZero (create o add (pure 0)) :=
  fun s _ _ h => by
    simp only [CamFlow.Provenance.create,getHost_bind] at h
    split at h <;> cases h
    rfl

end ReturnsZero

/-- The setup hooks; every other event mediates an operation. -/
def Event.setup : Event → Bool
  | .credAllocBlank _ _ | .credPrepare _ _ _ | .inodeAllocSecurity _ _ _
  | .msgMsgAllocSecurity _ _ _ | .shmAllocSecurity _ _ _ | .skAllocSecurity _
  | .sbAllocSecurity _ _ | .bprmSetCreds _ => true
  | _ => false

/-- The mediated events whose hook returns `-ENOMEM` when the object's record is missing. -/
def Event.checksRecord : Event → Bool
  | .shmShmat _ _ _ | .socketBind _ _ _ _ | .socketConnect _ _ _ _ => true
  | _ => false

/-- When these hooks return `-ENOMEM`: the segment has no record, or the sock has none and the
calling task is not opaque. -/
def Event.Refuses (s : Kernel) : Event → Prop
  | .shmShmat _ shm _ => s.sec (.shm shm)=none
  | .socketBind cur sock _ _ | .socketConnect cur sock _ _ =>
    ∃ so, s.host.socks sock=some so ∧ s.sec (.sk so.sk)=none ∧
      ∀ cp m, s.sec (.cred cur)=some cp → s.heap cp=some m → m.isOpaque=false
  | _ => False

theorem returnsZero_inodePermission (cur inode : Nat) (mask : UInt32) :
    ReturnsZero (provenanceInodePermission cur inode mask) := by
  refine .bind fun _ => .bind fun _ => .ite .zero (.bind fun _ => .bind fun _ =>
    .ite (.bind fun _ => .bind fun _ => ?_) (.bind fun _ => ?_)) <;>
  refine .ite (.bind fun _ => ?_) (.bind fun _ => ?_) <;>
  refine .ite (.bind fun _ => ?_) (.bind fun _ => ?_) <;>
  exact .ite (.bind fun _ => .zero) (.bind fun _ => .zero)

theorem returnsZero_fileOpen (cur file : Nat) : ReturnsZero (provenanceFileOpen cur file) := by
  refine .bind fun _ => .bind fun _ => .bind fun _ =>
    .ite (.bind fun _ => .bind fun _ => ?_) (.bind fun _ => ?_) <;>
  exact .bind fun _ => .bind fun _ => .bind fun _ => .zero

theorem returnsZero_fileIoctl (cur file : Nat) : ReturnsZero (provenanceFileIoctl cur file) := by
  refine .bind fun _ => .bind fun _ => .bind fun _ =>
    .ite (.bind fun _ => .bind fun _ => ?_) (.bind fun _ => ?_) <;>
  exact .bind fun _ => .bind fun _ => .bind fun _ => .bind fun _ => .bind fun _ =>
    .bind fun _ => .zero

theorem returnsZero_mmapFile (cur : Nat) (file : Option Nat) (prot : UInt64) :
    ReturnsZero (provenanceMmapFile cur file prot) := by
  refine .bind fun _ => ?_
  rcases file with _ | file
  · exact .zero
  · refine .bind fun _ => .bind fun _ => .bind fun _ =>
      .ite (.bind fun _ => ?_) (.bind fun _ => ?_) <;>
    exact .ite (.bind fun _ => .zero) (.bind fun _ => .zero)

theorem returnsZero_socketPostCreate (cur sock : Nat) (family type protocol kern : Int) :
    ReturnsZero (provenanceSocketPostCreate cur sock family type protocol kern) := by
  refine .bind fun _ => .bind fun _ => .bind fun _ => .ite .zero (.bind fun _ => .bind fun _ =>
    .ite (.bind fun _ => .bind fun _ => ?_) (.bind fun _ => ?_)) <;>
  exact .bind fun _ => .bind fun _ => .bind fun _ => .bind fun _ => .zero

theorem returnsZero_sbKernMount (sb : Nat) (random : Uuid) :
    ReturnsZero (provenanceSbKernMount sb random) :=
  .bind fun _ => .bind fun _ => .bind fun _ => .ite (.bind fun _ => .zero) (.bind fun _ => .zero)

/-- Every mediated hook but the three that check for a missing record returns 0 on each path;
a free hook is followed by the host's `return 0`. -/
theorem hostStep_returnsZero {e : Event} (he : e.setup=false) (hc : e.checksRecord=false) :
    ReturnsZero (hostStep e) := by
  cases e with
  | taskFixSetuid | msgQueueMsgsnd | msgQueueMsgrcv | filePermission =>
    exact .bind fun _ => .bind fun _ => .bind fun _ => .zero
  | inodePermission cur inode mask => exact returnsZero_inodePermission cur inode mask
  | mmapFile cur file prot => exact returnsZero_mmapFile cur file prot
  | fileIoctl cur file => exact returnsZero_fileIoctl cur file
  | fileOpen cur file => exact returnsZero_fileOpen cur file
  | inodeLink => exact .zero
  | socketPostCreate cur sock family type protocol kern =>
    exact returnsZero_socketPostCreate cur sock family type protocol kern
  | socketListen => exact .bind fun _ => .bind fun _ => .bind fun _ => .bind fun _ => .zero
  | socketSendmsg | socketRecvmsg => exact .bind fun _ => returnsZero_inodePermission _ _ _
  | socketAccept | unixStreamConnect =>
    exact .bind fun _ => .bind fun _ => .bind fun _ => .bind fun _ => .bind fun _ =>
      .bind fun _ => .bind fun _ => .zero
  | unixMaySend =>
    exact .bind fun _ => .bind fun _ => .bind fun _ => .bind fun _ => .bind fun _ => .zero
  | sbKernMount sb random => exact returnsZero_sbKernMount sb random
  | credTransfer | bprmCommittingCreds | fileCreate | socketCreate => exact .bind fun _ => .zero
  | createUnhooked => exact .create
  | credFree | inodeFreeSecurity | msgMsgFreeSecurity | shmFreeSecurity | skFreeSecurity
  | sbFreeSecurity => exact .bind fun _ => .bind fun _ => .zero
  | credAllocBlank | credPrepare | inodeAllocSecurity | msgMsgAllocSecurity | shmAllocSecurity
  | skAllocSecurity | sbAllocSecurity | bprmSetCreds => cases he
  | shmShmat | socketBind | socketConnect => cases hc

/-- `provenance_shm_shmat` returns `-ENOMEM`, changing nothing, exactly when the segment has no
record. -/
theorem shmShmat_returns {cur shm : Nat} {shmflg : UInt32} {s s' : Kernel} {r : Int}
    (h : provenanceShmShmat cur shm shmflg s=.ok (r,s')) :
    (r=0 ∨ r=-ENOMEM ∧ s'=s) ∧ (r=-ENOMEM ↔ s.sec (.shm shm)=none) := by
  simp only [provenanceShmShmat,currentProvenance,provOf_bind] at h
  split at h <;> [skip; cases h]
  split at h <;> [skip; cases h]
  split at h
  · next hn => cases h; exact ⟨.inr ⟨rfl,rfl⟩,iff_of_true rfl (Option.isNone_iff_eq_none.1 hn)⟩
  · next hn =>
    have h0 := (ReturnsZero.bind fun _ => .ite (.bind fun _ => .zero)
      (.bind fun _ => .bind fun _ => .zero)) _ _ _ h
    subst h0
    exact ⟨.inl rfl,iff_of_false (by decide) fun e => hn (by rw [e]; rfl)⟩

/-- `provenance_socket_bind` and `provenance_socket_connect` return `-ENOMEM`, changing nothing,
exactly when the calling task is not opaque and the sock has no record. -/
theorem socketAddress_returns {t : EdgeType} {cur sock : Nat} {address : List UInt8}
    {addrlen : Int} {s s' : Kernel} {r : Int}
    (h : provenanceSocketAddress t cur sock address addrlen s=.ok (r,s')) :
    (r=0 ∨ r=-ENOMEM ∧ s'=s) ∧ (r=-ENOMEM ↔ ∃ so, s.host.socks sock=some so ∧
      s.sec (.sk so.sk)=none ∧ ∀ cp m, s.sec (.cred cur)=some cp → s.heap cp=some m →
        m.isOpaque=false) := by
  simp only [provenanceSocketAddress,currentProvenance,getSocket,provOf_bind,getObj_bind,
    bind_assoc,node_bind] at h
  split at h <;> [skip; cases h]
  split at h <;> [skip; cases h]
  next so hso =>
  split at h <;> [skip; cases h]
  split at h <;> [cases h; skip]
  next cp hcp =>
  split at h <;> [skip; cases h]
  next m hm =>
  have hop : (∀ cp' m', s.sec (.cred cur)=some cp' → s.heap cp'=some m' → m'.isOpaque=false) ↔
      m.isOpaque=false := ⟨fun h => h cp m hcp hm,fun h _ _ h₁ h₂ => by
        rw [hcp] at h₁; cases h₁; rw [hm] at h₂; cases h₂; exact h⟩
  split at h
  · next ho =>
    cases h
    exact ⟨.inl rfl,iff_of_false (by decide) fun ⟨so',hso',_,hn⟩ => by
      cases hso.symm.trans hso'; simp [hop.1 hn] at ho⟩
  · next ho =>
    simp only [pure_bind] at h
    split at h
    · next hn =>
      cases h
      exact ⟨.inr ⟨rfl,rfl⟩,iff_of_true rfl ⟨so,hso,Option.isNone_iff_eq_none.1 hn,
        hop.2 (by simpa using ho)⟩⟩
    · next hn =>
      have h0 := (ReturnsZero.bind fun _ => .bind fun _ => .zero) _ _ _ h
      subst h0
      exact ⟨.inl rfl,iff_of_false (by decide) fun ⟨so',hso',hn',_⟩ => by
        cases hso.symm.trans hso'; simp [hn'] at hn⟩

/-- In every kernel a mediated hook that returns, returns 0 or `-ENOMEM`, and `-ENOMEM` exactly
when it is `shm_shmat`, `socket_bind` or `socket_connect` on an object with no record. -/
theorem mediated_hooks_return_zero {k k' : Kernel} {e : Event} {r : Int} (he : e.setup=false)
    (h : hostStep e k=.ok (r,k')) : (r=0 ∨ r=-ENOMEM) ∧ (r=-ENOMEM ↔ e.Refuses k) := by
  cases hc : e.checksRecord
  · have h0 := hostStep_returnsZero he hc _ _ _ h
    subst h0
    refine ⟨.inl rfl,iff_of_false (by decide) fun hr => ?_⟩
    cases e <;> first | exact hr | cases hc
  · cases e <;> try cases hc
    · obtain ⟨h₁,h₂⟩ := shmShmat_returns h; exact ⟨h₁.imp_right (·.1),h₂⟩
    all_goals obtain ⟨h₁,h₂⟩ := socketAddress_returns h; exact ⟨h₁.imp_right (·.1),h₂⟩

/-- A sock the host made with no record: binding a socket on it returns `-ENOMEM`. -/
theorem unhooked_sock_bind_refused :
    ∃ k k', bootRun (fun _ => true) rootCred [.createUnhooked 0 .sk,.socketCreate 0 ⟨0,0⟩]=.ok k ∧
      (Event.socketBind 0 0 [127,0,0,1] 4).setup=false ∧
      hostStep (.socketBind 0 0 [127,0,0,1] 4) k=.ok (-ENOMEM,k') ∧
      ((-ENOMEM=0 ∨ -ENOMEM=-ENOMEM) ∧
        (-ENOMEM=-ENOMEM ↔ (Event.socketBind 0 0 [127,0,0,1] 4).Refuses k)) := by
  obtain ⟨k,hk,-⟩ := ok_of_map (show (bootRun (fun _ => true) rootCred
      [.createUnhooked 0 .sk,.socketCreate 0 ⟨0,0⟩]).map (fun _ => ())=.ok () by decide)
  obtain ⟨⟨r,k'⟩,h,hr⟩ := ok_of_bind_map hk (show ((bootRun (fun _ => true) rootCred
      [.createUnhooked 0 .sk,.socketCreate 0 ⟨0,0⟩]).bind fun k =>
        (hostStep (.socketBind 0 0 [127,0,0,1] 4) k).map Prod.fst)=.ok (-ENOMEM) by decide)
  dsimp only at hr
  subst hr
  exact ⟨k,k',hk,rfl,h,mediated_hooks_return_zero (by rfl) h⟩

theorem uint32_and_and_of_and (x a b : UInt32) (h : a &&& b=b) : x &&& a &&& b=x &&& b := by
  rcases x with ⟨x⟩; rcases a with ⟨a⟩; rcases b with ⟨b⟩
  have h' : a &&& b=b := congrArg UInt32.toBitVec h
  show UInt32.mk (x &&& a &&& b)=UInt32.mk (x &&& b)
  rw [BitVec.and_assoc,h']

/-- The edges an access `mask` asks for between the task's record `c` and the inode's record `i`:
a write edge for `MAY_WRITE` or `MAY_APPEND`, then a read edge and an exec edge. -/
def permissionEdges (mask : UInt32) (c i : Nat) : List SinkRec :=
  (if mask &&& (MAY_WRITE ||| MAY_APPEND)≠0 then [.edge .edWrite c i FLOW_ALLOWED] else []) ++
  (if mask &&& MAY_READ≠0 then [.edge .edRead i c FLOW_ALLOWED] else []) ++
  (if mask &&& MAY_EXEC≠0 then [.edge .edExec i c FLOW_ALLOWED] else [])

/-- `provenance_inode_permission` first masks the access bits it looks at. -/
theorem mask_and (mask b : UInt32)
    (h : (MAY_READ ||| MAY_WRITE ||| MAY_EXEC ||| MAY_APPEND) &&& b=b) :
    mask &&& (MAY_READ ||| MAY_WRITE ||| MAY_EXEC ||| MAY_APPEND) &&& b=mask &&& b :=
  uint32_and_and_of_and mask _ b h

/-- In every reachable kernel where the calling task and the inode carry records,
`provenance_inode_permission` returns 0 and appends exactly the edges the mask asks for. -/
theorem inode_permission_records_access {k : Kernel} (hk : Reachable k) {cur inode cp ip : Nat}
    {mask : UInt32} {i : Inode} (hi : k.host.inodes inode=some i)
    (hcp : k.sec (.cred cur)=some cp) (hip : k.sec (.inode inode)=some ip) :
    hostStep (.inodePermission cur inode mask) k=
      .ok (0,{k with log := k.log++if i.isPrivate then [] else permissionEdges mask cp ip}) := by
  have hs := hk.owned.sane
  have hl : k.host.Live (.cred cur)=true := hs.live _ _ hcp
  have hli : k.host.Live (.inode inode)=true := by simp [Host.Live,hi]
  have hcl : (k.heap cp).isSome=true := hs.attached _ _ hcp
  have hil : (k.heap ip).isSome=true := hs.attached _ _ hip
  cases hp : i.isPrivate <;>
  simp only [hostStep,provenanceInodePermission,currentProvenance,getInode,bind_assoc,provOf_bind,
    getObj_bind,hl,hli,hcp,hip,hi,hp,Bool.false_eq_true,if_true,if_false,List.append_nil,
    Option.isNone_some,pure_bind,mask_and mask _ (by decide : _ &&& (MAY_WRITE ||| MAY_APPEND)=_),
    mask_and mask MAY_READ (by decide),mask_and mask MAY_EXEC (by decide),recordEdge_when,
    hcl,hil,permissionEdges,List.append_assoc] <;>
  rfl

/-- Asking to read and write a labelled inode after boot records a write edge, then a read
edge. -/
theorem read_write_permission_records_two_edges :
    ∃ k cp ip, bootRun (fun _ => true) rootCred
        [.sbAllocSecurity 0 zeroSb,.inodeAllocSecurity 0 0 labelledInode]=.ok k ∧
      k.sec (.cred 0)=some cp ∧ k.sec (.inode 0)=some ip ∧
      hostStep (.inodePermission 0 0 (MAY_READ ||| MAY_WRITE)) k=.ok (0,{k with
        log := k.log++[.edge .edWrite cp ip FLOW_ALLOWED,.edge .edRead ip cp FLOW_ALLOWED]}) := by
  obtain ⟨k,hk,hv⟩ := ok_of_map (show (bootRun (fun _ => true) rootCred
      [.sbAllocSecurity 0 zeroSb,.inodeAllocSecurity 0 0 labelledInode]).map
        (fun k => (k.host.inodes 0,k.sec (.cred 0),k.sec (.inode 0)))=
        .ok (some labelledInode,some 0,some 2) by decide)
  simp only [Prod.mk.injEq] at hv
  obtain ⟨hi,hcp,hip⟩ := hv
  exact ⟨k,0,2,hk,hcp,hip,inode_permission_records_access (.of_bootRun hk) hi hcp hip⟩

/-- `provenance_inode_alloc_security` run forward, from a kernel where the task and the
superblock carry records, the inode's context is present and the allocation succeeds. -/
theorem inodeAllocSecurity_run {s : Kernel} (hs : Sane s.frame) {cur inode cp q : Nat}
    {i : Inode} {x : IfcContext} {sm : ProvMsg} (hcp : s.sec (.cred cur)=some cp)
    (hi : s.host.inodes inode=some i) (hx : i.ifc=some x) (hq : s.sec (.sb i.sb)=some q)
    (hsm : s.heap q=some sm) (ha : s.allocOk s.allocs=true) :
    provenanceInodeAllocSecurity cur inode s=.ok (0,{ s with
      allocs := s.allocs+1
      heap := update s.heap s.next (some (snapshotIfc x {ProvMsg.zero .inode with
        nodeId := i.ino, uid := i.uid, gid := i.gid, mode := i.mode, sbUuid := sm.uuid}))
      next := s.next+1
      sec := update s.sec (.inode inode) (some s.next)
      log := s.log++[.edge .edCreate cp s.next FLOW_ALLOWED] }) := by
  have hl : s.host.Live (.cred cur)=true := hs.live _ _ hcp
  have hlq : s.host.Live (.sb i.sb)=true := hs.live _ _ hq
  have hcl : (s.heap cp).isSome=true := hs.attached _ _ hcp
  have hcn : cp≠s.next := hs.ne_next hcp
  have hqn : q≠s.next := hs.ne_next hq
  simp only [provenanceInodeAllocSecurity,currentProvenance,provOf_bind,hl,hcp,
    if_true,allocProvenance_bind,ha,Option.isNone_some,Bool.false_eq_true,if_false,pure_bind,
    bind_assoc,setNodeId_bind,update_same,getInode,getObj_bind,hi,modifyNode_bind,update_idem,
    hlq,hq,node_bind,update_noteq hqn,hsm,setProv_bind,ifcContext_bind,hx]
  cases hb : ifcIsLabelled x <;>
    simp only [hb,if_true,Bool.false_eq_true,if_false,pure_bind,modifyNode_bind,provRecordIfc,
      update_same,update_idem,recordEdge_bind_live,update_noteq hcn,hcl,Option.isSome_some] <;>
    simp [snapshotIfc,hb,pure_apply]

/-- On a non-private inode with no record, in a reachable kernel, `provenance_inode_permission`
allocates one in place, as spec 4.3 asks, then records the mask's edges against it. -/
theorem missing_inode_record_repaired {k : Kernel} (hk : Reachable k) {cur inode cp q : Nat}
    {mask : UInt32} {i : Inode} {x : IfcContext} {sm : ProvMsg}
    (hi : k.host.inodes inode=some i) (hp : i.isPrivate=false) (hn : k.sec (.inode inode)=none)
    (hcp : k.sec (.cred cur)=some cp) (hx : i.ifc=some x) (hq : k.sec (.sb i.sb)=some q)
    (hsm : k.heap q=some sm) (ha : k.allocOk k.allocs=true) :
    ∃ k', hostStep (.inodePermission cur inode mask) k=.ok (0,k') ∧
      k'.sec (.inode inode)=some k.next ∧
      k'.heap k.next=some (snapshotIfc x {ProvMsg.zero .inode with
        nodeId := i.ino, uid := i.uid, gid := i.gid, mode := i.mode, sbUuid := sm.uuid}) ∧
      k'.log=k.log++.edge .edCreate cp k.next FLOW_ALLOWED :: permissionEdges mask cp k.next := by
  have hs := hk.owned.sane
  have hl : k.host.Live (.cred cur)=true := hs.live _ _ hcp
  have hli : k.host.Live (.inode inode)=true := by simp [Host.Live,hi]
  have hcl : (k.heap cp).isSome=true := hs.attached _ _ hcp
  have hcn : cp≠k.next := hs.ne_next hcp
  refine ⟨?k',?run,?sec,?heap,?log⟩
  case run =>
    simp only [hostStep,provenanceInodePermission,currentProvenance,getInode,bind_assoc,provOf_bind,
      getObj_bind,hl,hli,hcp,hi,hp,hn,Bool.false_eq_true,if_true,if_false,
      Option.isNone_none,bind_of_ok (inodeAllocSecurity_run hs hcp hi hx hq hsm ha),update_same,
      pure_bind,
      mask_and mask _ (by decide : _ &&& (MAY_WRITE ||| MAY_APPEND)=_),
      mask_and mask MAY_READ (by decide),mask_and mask MAY_EXEC (by decide),recordEdge_when,
      update_noteq hcn,hcl,Option.isSome_some,permissionEdges,List.append_assoc,List.singleton_append]
    exact pure_apply _ _
  case sec => exact update_same _ _ _
  case heap => exact update_same _ _ _
  case log => simp only [permissionEdges,List.cons_append,List.append_assoc]

/-- An inode the host made with no record gets one from `inode_permission`. -/
theorem unhooked_inode_record_repaired :
    ∃ k, bootRun (fun _ => true) rootCred
        [.sbAllocSecurity 0 zeroSb,.createUnhooked 0 (.inode labelledInode)]=.ok k ∧
      ∃ k', hostStep (.inodePermission 0 0 MAY_READ) k=.ok (0,k') ∧ k'.sec (.inode 0)=some k.next ∧
        k'.heap k.next=some (snapshotIfc labelledContext {ProvMsg.zero .inode with
          nodeId := 7, uid := 0, gid := 0, mode := 0, sbUuid := Uuid.zero}) ∧
        k'.log=k.log++.edge .edCreate 0 k.next FLOW_ALLOWED :: permissionEdges MAY_READ 0 k.next := by
  obtain ⟨k,hk,hv⟩ := ok_of_map (show (bootRun (fun _ => true) rootCred
      [.sbAllocSecurity 0 zeroSb,.createUnhooked 0 (.inode labelledInode)]).map (fun k =>
        decide (k.host.inodes 0=some labelledInode ∧ k.sec (.inode 0)=none ∧ k.sec (.cred 0)=some 0 ∧
          k.sec (.sb 0)=some 1 ∧ k.heap 1=some (ProvMsg.zero .sb) ∧ k.allocOk k.allocs=true))=
        .ok true by decide)
  obtain ⟨hi,hn,hcp,hq,hsm,ha⟩ := of_decide_eq_true hv
  exact ⟨k,hk,missing_inode_record_repaired (.of_bootRun hk) hi rfl hn hcp rfl hq hsm ha⟩

end CamFlow.Provenance
