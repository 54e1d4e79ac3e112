import CamFlow.Provenance.Lifecycle

namespace CamFlow.Provenance

open CamFlow.Ifc Function

/-- Modelled from the spec: a new record is tracked, and carries the snapshot of the context,
exactly when the object's context is present and labelled. -/
def specTracking : Option IfcContext → Bool × Option IfcContext
  | some c => if ifcIsLabelled c then (true,some c) else (false,none)
  | none => (false,none)

/-- The snapshot block leaves a record that was untracked, with no snapshot, tracked as the spec
asks for a present context. -/
theorem snapshotIfc_tracking (x : IfcContext) {m : ProvMsg} (ht : m.tracked=false)
    (hi : m.ifc=none) :
    ((snapshotIfc x m).tracked,(snapshotIfc x m).ifc)=specTracking (some x) := by
  unfold snapshotIfc specTracking; cases hl : ifcIsLabelled x <;> simp [hl,ht,hi]

/-- The record a hook's final frame attaches to `o`, as the kernel has it. -/
theorem tracking_of_frame {s' : Kernel} {f : Frame} (he : s'.frame=f) {o : Obj} {p : Nat}
    {m : ProvMsg} (hs : f.sec o=some p) (hh : f.heap p=some m) :
    ∃ p m', s'.sec o=some p ∧ s'.heap p=some m' ∧ (m'.tracked,m'.ifc)=(m.tracked,m.ifc) := by
  subst he; exact ⟨p,m,hs,hh,rfl⟩

/-- When `provenance_cred_prepare` succeeds, the new credential's context was present and its
record is tracked as the spec asks. -/
theorem credPrepare_tracking {s s' : Kernel} {new old : Nat} {c : Cred}
    (hc : s.host.creds new=some c) (h : provenanceCredPrepare new old s=.ok (0,s')) :
    c.ifc.isSome=true ∧ ∃ p m, s'.sec (.cred new)=some p ∧ s'.heap p=some m ∧
      (m.tracked,m.ifc)=specTracking c.ifc := by
  rcases credPrepare_spec h with ⟨h0,-⟩ | ⟨-,c',x,_,hc',hx,-,he⟩
  · exact absurd h0 (by decide)
  cases hc.symm.trans hc'
  obtain ⟨p,m,hp,hm,ht⟩ := tracking_of_frame he (update_same _ _ _) (update_same _ _ _)
  rw [hx]
  exact ⟨rfl,p,m,hp,hm,ht.trans (snapshotIfc_tracking x rfl rfl)⟩

/-- When `provenance_inode_alloc_security` succeeds, the inode's context was present and its
record is tracked as the spec asks. -/
theorem inodeAllocSecurity_tracking {s s' : Kernel} {cur i : Nat} {ino : Inode}
    (hi : s.host.inodes i=some ino) (h : provenanceInodeAllocSecurity cur i s=.ok (0,s')) :
    ino.ifc.isSome=true ∧ ∃ p m, s'.sec (.inode i)=some p ∧ s'.heap p=some m ∧
      (m.tracked,m.ifc)=specTracking ino.ifc := by
  rcases inodeAllocSecurity_spec h with ⟨h0,-⟩ | ⟨-,ino',x,_,_,_,hi',hx,-,-,-,he⟩
  · exact absurd h0 (by decide)
  cases hi.symm.trans hi'
  obtain ⟨p,m,hp,hm,ht⟩ := tracking_of_frame he (update_same _ _ _) (update_same _ _ _)
  rw [hx]
  exact ⟨rfl,p,m,hp,hm,ht.trans (snapshotIfc_tracking x rfl rfl)⟩

/-- When `provenance_cred_prepare` or `provenance_inode_alloc_security` succeeds, the context was
present, and the new record is tracked, with its snapshot, exactly when it is labelled. -/
theorem alloc_security_tracks_labelled_context {s s' : Kernel} :
    (∀ new old c, s.host.creds new=some c → provenanceCredPrepare new old s=.ok (0,s') →
      c.ifc.isSome=true ∧ ∃ p m, s'.sec (.cred new)=some p ∧ s'.heap p=some m ∧
        (m.tracked,m.ifc)=specTracking c.ifc) ∧
    (∀ cur i ino, s.host.inodes i=some ino → provenanceInodeAllocSecurity cur i s=.ok (0,s') →
      ino.ifc.isSome=true ∧ ∃ p m, s'.sec (.inode i)=some p ∧ s'.heap p=some m ∧
        (m.tracked,m.ifc)=specTracking ino.ifc) :=
  ⟨fun _ _ _ hc h => credPrepare_tracking hc h,fun _ _ _ hi h => inodeAllocSecurity_tracking hi h⟩

/-- A labelled inode of superblock `0`: its new record is tracked and carries the context. -/
theorem labelled_inode_tracked :
    ∃ k k', bootRun (fun _ => true) rootCred [.sbAllocSecurity 0 zeroSb]=.ok k ∧
      provenanceInodeAllocSecurity 0 0
        {k with host := {k.host with inodes := update k.host.inodes 0 (some labelledInode)}}=
        .ok (0,k') ∧
      ∃ p m, k'.sec (.inode 0)=some p ∧ k'.heap p=some m ∧
        (m.tracked,m.ifc)=(true,some labelledContext) := by
  obtain ⟨k,hk,-⟩ := ok_of_map (show (bootRun (fun _ => true) rootCred
      [.sbAllocSecurity 0 zeroSb]).map (fun _ => ())=.ok () by decide)
  obtain ⟨⟨r,k'⟩,h,hr⟩ := ok_of_bind_map hk (show ((bootRun (fun _ => true) rootCred
      [.sbAllocSecurity 0 zeroSb]).bind fun k => (provenanceInodeAllocSecurity 0 0
        {k with host := {k.host with inodes := update k.host.inodes 0 (some labelledInode)}}).map
        Prod.fst)=.ok 0 by decide)
  cases hr
  obtain ⟨-,p,m,hp,hm,ht⟩ := (alloc_security_tracks_labelled_context).2 0 0 labelledInode
    (by simp) h
  exact ⟨k,k',hk,h,p,m,hp,hm,by rw [ht]; decide⟩

/-- A message whose context is present keeps the record `provenance_msg_msg_alloc_security`
gives it untracked, with no snapshot. -/
theorem msgMsgAllocSecurity_untracked {s s' : Kernel} {cur i : Nat} {mm : MsgMsg}
    (hm : s.host.msgs i=some mm) (h : provenanceMsgMsgAllocSecurity cur i s=.ok (0,s')) :
    mm.ifc.isSome=true ∧ ∃ p m, s'.sec (.msg i)=some p ∧ s'.heap p=some m ∧
      (m.tracked,m.ifc)=(false,none) := by
  rcases msgMsgAllocSecurity_spec h with ⟨h0,-⟩ | ⟨-,mm',_,hm',hx,-,he⟩
  · exact absurd h0 (by decide)
  cases hm.symm.trans hm'
  exact ⟨hx,tracking_of_frame he (update_same _ _ _) (update_same _ _ _)⟩

/-- The same for `provenance_shm_alloc_security`. -/
theorem shmAllocSecurity_untracked {s s' : Kernel} {cur i : Nat} {sh : Shm}
    (hs : s.host.shms i=some sh) (h : provenanceShmAllocSecurity cur i s=.ok (0,s')) :
    sh.ifc.isSome=true ∧ ∃ p m, s'.sec (.shm i)=some p ∧ s'.heap p=some m ∧
      (m.tracked,m.ifc)=(false,none) := by
  rcases shmAllocSecurity_spec h with ⟨h0,-⟩ | ⟨-,sh',_,hs',hx,-,he⟩
  · exact absurd h0 (by decide)
  cases hs.symm.trans hs'
  exact ⟨hx,tracking_of_frame he (update_same _ _ _) (update_same _ _ _)⟩

/-- With the allocation granted, an absent context of a message is dereferenced. -/
theorem msgMsgAllocSecurity_absent_context {s : Kernel} {cur i : Nat} {mm : MsgMsg}
    (hc : s.host.Live (.cred cur)=true) (hm : s.host.msgs i=some mm) (hn : mm.ifc=none)
    (ha : s.allocOk s.allocs=true) : provenanceMsgMsgAllocSecurity cur i s=.error .nullDeref := by
  simp only [provenanceMsgMsgAllocSecurity,currentProvenance,getMsg,bind_assoc,provOf_bind,
    getObj_bind,hc,hm,allocProvenance_bind,ha,if_true,Option.isNone_some,Bool.false_eq_true,
    if_false,pure_bind,setNodeId_bind,update_same,modifyNode_bind,hn,Option.isNone_none,
    ifcContext_bind]

theorem shmAllocSecurity_absent_context {s : Kernel} {cur i : Nat} {sh : Shm}
    (hc : s.host.Live (.cred cur)=true) (hs : s.host.shms i=some sh) (hn : sh.ifc=none)
    (ha : s.allocOk s.allocs=true) : provenanceShmAllocSecurity cur i s=.error .nullDeref := by
  simp only [provenanceShmAllocSecurity,currentProvenance,getShm,bind_assoc,provOf_bind,
    getObj_bind,hc,hs,allocProvenance_bind,ha,if_true,Option.isNone_some,Bool.false_eq_true,
    if_false,pure_bind,setNodeId_bind,update_same,modifyNode_bind,hn,Option.isNone_none,
    ifcContext_bind]

/-- `provenance_msg_msg_alloc_security` and `provenance_shm_alloc_security` never track the new
record: they succeed only on a present context, and dereference an absent one. -/
theorem msg_shm_alloc_skip_present_context {s s' : Kernel} {cur i : Nat} :
    (∀ mm, s.host.msgs i=some mm →
      (provenanceMsgMsgAllocSecurity cur i s=.ok (0,s') → mm.ifc.isSome=true ∧
        ∃ p m, s'.sec (.msg i)=some p ∧ s'.heap p=some m ∧ (m.tracked,m.ifc)=(false,none)) ∧
      (s.host.Live (.cred cur)=true → mm.ifc=none → s.allocOk s.allocs=true →
        provenanceMsgMsgAllocSecurity cur i s=.error .nullDeref)) ∧
    (∀ sh, s.host.shms i=some sh →
      (provenanceShmAllocSecurity cur i s=.ok (0,s') → sh.ifc.isSome=true ∧
        ∃ p m, s'.sec (.shm i)=some p ∧ s'.heap p=some m ∧ (m.tracked,m.ifc)=(false,none)) ∧
      (s.host.Live (.cred cur)=true → sh.ifc=none → s.allocOk s.allocs=true →
        provenanceShmAllocSecurity cur i s=.error .nullDeref)) :=
  ⟨fun _ hm => ⟨msgMsgAllocSecurity_untracked hm,
      fun hc hn ha => msgMsgAllocSecurity_absent_context hc hm hn ha⟩,
    fun _ hs => ⟨shmAllocSecurity_untracked hs,
      fun hc hn ha => shmAllocSecurity_absent_context hc hs hn ha⟩⟩

/-- A message carrying the labelled context. -/
def labelledMsg : MsgMsg := ⟨1,some labelledContext⟩

/-- A message whose context is labelled gets an untracked record without a snapshot, where the
spec asks for a tracked one with the snapshot. -/
theorem labelled_msg_untracked :
    ∃ k k', bootRun (fun _ => true) rootCred []=.ok k ∧
      provenanceMsgMsgAllocSecurity 0 0
        {k with host := {k.host with msgs := update k.host.msgs 0 (some labelledMsg)}}=.ok (0,k') ∧
      ∃ p m, k'.sec (.msg 0)=some p ∧ k'.heap p=some m ∧ (m.tracked,m.ifc)=(false,none) ∧
        specTracking labelledMsg.ifc=(true,some labelledContext) := by
  obtain ⟨k,hk,-⟩ := ok_of_map (show (bootRun (fun _ => true) rootCred []).map (fun _ => ())=
      .ok () by decide)
  obtain ⟨⟨r,k'⟩,h,hr⟩ := ok_of_bind_map hk (show ((bootRun (fun _ => true) rootCred []).bind
      fun k => (provenanceMsgMsgAllocSecurity 0 0
        {k with host := {k.host with msgs := update k.host.msgs 0 (some labelledMsg)}}).map
        Prod.fst)=.ok 0 by decide)
  cases hr
  obtain ⟨-,p,m,hp,hm,ht⟩ := ((msg_shm_alloc_skip_present_context).1 labelledMsg
    (by simp)).1 h
  exact ⟨k,k',hk,h,p,m,hp,hm,ht,by decide⟩

/-- In every kernel, `provenance_socket_post_create` called for a kernel socket (`kern` set),
on a socket the host has, returns 0 and leaves the kernel as it was: nothing is recorded. -/
theorem socketPostCreate_kern_noop {s : Kernel} {cur sock : Nat} {so : Socket}
    {family type protocol kern : Int} (hk : kern≠0) (hc : s.host.Live (.cred cur)=true)
    (hs : s.host.socks sock=some so) (hi : s.host.Live (.inode so.inode)=true) :
    provenanceSocketPostCreate cur sock family type protocol kern s=.ok (0,s) := by
  simp only [provenanceSocketPostCreate,currentProvenance,getSocket,bind_assoc,provOf_bind,
    getObj_bind,hc,hs,hi,if_true,ne_eq,hk,not_false_eq_true]
  rfl

/-- A socket with inode `0`. -/
def sock0 : Socket := ⟨0,0⟩

/-- Creating kernel socket `0`: `provenance_socket_post_create` leaves the kernel unchanged. -/
theorem kernel_socket_post_create_noop :
    ∃ k, bootRun (fun _ => true) rootCred
        [.sbAllocSecurity 0 zeroSb,.inodeAllocSecurity 0 0 labelledInode,.skAllocSecurity 0,
          .socketCreate 0 sock0]=.ok k ∧
      provenanceSocketPostCreate 0 0 2 1 0 1 k=.ok (0,k) := by
  obtain ⟨k,hk,hv⟩ := ok_of_map (show (bootRun (fun _ => true) rootCred
      [.sbAllocSecurity 0 zeroSb,.inodeAllocSecurity 0 0 labelledInode,.skAllocSecurity 0,
        .socketCreate 0 sock0]).map
      (fun k => (k.host.Live (.cred 0),k.host.socks 0,k.host.Live (.inode 0)))=
      .ok (true,some sock0,true) by decide)
  simp only [Prod.mk.injEq] at hv
  exact ⟨k,hk,socketPostCreate_kern_noop (by decide) hv.1 hv.2.1 hv.2.2⟩

/-- After a kernel socket's `post_create`, `provenance_socket_sendmsg` still records a write
edge from the task's record (at `0`) to the socket inode's record (at `2`). -/
theorem kernel_socket_sendmsg_recorded :
    (bootRun (fun _ => true) rootCred
        [.sbAllocSecurity 0 zeroSb,.inodeAllocSecurity 0 0 labelledInode,.skAllocSecurity 0,
          .socketCreate 0 sock0,.socketPostCreate 0 0 2 1 0 1,.socketSendmsg 0 0]).map
      (fun k => (k.sec (.inode 0),k.log.getLast?))=.ok (some 2,some (.edge .edWrite 0 2 true)) := by
  decide

end CamFlow.Provenance
