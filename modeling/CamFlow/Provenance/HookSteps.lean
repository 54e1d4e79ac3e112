import CamFlow.Provenance.Moves

namespace CamFlow.Provenance

open CamFlow.Ifc

/-- An allocation hook for `o`: from a sane state on a live, unrecorded `o` it only makes moves,
and `o` ends with no record exactly when the hook failed. -/
def AllocHook (o : Obj) (hook : ProvM Int) : Prop :=
  ∀ s r s', Sane s.frame → s.host.Live o=true → s.sec o=none → hook s=.ok (r,s') →
    Moves s.frame s'.frame ∧ s'.host=s.host ∧ (s'.sec o=none ↔ r≠0)

theorem AllocHook.stepsOn {o : Obj} {hook : ProvM Int} (h : AllocHook o hook) {x : Option Nat}
    (hx : x.isNone=true) : StepsOn (fun s => s.host.Live o=true ∧ s.sec o=x) hook :=
  fun s r s' hs ⟨hl,he⟩ hh =>
    have h' := h s r s' hs hl (he.trans (Option.isNone_iff_eq_none.1 hx)) hh
    ⟨h'.1,h'.2.1⟩

/-- A pointer stored in an object is not the one about to be allocated. -/
theorem Sane.ne_next {s : Kernel} (hs : Sane s.frame) {o : Obj} {p : Nat} (hp : s.sec o=some p) :
    p≠s.next := Nat.ne_of_lt (hs.lt_next (hs.attached o p hp))

theorem allocHook_credAllocBlank (cred : Nat) :
    AllocHook (.cred cred) (provenanceCredAllocBlank cred) := by
  intro s r s' _ hl hn h
  simp only [provenanceCredAllocBlank,allocProvenance_bind,ASSIGN_NODE_ID] at h
  split at h
  · simp only [Option.isNone_some,Bool.false_eq_true,if_false,bind_assoc,pure_bind,setNodeId_bind,
      Function.update_same,getCred,getObj_bind,modifyNode_bind,setProv_bind,Function.update_idem] at h
    split at h <;> cases h
    exact ⟨.single (.attach _ hn hl rfl rfl (fun _ => rfl) (by simp [SbAgrees])),rfl,
      by simp [ENOMEM]⟩
  · cases h
    exact ⟨.refl,rfl,by simp [hn,ENOMEM]⟩

/-- `record_edge` and the rest of a hook: both endpoints were live, the edge goes to the log,
and nothing else changes. -/
theorem recordEdge_bind_ok {β : Type} {t : EdgeType} {a b : Option Nat} {al : Bool}
    {f : Unit → ProvM β} {s : Kernel} {x : β × Kernel} (h : (recordEdge t a b al >>= f) s=.ok x) :
    ∃ p q, a=some p ∧ b=some q ∧ (s.heap p).isSome=true ∧ (s.heap q).isSome=true ∧
      f () {s with log := s.log++[.edge t p q al]}=.ok x := by
  simp only [recordEdge,bind_assoc,livePtr_bind,emit_bind] at h
  split at h; · cases h
  split at h; swap; · cases h
  split at h; · cases h
  split at h; swap; · cases h
  exact ⟨_,_,rfl,rfl,‹_›,‹_›,h⟩

/-- A new record after the block `if (ifc_is_labelled(&ifc->context))`
`{ set_tracked(prov); prov_record_ifc(prov, &ifc->context); }`. -/
def snapshotIfc (x : IfcContext) (m : ProvMsg) : ProvMsg :=
  if ifcIsLabelled x then {m with tracked := true, ifc := some x} else m

theorem snapshotIfc_same (x : IfcContext) (m : ProvMsg) : (snapshotIfc x m).Same m := by
  unfold snapshotIfc; split <;> exact ⟨rfl,rfl,rfl,rfl,rfl⟩

section AllocSpecs

open Function

variable {s s' : Kernel} {r : Int}

theorem credPrepare_spec {new old : Nat} (h : provenanceCredPrepare new old s=.ok (r,s')) :
    (r=-ENOMEM ∧ s.allocOk s.allocs=false ∧ s'.frame=s.frame) ∨
    (r=0 ∧ ∃ c x op, s.host.creds new=some c ∧ c.ifc=some x ∧ s.sec (.cred old)=some op ∧
      s'.frame={ s.frame with
        heap := update s.heap s.next (some (snapshotIfc x
          {ProvMsg.zero .task with nodeId := s.nextNodeId, uid := c.euid, gid := c.egid}))
        next := s.next+1
        sec := update s.sec (.cred new) (some s.next)
        nextNodeId := s.nextNodeId+1
        log := s.log++[.edge .edFork op s.next FLOW_ALLOWED] }) := by
  simp only [provenanceCredPrepare,provOf_bind] at h
  by_cases ho : s.host.Live (.cred old)=true; swap
  · rw [if_neg ho] at h; cases h
  rw [if_pos ho,allocProvenance_bind] at h
  by_cases ha : s.allocOk s.allocs=true; swap
  · rw [if_neg ha] at h; cases h; exact .inl ⟨rfl,Bool.eq_false_iff.2 ha,rfl⟩
  rw [if_pos ha] at h
  simp only [Option.isNone_some,Bool.false_eq_true,if_false,pure_bind,bind_assoc,setNodeId_bind,
    update_same,getCred,getObj_bind,modifyNode_bind,update_idem,ifcContext_bind] at h
  rcases hn : s.host.creds new with _ | c <;> simp only [hn] at h <;> try cases h
  cases hx : c.ifc with
  | none => simp [hx] at h
  | some x =>
    cases hl : ifcIsLabelled x <;>
      simp only [hx,hl,if_true,Bool.false_eq_true,if_false,pure_bind,bind_assoc,modifyNode_bind,
        provRecordIfc,update_same,update_idem] at h <;>
      obtain ⟨op,_,hop,⟨⟩,-,-,h⟩ := recordEdge_bind_ok h <;> cases h <;>
      exact .inr ⟨rfl,c,x,op,rfl,hx,hop,
        by simp only [snapshotIfc,hl,if_true,if_false,Bool.false_eq_true]; rfl⟩

/-- The superblock's record is read after the inode's record was allocated: it is the new
record only if the superblock's pointer is the one just handed out. -/
theorem inodeAllocSecurity_spec {cur i : Nat}
    (h : provenanceInodeAllocSecurity cur i s=.ok (r,s')) :
    (r=-ENOMEM ∧ s.allocOk s.allocs=false ∧ s'.frame=s.frame) ∨
    (r=0 ∧ ∃ ino x q sm cp, s.host.inodes i=some ino ∧ ino.ifc=some x ∧
      s.sec (.sb ino.sb)=some q ∧ (q≠s.next → s.heap q=some sm) ∧ s.sec (.cred cur)=some cp ∧
      s'.frame={ s.frame with
        heap := update s.heap s.next (some (snapshotIfc x {ProvMsg.zero .inode with
          nodeId := ino.ino, uid := ino.uid, gid := ino.gid, mode := ino.mode, sbUuid := sm.uuid}))
        next := s.next+1
        sec := update s.sec (.inode i) (some s.next)
        log := s.log++[.edge .edCreate cp s.next FLOW_ALLOWED] }) := by
  simp only [provenanceInodeAllocSecurity,currentProvenance,provOf_bind] at h
  by_cases hc : s.host.Live (.cred cur)=true; swap
  · rw [if_neg hc] at h; cases h
  rw [if_pos hc,allocProvenance_bind] at h
  by_cases ha : s.allocOk s.allocs=true; swap
  · rw [if_neg ha] at h; cases h; exact .inl ⟨rfl,Bool.eq_false_iff.2 ha,rfl⟩
  rw [if_pos ha] at h
  simp only [Option.isNone_some,Bool.false_eq_true,if_false,pure_bind,bind_assoc,setNodeId_bind,
    update_same,getInode,getObj_bind,modifyNode_bind,setProv_bind,update_idem,node_bind,
    ifcContext_bind,provOf_bind] at h
  rcases hi : s.host.inodes i with _ | ino <;> simp only [hi] at h <;> try cases h
  by_cases hb : s.host.Live (.sb ino.sb)=true; swap
  · rw [if_neg hb] at h; cases h
  rw [if_pos hb] at h
  rcases hq : s.sec (.sb ino.sb) with _ | q <;> simp only [hq] at h <;> try cases h
  split at h <;> [skip; cases h]
  next sm hsm =>
  cases hx : ino.ifc with
  | none => simp [hx] at h
  | some x =>
    cases hl : ifcIsLabelled x <;>
      simp only [hx,hl,if_true,Bool.false_eq_true,if_false,pure_bind,bind_assoc,modifyNode_bind,
        provRecordIfc,update_same,update_idem] at h <;>
      obtain ⟨cp,_,hcp,⟨⟩,-,-,h⟩ := recordEdge_bind_ok h <;> cases h <;>
      exact .inr ⟨rfl,ino,x,q,sm,cp,rfl,hx,hq,fun hne => by rwa [update_noteq hne] at hsm,hcp,
        by simp only [snapshotIfc,hl,if_true,if_false,Bool.false_eq_true]; rfl⟩

/-- The message's context is read only when it is absent, so a run that returns had it
present, and the new record stays as `alloc_provenance` made it. -/
theorem msgMsgAllocSecurity_spec {cur i : Nat}
    (h : provenanceMsgMsgAllocSecurity cur i s=.ok (r,s')) :
    (r=-ENOMEM ∧ s.allocOk s.allocs=false ∧ s'.frame=s.frame) ∨
    (r=0 ∧ ∃ mm cp, s.host.msgs i=some mm ∧ mm.ifc.isSome=true ∧ s.sec (.cred cur)=some cp ∧
      s'.frame={ s.frame with
        heap := update s.heap s.next
          (some {ProvMsg.zero .msg with nodeId := s.nextNodeId, mType := mm.mType})
        next := s.next+1
        sec := update s.sec (.msg i) (some s.next)
        nextNodeId := s.nextNodeId+1
        log := s.log++[.edge .edCreate cp s.next FLOW_ALLOWED] }) := by
  simp only [provenanceMsgMsgAllocSecurity,currentProvenance,getMsg,bind_assoc,provOf_bind] at h
  by_cases hc : s.host.Live (.cred cur)=true; swap
  · rw [if_neg hc] at h; cases h
  rw [if_pos hc,getObj_bind] at h
  rcases hm : s.host.msgs i with _ | mm <;> simp only [hm] at h; · cases h
  rw [allocProvenance_bind] at h
  by_cases ha : s.allocOk s.allocs=true; swap
  · rw [if_neg ha] at h; cases h; exact .inl ⟨rfl,Bool.eq_false_iff.2 ha,rfl⟩
  rw [if_pos ha] at h
  simp only [Option.isNone_some,Bool.false_eq_true,if_false,pure_bind,bind_assoc,setNodeId_bind,
    update_same,modifyNode_bind,update_idem] at h
  cases hx : mm.ifc with
  | none => simp [hx,ifcContext_bind] at h
  | some c =>
    simp only [hx,Option.isNone_some,Bool.false_eq_true,if_false,pure_bind,setProv_bind] at h
    obtain ⟨cp,_,hcp,⟨⟩,-,-,h⟩ := recordEdge_bind_ok h
    cases h
    exact .inr ⟨rfl,mm,cp,rfl,by rw [hx]; rfl,hcp,rfl⟩

/-- The same for a segment, which records an attach edge each way. -/
theorem shmAllocSecurity_spec {cur i : Nat} (h : provenanceShmAllocSecurity cur i s=.ok (r,s')) :
    (r=-ENOMEM ∧ s.allocOk s.allocs=false ∧ s'.frame=s.frame) ∨
    (r=0 ∧ ∃ sh cp, s.host.shms i=some sh ∧ sh.ifc.isSome=true ∧ s.sec (.cred cur)=some cp ∧
      s'.frame={ s.frame with
        heap := update s.heap s.next
          (some {ProvMsg.zero .shm with nodeId := s.nextNodeId, mode := sh.mode})
        next := s.next+1
        sec := update s.sec (.shm i) (some s.next)
        nextNodeId := s.nextNodeId+1
        log := s.log++[.edge .edAttach s.next cp FLOW_ALLOWED]++
          [.edge .edAttach cp s.next FLOW_ALLOWED] }) := by
  simp only [provenanceShmAllocSecurity,currentProvenance,getShm,bind_assoc,provOf_bind] at h
  by_cases hc : s.host.Live (.cred cur)=true; swap
  · rw [if_neg hc] at h; cases h
  rw [if_pos hc,getObj_bind] at h
  rcases hm : s.host.shms i with _ | sh <;> simp only [hm] at h; · cases h
  rw [allocProvenance_bind] at h
  by_cases ha : s.allocOk s.allocs=true; swap
  · rw [if_neg ha] at h; cases h; exact .inl ⟨rfl,Bool.eq_false_iff.2 ha,rfl⟩
  rw [if_pos ha] at h
  simp only [Option.isNone_some,Bool.false_eq_true,if_false,pure_bind,bind_assoc,setNodeId_bind,
    update_same,modifyNode_bind,update_idem] at h
  cases hx : sh.ifc with
  | none => simp [hx,ifcContext_bind] at h
  | some c =>
    simp only [hx,Option.isNone_some,Bool.false_eq_true,if_false,pure_bind,setProv_bind] at h
    obtain ⟨_,cp,⟨⟩,hcp,-,-,h⟩ := recordEdge_bind_ok h
    obtain ⟨_,_,hcp',⟨⟩,-,-,h⟩ := recordEdge_bind_ok h
    cases h; cases hcp.symm.trans hcp'
    exact .inr ⟨rfl,sh,cp,rfl,by rw [hx]; rfl,hcp,rfl⟩

end AllocSpecs

/-- An allocation hook's conclusion, read off the frame it leaves. -/
theorem AllocHook.of_frame {o : Obj} {s s' : Kernel} {r : Int} {f : Frame} (he : s'.frame=f)
    (hm : Moves s.frame f) (hh : f.host=s.host) (ho : f.sec o=none ↔ r≠0) :
    Moves s.frame s'.frame ∧ s'.host=s.host ∧ (s'.sec o=none ↔ r≠0) := by
  subst he; exact ⟨hm,hh,ho⟩

theorem allocHook_credPrepare (new old : Nat) :
    AllocHook (.cred new) (provenanceCredPrepare new old) := by
  intro s r s' _ hl hn h
  rcases credPrepare_spec h with ⟨rfl,-,he⟩ | ⟨rfl,c,x,_,-,-,-,he⟩
  · exact AllocHook.of_frame he .refl rfl (by simp [hn,ENOMEM])
  · refine AllocHook.of_frame he (.tail (.single (.attach _ hn hl ?_ ?_ (fun _ => ?_)
      (by simp [SbAgrees]))) (.emit rfl)) rfl (by simp)
    exacts [(snapshotIfc_same x _).1,(snapshotIfc_same x _).2.2.1,(snapshotIfc_same x _).2.1]

theorem allocHook_inodeAllocSecurity (cur inode : Nat) :
    AllocHook (.inode inode) (provenanceInodeAllocSecurity cur inode) := by
  intro s r s' hs hl hn h
  rcases inodeAllocSecurity_spec h with ⟨rfl,-,he⟩ | ⟨rfl,ino,x,q,sm,_,hi,-,hq,hsm,-,he⟩
  · exact AllocHook.of_frame he .refl rfl (by simp [hn,ENOMEM])
  · refine AllocHook.of_frame he (.tail (.single (.attach _ hn hl ?_ ?_ (by simp [Obj.drawsId])
      fun i ino' he hino' => ?_)) (.emit rfl)) rfl (by simp)
    · exact (snapshotIfc_same x _).1
    · exact (snapshotIfc_same x _).2.2.1
    obtain rfl : inode=i := by simpa using he
    obtain rfl : ino=ino' := by simpa [hi] using hino'
    exact ⟨q,sm,hq,hsm (hs.ne_next hq),(snapshotIfc_same x _).2.2.2.1⟩

theorem allocHook_msgMsgAllocSecurity (cur msg : Nat) :
    AllocHook (.msg msg) (provenanceMsgMsgAllocSecurity cur msg) := by
  intro s r s' _ hl hn h
  rcases msgMsgAllocSecurity_spec h with ⟨rfl,-,he⟩ | ⟨rfl,_,_,-,-,-,he⟩
  · exact AllocHook.of_frame he .refl rfl (by simp [hn,ENOMEM])
  · exact AllocHook.of_frame he (.tail (.single (.attach _ hn hl rfl rfl (fun _ => rfl)
      (by simp [SbAgrees]))) (.emit rfl)) rfl (by simp)

theorem allocHook_shmAllocSecurity (cur shm : Nat) :
    AllocHook (.shm shm) (provenanceShmAllocSecurity cur shm) := by
  intro s r s' _ hl hn h
  rcases shmAllocSecurity_spec h with ⟨rfl,-,he⟩ | ⟨rfl,_,_,-,-,-,he⟩
  · exact AllocHook.of_frame he .refl rfl (by simp [hn,ENOMEM])
  · refine AllocHook.of_frame he (.tail (.tail (.single (.attach _ hn hl rfl rfl (fun _ => rfl)
      (by simp [SbAgrees]))) (.emit ?_)) (.emit rfl)) rfl (by simp)
    rfl

theorem allocHook_skAllocSecurity (sk : Nat) :
    AllocHook (.sk sk) (provenanceSkAllocSecurity sk) := by
  intro s r s' _ hl hn h
  simp only [provenanceSkAllocSecurity,allocProvenance_bind,ASSIGN_NODE_ID] at h
  split at h
  · simp only [Option.isNone_some,Bool.false_eq_true,if_false,bind_assoc,pure_bind,setNodeId_bind,
      Function.update_same,setProv_bind,Function.update_idem] at h
    cases h
    exact ⟨.single (.attach _ hn hl rfl rfl (fun _ => rfl) (by simp [SbAgrees])),rfl,
      by simp [ENOMEM]⟩
  · cases h
    exact ⟨.refl,rfl,by simp [hn,ENOMEM]⟩

theorem allocHook_sbAllocSecurity (sb : Nat) :
    AllocHook (.sb sb) (provenanceSbAllocSecurity sb) := by
  intro s r s' _ hl hn h
  simp only [provenanceSbAllocSecurity,allocProvenance_bind] at h
  split at h
  · simp only [Option.isNone_some,Bool.false_eq_true,if_false,pure_bind,setProv_bind] at h
    cases h
    exact ⟨.single (.attach _ hn hl rfl rfl (by simp [Obj.drawsId]) (by simp [SbAgrees])),rfl,
      by simp [ENOMEM]⟩
  · cases h
    exact ⟨.refl,rfl,by simp [hn,ENOMEM]⟩

theorem steps_recordFileName (file : Nat) : Steps (provenanceRecordFileName file) := by
  intro s a s' _ _ h
  simp only [provenanceRecordFileName,getFile,getObj_bind,provOf_bind,node_bind] at h
  split at h
  · next f hf =>
    split at h
    · split at h
      · cases h
      · next p hp =>
        split at h
        · next m hm =>
          split at h
          · next hc =>
            simp only [kzalloc,allocAttempt_bind,allocLongProvenance_bind,dentryPathRaw_bind,
              fault] at h
            by_cases hb : s.allocOk s.allocs=true; swap
            · simp only [hb,Bool.not_false,if_true,ite_self] at h; cases h
            by_cases hpath : PATH_MAX<f.path.length+1
            · simp only [hb,Bool.not_true,Bool.false_eq_true,if_false,hpath,if_true,ite_self] at h
              cases h
            by_cases hl : s.allocOk (s.allocs+1)=true; swap
            · simp only [hl,hb,Bool.not_true,Bool.false_eq_true,if_false,hpath] at h; cases h
            simp only [hl,hb,Bool.not_true,Bool.false_eq_true,if_false,if_true,hpath,longProvWrite,
              emit_bind,longRecordEdge,bind_assoc,livePtr_bind,modifyNode,hp,hm,Option.isSome_some,
              List.append_assoc,List.singleton_append] at h
            cases h
            simp only [Bool.and_eq_true,Bool.not_eq_true'] at hc
            exact ⟨.single (.name _ _ _ hm hc.1 hp (by simp [Obj.kind])),rfl⟩
          · cases h; exact ⟨.refl,rfl⟩
        · cases h
    · cases h
  · cases h

theorem steps_recordAddress (sock : Nat) (address : List UInt8) (addrlen : Int) :
    Steps (provenanceRecordAddress sock address addrlen) := by
  intro s a s' _ _ h
  simp only [provenanceRecordAddress,getSocket,getObj_bind,provOf_bind,node_bind] at h
  split at h
  · split at h
    · split at h
      · cases h
      · next p hp =>
        split at h
        · next m hm =>
          split at h
          · next hc =>
            simp only [allocLongProvenance_bind] at h
            split at h
            · simp only [longProvWrite,emit_bind,longRecordEdge,bind_assoc,livePtr_bind,
                modifyNode,hp,hm,Option.isSome_some,if_true,List.append_assoc,
                List.singleton_append] at h
              cases h
              simp only [Bool.and_eq_true,Bool.not_eq_true'] at hc
              exact ⟨.single (.name _ _ _ hm hc.1 hp (by simp [Obj.kind])),rfl⟩
            · cases h
          · cases h; exact ⟨.refl,rfl⟩
        · cases h
    · cases h
  · cases h

theorem Steps.lookup {β : Type} {o : Obj} {g : Option Nat → ProvM β}
    (h : ∀ x, StepsOn (fun s => s.host.Live o=true ∧ s.sec o=x) (g x)) :
    Steps (CamFlow.Provenance.provOf o >>= g) := by
  intro s b s' hs _ hb
  rw [CamFlow.Provenance.provOf_bind] at hb
  split at hb
  · exact h _ s b s' hs ⟨‹_›,rfl⟩ hb
  · cases hb

theorem steps_inodePermission (cur inode : Nat) (mask : UInt32) :
    Steps (provenanceInodePermission cur inode mask) := by
  refine .bind (.provOf _) fun _ => .bind (.getObj _ _) fun _ => .ite (.pure _)
    (.bind (.pure _) fun _ => .lookup fun x => .ite (fun hx => .bind
      ((allocHook_inodeAllocSecurity cur inode).stepsOn hx) fun _ => .bind (.provOf _) fun _ => ?_)
      fun _ => .of_steps (.bind (.pure _) fun _ => ?_)) <;>
  exact .ite (.bind (.recordEdge _ _ _ _) fun _ => .ite (.bind (.recordEdge _ _ _ _) fun _ =>
      .ite (.bind (.recordEdge _ _ _ _) fun _ => .pure _) (.bind (.pure _) fun _ => .pure _))
      (.bind (.pure _) fun _ => .ite (.bind (.recordEdge _ _ _ _) fun _ => .pure _)
        (.bind (.pure _) fun _ => .pure _)))
    (.bind (.pure _) fun _ => .ite (.bind (.recordEdge _ _ _ _) fun _ =>
      .ite (.bind (.recordEdge _ _ _ _) fun _ => .pure _) (.bind (.pure _) fun _ => .pure _))
      (.bind (.pure _) fun _ => .ite (.bind (.recordEdge _ _ _ _) fun _ => .pure _)
        (.bind (.pure _) fun _ => .pure _)))

theorem steps_fileOpen (cur file : Nat) : Steps (provenanceFileOpen cur file) := by
  refine .bind (.provOf _) fun _ => .bind (.getObj _ _) fun f => .lookup fun x =>
    .ite (fun hx => .bind ((allocHook_inodeAllocSecurity cur f.inode).stepsOn hx) fun _ =>
      .bind (.pure _) fun _ => ?_) fun _ => .of_steps (.bind (.pure _) fun _ => ?_) <;>
  exact .bind (steps_recordFileName file) fun _ => .bind (.provOf _) fun _ =>
    .bind (.recordEdge _ _ _ _) fun _ => .pure _

theorem steps_fileIoctl (cur file : Nat) : Steps (provenanceFileIoctl cur file) := by
  refine .bind (.provOf _) fun _ => .bind (.getObj _ _) fun f => .lookup fun x =>
    .ite (fun hx => .bind ((allocHook_inodeAllocSecurity cur f.inode).stepsOn hx) fun _ =>
      .bind (.pure _) fun _ => ?_) fun _ => .of_steps (.bind (.pure _) fun _ => ?_) <;>
  exact .bind (steps_recordFileName file) fun _ => .bind (.provOf _) fun _ =>
    .bind (.recordEdge _ _ _ _) fun _ => .bind (.provUpdateVersion _) fun _ =>
    .bind (.recordEdge _ _ _ _) fun _ => .bind (.provUpdateVersion _) fun _ => .pure _

theorem steps_socketPostCreate (cur sock : Nat) (family type protocol kern : Int) :
    Steps (provenanceSocketPostCreate cur sock family type protocol kern) := by
  refine .bind (.provOf _) fun _ => .bind (.getObj _ _) fun so => .bind (.provOf _) fun _ =>
    .ite (.pure _) (.bind (.pure _) fun _ => .lookup fun x => .ite (fun hx =>
      .bind ((allocHook_skAllocSecurity so.sk).stepsOn hx) fun _ => .bind (.pure _) fun _ => ?_)
      fun _ => .of_steps (.bind (.pure _) fun _ => ?_)) <;>
  exact .bind (.provOf _) fun _ => .bind (.modifyNode _ fun _ => ⟨rfl,rfl,rfl,rfl,rfl⟩) fun _ =>
    .bind (.recordEdge _ _ _ _) fun _ => .bind (.recordEdge _ _ _ _) fun _ => .pure _

theorem steps_bprmSetCreds (cred : Nat) : Steps (provenanceBprmSetCreds cred) :=
  .lookup fun _ => .ite (fun hx => (allocHook_credAllocBlank cred).stepsOn hx)
    fun _ => .of_steps (.pure _)

theorem steps_taskFixSetuid (new old : Nat) : Steps (provenanceTaskFixSetuid new old) :=
  .bind (.provOf _) fun _ => .bind (.provOf _) fun _ => .bind (.recordEdge _ _ _ _) fun _ => .pure _

theorem steps_filePermission (cur file : Nat) (mask : UInt32) :
    Steps (provenanceFilePermission cur file mask) :=
  .bind (.getObj _ _) fun _ => .bind (steps_recordFileName file) fun _ =>
    .bind (steps_inodePermission _ _ _) fun _ => .pure _

theorem steps_mmapFile (cur : Nat) (file : Option Nat) (prot : UInt64) :
    Steps (provenanceMmapFile cur file prot) := by
  refine .bind (.provOf _) fun _ => ?_
  rcases file with _ | file
  · exact .pure _
  · exact .bind (steps_recordFileName file) fun _ => .bind (.getObj _ _) fun _ =>
      .bind (.provOf _) fun _ => .ite (.bind (.recordEdge _ _ _ _) fun _ =>
        .ite (.bind (.recordEdge _ _ _ _) fun _ => .pure _) (.bind (.pure _) fun _ => .pure _))
        (.bind (.pure _) fun _ => .ite (.bind (.recordEdge _ _ _ _) fun _ => .pure _)
          (.bind (.pure _) fun _ => .pure _))

theorem steps_msgQueueMsgsnd (cur msg : Nat) : Steps (provenanceMsgQueueMsgsnd cur msg) :=
  .bind (.provOf _) fun _ => .bind (.provOf _) fun _ => .bind (.recordEdge _ _ _ _) fun _ => .pure _

theorem steps_msgQueueMsgrcv (msg target : Nat) : Steps (provenanceMsgQueueMsgrcv msg target) :=
  .bind (.provOf _) fun _ => .bind (.provOf _) fun _ => .bind (.recordEdge _ _ _ _) fun _ => .pure _

theorem steps_shmShmat (cur shm : Nat) (shmflg : UInt32) :
    Steps (provenanceShmShmat cur shm shmflg) :=
  .bind (.provOf _) fun _ => .bind (.provOf _) fun _ => .ite (.pure _) (.bind (.pure _) fun _ =>
    .ite (.bind (.recordEdge _ _ _ _) fun _ => .pure _)
      (.bind (.recordEdge _ _ _ _) fun _ => .bind (.recordEdge _ _ _ _) fun _ => .pure _))

theorem steps_socketAddress (t : EdgeType) (cur sock : Nat) (address : List UInt8)
    (addrlen : Int) : Steps (provenanceSocketAddress t cur sock address addrlen) :=
  .bind (.provOf _) fun _ => .bind (.getObj _ _) fun _ => .bind (.provOf _) fun _ =>
    .bind (.node _) fun _ => .ite (.pure _) (.bind (.pure _) fun _ => .ite (.pure _)
      (.bind (.pure _) fun _ => .bind (steps_recordAddress _ _ _) fun _ =>
        .bind (.recordEdge _ _ _ _) fun _ => .pure _))

theorem steps_socketListen (cur sock : Nat) : Steps (provenanceSocketListen cur sock) :=
  .bind (.provOf _) fun _ => .bind (.getObj _ _) fun _ => .bind (.provOf _) fun _ =>
    .bind (.recordEdge _ _ _ _) fun _ => .pure _

theorem steps_socketAccept (cur sock newsock : Nat) :
    Steps (provenanceSocketAccept cur sock newsock) :=
  .bind (.provOf _) fun _ => .bind (.getObj _ _) fun _ => .bind (.provOf _) fun _ =>
    .bind (.getObj _ _) fun _ => .bind (.provOf _) fun _ => .bind (.recordEdge _ _ _ _) fun _ =>
    .bind (.recordEdge _ _ _ _) fun _ => .pure _

theorem steps_unixStreamConnect (cur sk other newsk : Nat) :
    Steps (provenanceUnixStreamConnect cur sk other newsk) :=
  .bind (.provOf _) fun _ => .bind (.provOf _) fun _ => .bind (.provOf _) fun _ =>
    .bind (.provOf _) fun _ => .bind (.recordEdge _ _ _ _) fun _ =>
    .bind (.recordEdge _ _ _ _) fun _ => .bind (.recordEdge _ _ _ _) fun _ => .pure _

theorem steps_unixMaySend (sock other : Nat) : Steps (provenanceUnixMaySend sock other) :=
  .bind (.getObj _ _) fun _ => .bind (.provOf _) fun _ => .bind (.getObj _ _) fun _ =>
    .bind (.provOf _) fun _ => .bind (.recordEdge _ _ _ _) fun _ => .pure _

theorem steps_bprmCommittingCreds (cur cred file : Nat) :
    Steps (provenanceBprmCommittingCreds cur cred file) :=
  .bind (.provOf _) fun _ => .bind (.provOf _) fun _ => .bind (.getObj _ _) fun _ =>
    .bind (.provOf _) fun _ => .bind (.recordEdge _ _ _ _) fun _ => .recordEdge _ _ _ _

/-- The host creating an object, with the object's allocation hook: the object stays only if
the hook attached a record to it. -/
theorem create_moves {o : Obj} {add : Host → Host} {hook : ProvM Int} (hh : AllocHook o hook)
    (hadd : ∀ h o', (add h).Live o'=true ↔ o'=o ∨ h.Live o'=true)
    (hino : ∀ h i, .inode i≠o → (add h).inodes i=h.inodes i) {s s' : Kernel} {r : Int}
    (hs : Sane s.frame) (h : create o add hook s=.ok (r,s')) : Moves s.frame s'.frame := by
  simp only [create,getHost_bind] at h
  split at h
  · cases h
  · next hl =>
    obtain ⟨_,_,h₀,h⟩ := bind_ok h; cases h₀
    obtain ⟨_,_,h₁,h⟩ := bind_ok h; cases h₁
    obtain ⟨r,s₂,h₂,h⟩ := bind_ok h
    have hn : s.sec o=none := by
      rcases e : s.sec o with _ | p
      · rfl
      · exact absurd (hs.live o p e) hl
    have m₁ : Move s.frame ({s with host := add s.host} : Kernel).frame :=
      .create _ (by simpa using hl) (hadd _) (hino _)
    obtain ⟨hm,-,hr⟩ := hh _ _ _ (hs.move m₁) ((hadd _ _).2 (.inl rfl)) hn h₂
    have hm := Relation.ReflTransGen.head m₁ hm
    split at h <;> obtain ⟨_,_,h₃,h⟩ := bind_ok h <;> cases h₃ <;> cases h
    · exact hm.tail (.drop (hr.2 ‹_›))
    · exact hm

/-- The host creating an object and running no hook for it. -/
theorem create_pure_moves {o : Obj} {add : Host → Host}
    (hadd : ∀ h o', (add h).Live o'=true ↔ o'=o ∨ h.Live o'=true)
    (hino : ∀ h i, .inode i≠o → (add h).inodes i=h.inodes i) {s s' : Kernel} {r : Int}
    (h : create o add (pure 0) s=.ok (r,s')) : Moves s.frame s'.frame := by
  simp only [create,getHost_bind] at h
  split at h
  · cases h
  · next hl => cases h; exact .single (.create _ (by simpa using hl) (hadd _) (hino _))

theorem modifyHost_moves (h : Host → Host) (hl : ∀ x o, (h x).Live o=x.Live o)
    (hi : ∀ x, (h x).inodes=x.inodes) {s s' : Kernel} {r : Int}
    (e : (modifyHost h >>= fun _ => (pure 0 : ProvM Int)) s=.ok (r,s')) :
    Moves s.frame s'.frame := by
  cases e; exact .single (.other _ (hl _) (hi _))

/-- The events that release a record or rewrite a record's identity fields. -/
def Event.special : Event → Bool
  | .credFree _ | .inodeFreeSecurity _ | .msgMsgFreeSecurity _ | .shmFreeSecurity _
  | .skFreeSecurity _ | .sbFreeSecurity _ | .credTransfer _ _ | .sbKernMount _ _ => true
  | _ => false

/-- What creating an object of each kind does to which objects are live. -/
theorem live_update_creds (h : Host) (i : Nat) (c : Cred) (o : Obj) :
    ({h with creds := Function.update h.creds i (some c)} : Host).Live o=true ↔
      o=.cred i ∨ h.Live o=true := by
  cases o <;> simp [Host.Live,Function.update_apply]
  split_ifs <;> simp_all

theorem live_update_inodes (h : Host) (i : Nat) (x : Inode) (o : Obj) :
    ({h with inodes := Function.update h.inodes i (some x)} : Host).Live o=true ↔
      o=.inode i ∨ h.Live o=true := by
  cases o <;> simp [Host.Live,Function.update_apply]
  split_ifs <;> simp_all

theorem live_update_msgs (h : Host) (i : Nat) (x : MsgMsg) (o : Obj) :
    ({h with msgs := Function.update h.msgs i (some x)} : Host).Live o=true ↔
      o=.msg i ∨ h.Live o=true := by
  cases o <;> simp [Host.Live,Function.update_apply]
  split_ifs <;> simp_all

theorem live_update_shms (h : Host) (i : Nat) (x : Shm) (o : Obj) :
    ({h with shms := Function.update h.shms i (some x)} : Host).Live o=true ↔
      o=.shm i ∨ h.Live o=true := by
  cases o <;> simp [Host.Live,Function.update_apply]
  split_ifs <;> simp_all

theorem live_update_sks (h : Host) (i : Nat) (o : Obj) :
    ({h with sks := Function.update h.sks i true} : Host).Live o=true ↔
      o=.sk i ∨ h.Live o=true := by
  cases o <;> simp [Host.Live,Function.update_apply]

theorem live_update_sbs (h : Host) (i : Nat) (x : SuperBlock) (o : Obj) :
    ({h with sbs := Function.update h.sbs i (some x)} : Host).Live o=true ↔
      o=.sb i ∨ h.Live o=true := by
  cases o <;> simp [Host.Live,Function.update_apply]
  split_ifs <;> simp_all

theorem live_insert (h : Host) (i : Nat) (x : HostObj) (o : Obj) :
    (x.insert i h).Live o=true ↔ o=x.obj i ∨ h.Live o=true := by
  cases x
  exacts [live_update_creds h i _ o,live_update_inodes h i _ o,live_update_sks h i o,
    live_update_msgs h i _ o,live_update_shms h i _ o,live_update_sbs h i _ o]

theorem insert_inodes (h : Host) (i : Nat) (x : HostObj) (j : Nat) (hj : .inode j≠x.obj i) :
    (x.insert i h).inodes j=h.inodes j := by
  cases x <;> try rfl
  exact Function.update_noteq (fun e => hj (by rw [e]; rfl)) _ _

/-- Every event other than the special ones only makes moves. -/
theorem hostStep_moves {e : Event} {s s' : Kernel} {r : Int} (he : e.special=false)
    (hs : Sane s.frame) (h : hostStep e s=.ok (r,s')) : Moves s.frame s'.frame := by
  have ok {α : Type} {m : ProvM α} {a : α} (hm : Steps m) (h : m s=.ok (a,s')) :
      Moves s.frame s'.frame := (hm s a s' hs trivial h).1
  cases e with
  | credAllocBlank cred c =>
    exact create_moves (allocHook_credAllocBlank cred) (live_update_creds · cred c)
      (fun _ _ _ => rfl) hs h
  | credPrepare new old c =>
    exact create_moves (allocHook_credPrepare new old) (live_update_creds · new c)
      (fun _ _ _ => rfl) hs h
  | inodeAllocSecurity cur inode i =>
    exact create_moves (allocHook_inodeAllocSecurity cur inode) (live_update_inodes · inode i)
      (fun _ j hj => Function.update_noteq (fun e => hj (by rw [e])) _ _) hs h
  | msgMsgAllocSecurity cur msg m =>
    exact create_moves (allocHook_msgMsgAllocSecurity cur msg) (live_update_msgs · msg m)
      (fun _ _ _ => rfl) hs h
  | shmAllocSecurity cur shm sh =>
    exact create_moves (allocHook_shmAllocSecurity cur shm) (live_update_shms · shm sh)
      (fun _ _ _ => rfl) hs h
  | skAllocSecurity sk =>
    exact create_moves (allocHook_skAllocSecurity sk) (live_update_sks · sk)
      (fun _ _ _ => rfl) hs h
  | sbAllocSecurity sb x =>
    exact create_moves (allocHook_sbAllocSecurity sb) (live_update_sbs · sb x)
      (fun _ _ _ => rfl) hs h
  | taskFixSetuid new old => exact ok (steps_taskFixSetuid new old) h
  | inodePermission cur inode mask => exact ok (steps_inodePermission cur inode mask) h
  | filePermission cur file mask => exact ok (steps_filePermission cur file mask) h
  | mmapFile cur file prot => exact ok (steps_mmapFile cur file prot) h
  | fileIoctl cur file => exact ok (steps_fileIoctl cur file) h
  | inodeLink => exact ok (.pure _) h
  | msgQueueMsgsnd cur msg => exact ok (steps_msgQueueMsgsnd cur msg) h
  | msgQueueMsgrcv msg target => exact ok (steps_msgQueueMsgrcv msg target) h
  | shmShmat cur shm shmflg => exact ok (steps_shmShmat cur shm shmflg) h
  | socketPostCreate cur sock family type protocol kern =>
    exact ok (steps_socketPostCreate cur sock family type protocol kern) h
  | socketBind cur sock address addrlen =>
    exact ok (steps_socketAddress _ cur sock address addrlen) h
  | socketConnect cur sock address addrlen =>
    exact ok (steps_socketAddress _ cur sock address addrlen) h
  | socketListen cur sock => exact ok (steps_socketListen cur sock) h
  | socketSendmsg cur sock =>
    exact ok (.bind (.getObj _ _) fun _ => steps_inodePermission _ _ _) h
  | socketRecvmsg cur sock =>
    exact ok (.bind (.getObj _ _) fun _ => steps_inodePermission _ _ _) h
  | socketAccept cur sock newsock => exact ok (steps_socketAccept cur sock newsock) h
  | unixStreamConnect cur sk other newsk => exact ok (steps_unixStreamConnect cur sk other newsk) h
  | unixMaySend sock other => exact ok (steps_unixMaySend sock other) h
  | bprmSetCreds cred => exact ok (steps_bprmSetCreds cred) h
  | bprmCommittingCreds cur cred file =>
    exact ok (.bind (steps_bprmCommittingCreds cur cred file) fun _ => .pure _) h
  | fileOpen cur file => exact ok (steps_fileOpen cur file) h
  | fileCreate file f =>
    exact modifyHost_moves (fun x => {x with files := Function.update x.files file (some f)})
      (fun _ _ => rfl) (fun _ => rfl) h
  | socketCreate sock so =>
    exact modifyHost_moves (fun x => {x with socks := Function.update x.socks sock (some so)})
      (fun _ _ => rfl) (fun _ => rfl) h
  | createUnhooked i x => exact create_pure_moves (live_insert · i x) (insert_inodes · i x) h
  | credFree | inodeFreeSecurity | msgMsgFreeSecurity | shmFreeSecurity | skFreeSecurity
  | sbFreeSecurity | credTransfer | sbKernMount => cases he

/-- A free hook followed by the destruction of `o`: its pointer is cleared, the record it
pointed to is released when `free` holds, and `o` is gone. -/
def Frame.release (f : Frame) (o : Obj) (free : Bool) : Frame :=
  { f with
    host := f.host.erase o
    sec := Function.update f.sec o none
    heap :=
      match f.sec o with
      | some p => if free then Function.update f.heap p none else f.heap
      | none => f.heap }

/-- The object an event destroys, and whether its free hook releases the object's record:
`provenance_inode_free_security` releases it only when there is none. -/
def Event.release? : Event → Option (Obj × Bool)
  | .credFree c => some (.cred c,true)
  | .inodeFreeSecurity i => some (.inode i,false)
  | .msgMsgFreeSecurity m => some (.msg m,true)
  | .shmFreeSecurity m => some (.shm m,true)
  | .skFreeSecurity k => some (.sk k,true)
  | .sbFreeSecurity b => some (.sb b,true)
  | _ => none

/-- A free hook's frame: the object's pointer cleared and, when `free` holds, its record
released; `destroy` then erases the object. -/
def FreeHook (o : Obj) (free : Bool) (hook : ProvM Unit) : Prop :=
  ∀ s s', hook s=.ok ((),s') → s'.frame={s.frame.release o free with host := s.host}

theorem FreeHook.destroy {o : Obj} {free : Bool} {hook : ProvM Unit} (hh : FreeHook o free hook)
    {s s' : Kernel} {r : Int} (h : destroy o hook s=.ok (r,s')) :
    s'.frame=s.frame.release o free := by
  obtain ⟨_,s₁,h₁,h⟩ := bind_ok h
  rw [modifyHost_bind] at h
  cases h
  have e := hh s s₁ h₁
  have hh' : s₁.host=s.host := congrArg Frame.host e
  show ({s₁.frame with host := s₁.host.erase o} : Frame)=_
  rw [e,hh']; rfl

/-- `free_provenance(prov)`, then the pointer cleared: the shape of four free hooks. -/
theorem freeHook_freeThenClear (o : Obj) :
    FreeHook o true (provOf o >>= fun p => freeProvenance p >>= fun _ => setProv o none) := by
  intro s s' h
  rw [provOf_bind] at h
  split at h <;> [skip; cases h]
  rcases hso : s.sec o with _ | p <;> simp only [hso,freeProvenance_bind,setProv_bind] at h <;>
    cases h <;> simp only [Frame.release,Kernel.frame_sec,hso] <;> rfl

theorem freeHook_msgMsgFreeSecurity (m : Nat) :
    FreeHook (.msg m) true (provenanceMsgMsgFreeSecurity m) := by
  intro s s' h
  simp only [provenanceMsgMsgFreeSecurity,provOf_bind] at h
  split at h <;> [skip; cases h]
  rcases hso : s.sec (.msg m) with _ | p <;> simp only [hso,setProv_bind,freeProvenance] at h <;>
    cases h <;> simp only [Frame.release,Kernel.frame_sec,hso] <;> rfl

/-- `provenance_inode_free_security` releases nothing: it frees only a null pointer. -/
theorem freeHook_inodeFreeSecurity (i : Nat) :
    FreeHook (.inode i) false (provenanceInodeFreeSecurity i) := by
  intro s s' h
  simp only [provenanceInodeFreeSecurity,provOf_bind] at h
  split at h <;> [skip; cases h]
  rcases hso : s.sec (.inode i) with _ | p <;>
    simp only [hso,Option.isNone_none,Option.isNone_some,if_true,Bool.false_eq_true,if_false,
      bind_assoc,freeProvenance_bind,pure_bind,setProv_bind] at h <;>
    cases h <;> simp only [Frame.release,Kernel.frame_sec,hso] <;> rfl

theorem hostStep_release {e : Event} {o : Obj} {free : Bool} {s s' : Kernel} {r : Int}
    (he : e.release?=some (o,free)) (h : hostStep e s=.ok (r,s')) :
    s'.frame=s.frame.release o free := by
  cases e <;> cases he
  · exact (freeHook_freeThenClear _).destroy h
  · exact (freeHook_inodeFreeSecurity _).destroy h
  · exact (freeHook_msgMsgFreeSecurity _).destroy h
  all_goals exact (freeHook_freeThenClear _).destroy h

/-- `*prov=*old_prov`: the record of `new`'s credential becomes a copy of `old`'s. -/
theorem hostStep_credTransfer {new old : Nat} {s s' : Kernel} {r : Int}
    (h : hostStep (.credTransfer new old) s=.ok (r,s')) :
    ∃ p m q, s.sec (.cred old)=some p ∧ s.heap p=some m ∧ s.sec (.cred new)=some q ∧
      (s.heap q).isSome=true ∧ s'.frame={s.frame with heap := Function.update s.heap q (some m)} := by
  change (provenanceCredTransfer new old >>= fun _ => pure 0) s=_ at h
  simp only [provenanceCredTransfer,bind_assoc,provOf_bind,node_bind,modifyNode_bind,pure_bind] at h
  split at h <;> [skip; cases h]
  split at h <;> [skip; cases h]
  split at h; · cases h
  next p hp =>
  split at h <;> [skip; cases h]
  next m hm =>
  split at h; · cases h
  next q hq =>
  split at h <;> cases h
  exact ⟨p,m,q,hp,hm,hq,by simp [*],rfl⟩

/-- `provenance_sb_kern_mount` rewrites the uuid of the superblock's record, and nothing else. -/
theorem hostStep_sbKernMount {sb : Nat} {random : Uuid} {s s' : Kernel} {r : Int}
    (h : hostStep (.sbKernMount sb random) s=.ok (r,s')) :
    ∃ q m u, s.sec (.sb sb)=some q ∧ s.heap q=some m ∧
      s'.frame={s.frame with heap := Function.update s.heap q (some {m with uuid := u})} := by
  change provenanceSbKernMount sb random s=_ at h
  simp only [provenanceSbKernMount,bind_assoc,provOf_bind,getSb,getObj_bind,modifyNode_bind] at h
  split at h <;> [skip; cases h]
  split at h <;> [skip; cases h]
  split at h; · cases h
  next q hq =>
  split at h <;> [skip; cases h]
  next m hm =>
  split at h
  · simp only [hq,modifyNode_bind,Function.update_same,Function.update_idem] at h
    cases h
    exact ⟨q,m,_,hq,hm,rfl⟩
  · cases h
    exact ⟨q,m,_,hq,hm,rfl⟩

theorem moves_credInitProvenance (c : Nat) {s s' : Kernel} (hl : s.host.Live (.cred c)=true)
    (hn : s.sec (.cred c)=none) (h : credInitProvenance c s=.ok ((),s')) :
    Moves s.frame s'.frame := by
  simp only [credInitProvenance,getCred,getObj_bind,allocProvenance_bind] at h
  split at h <;> [skip; cases h]
  split at h
  · simp only [Option.isNone_some,Bool.false_eq_true,if_false,pure_bind,setNodeId_bind,
      Function.update_same,ASSIGN_NODE_ID,modifyNode_bind,Function.update_idem,setProv] at h
    cases h
    exact .single (.attach _ hn hl rfl rfl (fun _ => rfl) (by simp [SbAgrees]))
  · cases h

/-- Boot only makes moves from the start kernel. -/
theorem boot_moves {allocOk : Nat → Bool} {init : Cred} {k : Kernel}
    (h : boot allocOk init=.ok k) : Moves (Kernel.start allocOk init).frame k.frame := by
  unfold boot at h
  split at h <;> cases h
  exact moves_credInitProvenance 0 (by simp [Kernel.start,Host.Live]) rfl ‹_›

end CamFlow.Provenance
