import CamFlow.Provenance.Ownership

namespace CamFlow.Provenance

open CamFlow.Ifc

namespace Kernel

/-- The pointer is null or names an allocated record. -/
def LiveOpt (s : Kernel) (p : Option Nat) : Prop := ∀ q, p=some q → (s.heap q).isSome=true

/-- Every object's provenance pointer is null or live, and so is each pointer of `ps`. -/
def Holds (s : Kernel) (ps : List (Option Nat)) : Prop :=
  (∀ o, s.LiveOpt (s.sec o)) ∧ ∀ p ∈ ps, s.LiveOpt p

/-- From `s` to `s'` no record was released, and every object's pointer is still null or live. -/
def Keeps (s s' : Kernel) : Prop :=
  (∀ q, (s.heap q).isSome=true → (s'.heap q).isSome=true) ∧ ∀ o, s'.LiveOpt (s'.sec o)

variable {s s₁ s₂ : Kernel} {ps : List (Option Nat)}

theorem Keeps.refl (h : ∀ o, s.LiveOpt (s.sec o)) : s.Keeps s := ⟨fun _ => id,h⟩

theorem Keeps.trans (h₁ : s.Keeps s₁) (h₂ : s₁.Keeps s₂) : s.Keeps s₂ :=
  ⟨fun q hq => h₂.1 q (h₁.1 q hq),h₂.2⟩

theorem LiveOpt.keeps {p : Option Nat} (hp : s.LiveOpt p) (hk : s.Keeps s₁) : s₁.LiveOpt p :=
  fun q hq => hk.1 q (hp q hq)

theorem Holds.keeps (hs : s.Holds ps) (hk : s.Keeps s₁) : s₁.Holds ps :=
  ⟨hk.2,fun p hp => (hs.2 p hp).keeps hk⟩

theorem Holds.cons {p : Option Nat} (hs : s.Holds ps) (hp : s.LiveOpt p) : s.Holds (p::ps) :=
  ⟨hs.1,List.forall_mem_cons.2 ⟨hp,hs.2⟩⟩

/-- A step that leaves the pointers and the records as they are. -/
theorem Keeps.of_eq (hs : s.Holds ps) (hsec : s₁.sec=s.sec) (hheap : s₁.heap=s.heap) :
    s.Keeps s₁ := ⟨fun _ => hheap ▸ id,fun o q h => hheap ▸ hs.1 o q (hsec ▸ h)⟩

/-- A step that writes one record and leaves the pointers as they are. -/
theorem Keeps.of_write {q : Nat} {m : ProvMsg} (hs : s.Holds ps) (hsec : s₁.sec=s.sec)
    (hheap : s₁.heap=Function.update s.heap q (some m)) : s.Keeps s₁ := by
  have live : ∀ r, (s.heap r).isSome=true → (s₁.heap r).isSome=true := fun r hr => by
    rw [hheap]; by_cases e : r=q <;> simp [Function.update_apply,e,hr]
  exact ⟨live,fun o r h => live r (hs.1 o r (hsec ▸ h))⟩

end Kernel

/-- Run while every object's pointer and each pointer of `ps` is null or live, `m` dereferences
no released record, and returns having released none. -/
def NoDangle {α : Type} (ps : List (Option Nat)) (m : ProvM α) : Prop :=
  ∀ s, s.Holds ps → m s≠.error .danglingDeref ∧ ∀ a s', m s=.ok (a,s') → s.Keeps s'

namespace NoDangle

variable {α β : Type} {ps : List (Option Nat)} {f : α → ProvM β}

/-- The rest of a hook, run from the kernel a first computation stepped to. -/
theorem from_step {m : ProvM β} {s s₁ : Kernel} {ps' : List (Option Nat)} (hm : NoDangle ps' m)
    (hs : s₁.Holds ps') (hk : s.Keeps s₁) :
    m s₁≠.error .danglingDeref ∧ ∀ b s', m s₁=.ok (b,s') → s.Keeps s' :=
  ⟨(hm s₁ hs).1,fun b s' h => hk.trans ((hm s₁ hs).2 b s' h)⟩

theorem bind {m : ProvM α} (hm : NoDangle ps m) (hf : ∀ a, NoDangle ps (f a)) :
    NoDangle ps (m >>= f) := fun s hs => by
  rw [bind_apply]
  rcases h : m s with e | ⟨a,s₁⟩
  · refine ⟨fun he => (hm s hs).1 ?_,nofun⟩
    cases he; exact h
  · have hk := (hm s hs).2 a s₁ h
    exact (hf a).from_step (hs.keeps hk) hk

theorem ite {c : Prop} [Decidable c] {m₁ m₂ : ProvM α} (h₁ : NoDangle ps m₁)
    (h₂ : NoDangle ps m₂) : NoDangle ps (if c then m₁ else m₂) := by
  split <;> assumption

theorem ret (a : α) : NoDangle ps (pure a) :=
  fun _ hs => ⟨nofun,fun _ _ h => by cases h; exact .refl hs.1⟩

theorem fault {e : Fault} (he : e≠.danglingDeref) : NoDangle ps (fault e : ProvM α) :=
  fun _ _ => ⟨fun h => he (by cases h; rfl),nofun⟩

/-- A computation that leaves the pointers and the records as they are. -/
theorem inert {m : ProvM α} (hd : ∀ s, m s≠.error .danglingDeref)
    (he : ∀ s a s', m s=.ok (a,s') → s'.sec=s.sec ∧ s'.heap=s.heap) : NoDangle ps m :=
  fun s hs => ⟨hd s,fun a s' h => .of_eq hs (he s a s' h).1 (he s a s' h).2⟩

theorem getObj {γ : Type} {t : Host → Nat → Option γ} {i : Nat} :
    NoDangle ps (CamFlow.Provenance.getObj t i) :=
  .inert (fun s => by unfold CamFlow.Provenance.getObj; split <;> nofun)
    fun s _ _ h => by unfold CamFlow.Provenance.getObj at h; split at h <;> cases h; exact ⟨rfl,rfl⟩

theorem ifcContext {c : Option IfcContext} : NoDangle ps (CamFlow.Provenance.ifcContext c) :=
  .inert (fun _ => by cases c <;> nofun) fun _ _ _ h => by cases c <;> cases h; exact ⟨rfl,rfl⟩

theorem emit {r : SinkRec} : NoDangle ps (CamFlow.Provenance.emit r) :=
  .inert (fun _ => nofun) fun _ _ _ h => by cases h; exact ⟨rfl,rfl⟩

theorem allocAttempt : NoDangle ps CamFlow.Provenance.allocAttempt :=
  .inert (fun _ => nofun) fun _ _ _ h => by cases h; exact ⟨rfl,rfl⟩

theorem allocLongProvenance : NoDangle ps CamFlow.Provenance.allocLongProvenance :=
  .bind .allocAttempt fun b => by
    cases b
    · exact .ret _
    · exact .inert (fun _ => nofun) fun _ _ _ h => by cases h; exact ⟨rfl,rfl⟩

theorem dentryPathRaw {path : List UInt8} {buffer : Bool} :
    NoDangle ps (CamFlow.Provenance.dentryPathRaw path buffer) := by
  unfold CamFlow.Provenance.dentryPathRaw
  exact .ite (.fault nofun) (.ite (.ret _) (.ret _))

theorem getHost : NoDangle ps CamFlow.Provenance.getHost :=
  .inert (fun _ => nofun) fun _ _ _ h => by cases h; exact ⟨rfl,rfl⟩

theorem modifyHost {g : Host → Host} : NoDangle ps (CamFlow.Provenance.modifyHost g) :=
  .inert (fun _ => nofun) fun _ _ _ h => by cases h; exact ⟨rfl,rfl⟩

/-- The pointer of an object is null or live: the hook may hold it. -/
theorem provOf {o : Obj} {f : Option Nat → ProvM β} (hf : ∀ p, NoDangle (p::ps) (f p)) :
    NoDangle ps (CamFlow.Provenance.provOf o >>= f) := fun s hs => by
  rw [provOf_bind]
  split
  · exact (hf _).from_step (hs.cons (hs.1 o)) (.refl hs.1)
  · exact ⟨nofun,nofun⟩

/-- A fresh record is live. -/
theorem alloc {t : MsgType} {f : Option Nat → ProvM β} (hf : ∀ p, NoDangle (p::ps) (f p)) :
    NoDangle ps (allocProvenance t >>= f) := fun s hs => by
  rw [allocProvenance_bind]
  split
  · have hk : s.Keeps { s with
        allocs := s.allocs+1
        heap := Function.update s.heap s.next (some (.zero t))
        next := s.next+1 } := .of_write hs rfl rfl
    exact (hf _).from_step ((hs.keeps hk).cons fun q h => by cases h; simp) hk
  · exact (hf _).from_step ((hs.keeps (.of_eq hs rfl rfl)).cons nofun) (.of_eq hs rfl rfl)

/-- A pointer the hook holds, passed on. -/
theorem pureBind {p : Option Nat} {f : Option Nat → ProvM β} (hp : p ∈ ps)
    (hf : NoDangle (p::ps) (f p)) : NoDangle ps (pure p >>= f) :=
  fun s hs => hf s (hs.cons (hs.2 p hp))

variable {p : Option Nat}

theorem livePtr (hp : p ∈ ps) : NoDangle ps (CamFlow.Provenance.livePtr p) := fun s hs => by
  unfold CamFlow.Provenance.livePtr
  rcases p with _ | q
  · exact ⟨nofun,nofun⟩
  · dsimp only
    rw [if_pos (hs.2 (some q) hp q rfl)]
    exact ⟨nofun,fun _ _ h => by cases h; exact .refl hs.1⟩

theorem node (hp : p ∈ ps) : NoDangle ps (CamFlow.Provenance.node p) := fun s hs => by
  unfold CamFlow.Provenance.node
  rcases p with _ | q
  · exact ⟨nofun,fun _ _ h => by cases h⟩
  · obtain ⟨m,hm⟩ := Option.isSome_iff_exists.1 (hs.2 (some q) hp q rfl)
    dsimp only
    rw [hm]
    exact ⟨nofun,fun _ _ h => by cases h; exact .refl hs.1⟩

theorem modifyNode {g : ProvMsg → ProvMsg} (hp : p ∈ ps) :
    NoDangle ps (CamFlow.Provenance.modifyNode p g) := fun s hs => by
  unfold CamFlow.Provenance.modifyNode
  rcases p with _ | q
  · exact ⟨nofun,fun _ _ h => by cases h⟩
  · obtain ⟨m,hm⟩ := Option.isSome_iff_exists.1 (hs.2 (some q) hp q rfl)
    dsimp only
    rw [hm]
    exact ⟨nofun,fun _ _ h => by cases h; exact .of_write hs rfl rfl⟩

theorem setNodeId {nid : Option Nat} (hp : p ∈ ps) :
    NoDangle ps (CamFlow.Provenance.setNodeId p nid) := by
  unfold CamFlow.Provenance.setNodeId
  cases nid
  · exact .bind (.inert (fun _ => nofun) fun _ _ _ h => by cases h; exact ⟨rfl,rfl⟩) fun _ =>
      .modifyNode hp
  · exact .bind (.ret _) fun _ => .modifyNode hp

theorem provUpdateVersion (hp : p ∈ ps) : NoDangle ps (CamFlow.Provenance.provUpdateVersion p) :=
  .modifyNode hp

theorem provRecordIfc {c : IfcContext} (hp : p ∈ ps) :
    NoDangle ps (CamFlow.Provenance.provRecordIfc p c) := .modifyNode hp

theorem recordEdge {t : EdgeType} {q : Option Nat} {al : Bool} (hp : p ∈ ps) (hq : q ∈ ps) :
    NoDangle ps (CamFlow.Provenance.recordEdge t p q al) :=
  .bind (.livePtr hp) fun _ => .bind (.livePtr hq) fun _ => .emit

theorem longRecordEdge {t : EdgeType} {l : Nat} {al : Bool} (hp : p ∈ ps) :
    NoDangle ps (CamFlow.Provenance.longRecordEdge t p l al) :=
  .bind (.livePtr hp) fun _ => .emit

/-- Storing a pointer the hook holds in an object. -/
theorem setProv {o : Obj} (hp : p ∈ ps) : NoDangle ps (CamFlow.Provenance.setProv o p) :=
  fun s hs => ⟨nofun,fun _ _ h => by
    cases h
    refine ⟨fun _ => id,fun o' q h => ?_⟩
    by_cases e : o'=o
    · subst e; simp only [Function.update_same] at h; exact hs.2 _ hp q h
    · simp only [Function.update_noteq e] at h; exact hs.1 o' q h⟩

/-- The host's wrapper around an allocation hook. -/
theorem create {o : Obj} {add : Host → Host} {hook : ProvM Int} (hh : NoDangle ps hook) :
    NoDangle ps (CamFlow.Provenance.create o add hook) := by
  refine .bind .getHost fun _ =>
    .ite (.bind (.fault nofun) fun _ => ?_) (.bind (.ret _) fun _ => ?_) <;>
  exact .bind .modifyHost fun _ => .bind hh fun _ =>
    .ite (.bind .modifyHost fun _ => .ret _) (.bind (.ret _) fun _ => .ret _)

end NoDangle

section Hooks

variable {ps : List (Option Nat)}

theorem noDangle_credInitProvenance (cred : Nat) : NoDangle ps (credInitProvenance cred) := by
  refine .bind .getObj fun _ => .alloc fun _ =>
    .ite (.bind (.fault nofun) fun _ => ?_) (.bind (.ret _) fun _ => ?_) <;>
  exact .bind (.setNodeId (by simp)) fun _ => .bind (.modifyNode (by simp)) fun _ =>
    .setProv (by simp)

theorem noDangle_credAllocBlank (cred : Nat) : NoDangle ps (provenanceCredAllocBlank cred) :=
  .alloc fun _ => .ite (.ret _) (.bind (.ret _) fun _ => .bind (.setNodeId (by simp)) fun _ =>
    .bind .getObj fun _ => .bind (.modifyNode (by simp)) fun _ =>
    .bind (.setProv (by simp)) fun _ => .ret _)

theorem noDangle_credPrepare (new old : Nat) : NoDangle ps (provenanceCredPrepare new old) := by
  refine .provOf fun _ => .alloc fun _ => .ite (.ret _) (.bind (.ret _) fun _ =>
    .bind (.setNodeId (by simp)) fun _ => .bind .getObj fun _ =>
    .bind (.modifyNode (by simp)) fun _ => .bind .ifcContext fun _ =>
    .ite (.bind (.modifyNode (by simp)) fun _ => .bind (.provRecordIfc (by simp)) fun _ => ?_)
      (.bind (.ret _) fun _ => ?_)) <;>
  exact .bind (.recordEdge (by simp) (by simp)) fun _ => .bind (.setProv (by simp)) fun _ => .ret _

theorem noDangle_credTransfer (new old : Nat) : NoDangle ps (provenanceCredTransfer new old) :=
  .provOf fun _ => .provOf fun _ => .bind (.node (by simp)) fun _ => .modifyNode (by simp)

theorem noDangle_taskFixSetuid (new old : Nat) : NoDangle ps (provenanceTaskFixSetuid new old) :=
  .provOf fun _ => .provOf fun _ => .bind (.recordEdge (by simp) (by simp)) fun _ => .ret _

theorem noDangle_inodeAllocSecurity (cur inode : Nat) :
    NoDangle ps (provenanceInodeAllocSecurity cur inode) := by
  refine .provOf fun _ => .alloc fun _ => .ite (.ret _) (.bind (.ret _) fun _ =>
    .bind .getObj fun _ => .bind (.setNodeId (by simp)) fun _ =>
    .bind (.modifyNode (by simp)) fun _ => .provOf fun _ => .bind (.node (by simp)) fun _ =>
    .bind (.modifyNode (by simp)) fun _ => .bind (.setProv (by simp)) fun _ =>
    .bind .ifcContext fun _ =>
    .ite (.bind (.modifyNode (by simp)) fun _ => .bind (.provRecordIfc (by simp)) fun _ => ?_)
      (.bind (.ret _) fun _ => ?_)) <;>
  exact .bind (.recordEdge (by simp) (by simp)) fun _ => .ret _

theorem noDangle_inodePermission (cur inode : Nat) (mask : UInt32) :
    NoDangle ps (provenanceInodePermission cur inode mask) := by
  refine .provOf fun _ => .bind .getObj fun _ => .ite (.ret _) (.bind (.ret _) fun _ =>
    .provOf fun _ => .ite (.bind (noDangle_inodeAllocSecurity _ _) fun _ => .provOf fun _ => ?_)
      (.pureBind (by simp) ?_)) <;>
  refine .ite (.bind (.recordEdge (by simp) (by simp)) fun _ => ?_) (.bind (.ret _) fun _ => ?_) <;>
  refine .ite (.bind (.recordEdge (by simp) (by simp)) fun _ => ?_) (.bind (.ret _) fun _ => ?_) <;>
  exact .ite (.bind (.recordEdge (by simp) (by simp)) fun _ => .ret _) (.bind (.ret _) fun _ => .ret _)

theorem noDangle_recordFileName (file : Nat) : NoDangle ps (provenanceRecordFileName file) :=
  .bind .getObj fun _ => .provOf fun _ => .bind (.node (by simp)) fun _ =>
    .ite (.bind .allocAttempt fun _ => .bind .allocLongProvenance fun l => .bind .dentryPathRaw fun
      | none => .fault nofun
      | some _ => match l with
        | none => .fault nofun
        | some _ => .bind .emit fun _ => .bind (.longRecordEdge (by simp)) fun _ =>
          .modifyNode (by simp))
    (.ret _)

theorem noDangle_filePermission (cur file : Nat) (mask : UInt32) :
    NoDangle ps (provenanceFilePermission cur file mask) :=
  .bind .getObj fun _ => .bind (noDangle_recordFileName _) fun _ =>
    .bind (noDangle_inodePermission _ _ _) fun _ => .ret _

theorem noDangle_fileOpen (cur file : Nat) : NoDangle ps (provenanceFileOpen cur file) := by
  refine .provOf fun _ => .bind .getObj fun _ => .provOf fun _ =>
    .ite (.bind (noDangle_inodeAllocSecurity _ _) fun _ => .bind (.ret _) fun _ => ?_)
      (.bind (.ret _) fun _ => ?_) <;>
  exact .bind (noDangle_recordFileName _) fun _ => .provOf fun _ =>
    .bind (.recordEdge (by simp) (by simp)) fun _ => .ret _

theorem noDangle_mmapFile (cur : Nat) (file : Option Nat) (prot : UInt64) :
    NoDangle ps (provenanceMmapFile cur file prot) := by
  refine .provOf fun _ => ?_
  rcases file with _ | file
  · exact .ret _
  · refine .bind (noDangle_recordFileName _) fun _ => .bind .getObj fun _ => .provOf fun _ =>
      .ite (.bind (.recordEdge (by simp) (by simp)) fun _ => ?_) (.bind (.ret _) fun _ => ?_) <;>
    exact .ite (.bind (.recordEdge (by simp) (by simp)) fun _ => .ret _)
      (.bind (.ret _) fun _ => .ret _)

theorem noDangle_fileIoctl (cur file : Nat) : NoDangle ps (provenanceFileIoctl cur file) := by
  refine .provOf fun _ => .bind .getObj fun _ => .provOf fun _ =>
    .ite (.bind (noDangle_inodeAllocSecurity _ _) fun _ => .bind (.ret _) fun _ => ?_)
      (.bind (.ret _) fun _ => ?_) <;>
  exact .bind (noDangle_recordFileName _) fun _ => .provOf fun _ =>
    .bind (.recordEdge (by simp) (by simp)) fun _ => .bind (.provUpdateVersion (by simp)) fun _ =>
    .bind (.recordEdge (by simp) (by simp)) fun _ => .bind (.provUpdateVersion (by simp)) fun _ =>
    .ret _

theorem noDangle_msgMsgAllocSecurity (cur msg : Nat) :
    NoDangle ps (provenanceMsgMsgAllocSecurity cur msg) := by
  refine .provOf fun _ => .bind .getObj fun _ => .alloc fun _ => .ite (.ret _) (.bind (.ret _) fun _ =>
    .bind (.setNodeId (by simp)) fun _ => .bind (.modifyNode (by simp)) fun _ =>
    .ite (.bind .ifcContext fun _ => .ite
      (.bind (.modifyNode (by simp)) fun _ => .bind (.provRecordIfc (by simp)) fun _ => ?_)
      (.bind (.ret _) fun _ => ?_)) (.bind (.ret _) fun _ => ?_)) <;>
  exact .bind (.setProv (by simp)) fun _ => .bind (.recordEdge (by simp) (by simp)) fun _ => .ret _

theorem noDangle_msgQueueMsgsnd (cur msg : Nat) : NoDangle ps (provenanceMsgQueueMsgsnd cur msg) :=
  .provOf fun _ => .provOf fun _ => .bind (.recordEdge (by simp) (by simp)) fun _ => .ret _

theorem noDangle_msgQueueMsgrcv (msg target : Nat) :
    NoDangle ps (provenanceMsgQueueMsgrcv msg target) :=
  .provOf fun _ => .provOf fun _ => .bind (.recordEdge (by simp) (by simp)) fun _ => .ret _

theorem noDangle_shmAllocSecurity (cur shm : Nat) :
    NoDangle ps (provenanceShmAllocSecurity cur shm) := by
  refine .provOf fun _ => .bind .getObj fun _ => .alloc fun _ => .ite (.ret _) (.bind (.ret _) fun _ =>
    .bind (.setNodeId (by simp)) fun _ => .bind (.modifyNode (by simp)) fun _ =>
    .ite (.bind .ifcContext fun _ => .ite
      (.bind (.modifyNode (by simp)) fun _ => .bind (.provRecordIfc (by simp)) fun _ => ?_)
      (.bind (.ret _) fun _ => ?_)) (.bind (.ret _) fun _ => ?_)) <;>
  exact .bind (.setProv (by simp)) fun _ => .bind (.recordEdge (by simp) (by simp)) fun _ =>
    .bind (.recordEdge (by simp) (by simp)) fun _ => .ret _

theorem noDangle_shmShmat (cur shm : Nat) (shmflg : UInt32) :
    NoDangle ps (provenanceShmShmat cur shm shmflg) :=
  .provOf fun _ => .provOf fun _ => .ite (.ret _) (.bind (.ret _) fun _ =>
    .ite (.bind (.recordEdge (by simp) (by simp)) fun _ => .ret _)
      (.bind (.recordEdge (by simp) (by simp)) fun _ =>
        .bind (.recordEdge (by simp) (by simp)) fun _ => .ret _))

theorem noDangle_skAllocSecurity (sk : Nat) : NoDangle ps (provenanceSkAllocSecurity sk) :=
  .alloc fun _ => .ite (.ret _) (.bind (.ret _) fun _ => .bind (.setNodeId (by simp)) fun _ =>
    .bind (.setProv (by simp)) fun _ => .ret _)

theorem noDangle_socketPostCreate (cur sock : Nat) (family type protocol kern : Int) :
    NoDangle ps (provenanceSocketPostCreate cur sock family type protocol kern) := by
  refine .provOf fun _ => .bind .getObj fun _ => .provOf fun _ => .ite (.ret _) (.bind (.ret _) fun _ =>
    .provOf fun _ => .ite (.bind (noDangle_skAllocSecurity _) fun _ => .bind (.ret _) fun _ => ?_)
      (.bind (.ret _) fun _ => ?_)) <;>
  exact .provOf fun _ => .bind (.modifyNode (by simp)) fun _ =>
    .bind (.recordEdge (by simp) (by simp)) fun _ => .bind (.recordEdge (by simp) (by simp)) fun _ =>
    .ret _

theorem noDangle_recordAddress (sock : Nat) (address : List UInt8) (addrlen : Int) :
    NoDangle ps (provenanceRecordAddress sock address addrlen) :=
  .bind .getObj fun _ => .provOf fun _ => .bind (.node (by simp)) fun _ =>
    .ite (.bind .allocLongProvenance fun
      | none => .fault nofun
      | some _ => .bind .emit fun _ => .bind (.longRecordEdge (by simp)) fun _ =>
        .modifyNode (by simp))
    (.ret _)

theorem noDangle_socketAddress (t : EdgeType) (cur sock : Nat) (address : List UInt8)
    (addrlen : Int) : NoDangle ps (provenanceSocketAddress t cur sock address addrlen) :=
  .provOf fun _ => .bind .getObj fun _ => .provOf fun _ => .bind (.node (by simp)) fun _ =>
    .ite (.ret _) (.bind (.ret _) fun _ => .ite (.ret _) (.bind (.ret _) fun _ =>
      .bind (noDangle_recordAddress _ _ _) fun _ =>
      .bind (.recordEdge (by simp) (by simp)) fun _ => .ret _))

theorem noDangle_socketListen (cur sock : Nat) : NoDangle ps (provenanceSocketListen cur sock) :=
  .provOf fun _ => .bind .getObj fun _ => .provOf fun _ =>
    .bind (.recordEdge (by simp) (by simp)) fun _ => .ret _

theorem noDangle_socketAccept (cur sock newsock : Nat) :
    NoDangle ps (provenanceSocketAccept cur sock newsock) :=
  .provOf fun _ => .bind .getObj fun _ => .provOf fun _ => .bind .getObj fun _ => .provOf fun _ =>
    .bind (.recordEdge (by simp) (by simp)) fun _ => .bind (.recordEdge (by simp) (by simp)) fun _ =>
    .ret _

theorem noDangle_unixStreamConnect (cur sk other newsk : Nat) :
    NoDangle ps (provenanceUnixStreamConnect cur sk other newsk) :=
  .provOf fun _ => .provOf fun _ => .provOf fun _ => .provOf fun _ =>
    .bind (.recordEdge (by simp) (by simp)) fun _ => .bind (.recordEdge (by simp) (by simp)) fun _ =>
    .bind (.recordEdge (by simp) (by simp)) fun _ => .ret _

theorem noDangle_unixMaySend (sock other : Nat) : NoDangle ps (provenanceUnixMaySend sock other) :=
  .bind .getObj fun _ => .provOf fun _ => .bind .getObj fun _ => .provOf fun _ =>
    .bind (.recordEdge (by simp) (by simp)) fun _ => .ret _

theorem noDangle_bprmCommittingCreds (cur cred file : Nat) :
    NoDangle ps (provenanceBprmCommittingCreds cur cred file) :=
  .provOf fun _ => .provOf fun _ => .bind .getObj fun _ => .provOf fun _ =>
    .bind (.recordEdge (by simp) (by simp)) fun _ => .recordEdge (by simp) (by simp)

theorem noDangle_sbAllocSecurity (sb : Nat) : NoDangle ps (provenanceSbAllocSecurity sb) :=
  .alloc fun _ => .ite (.ret _) (.bind (.ret _) fun _ => .bind (.setProv (by simp)) fun _ => .ret _)

theorem noDangle_sbKernMount (sb : Nat) (random : Uuid) :
    NoDangle ps (provenanceSbKernMount sb random) :=
  .provOf fun _ => .bind .getObj fun _ => .bind (.modifyNode (by simp)) fun _ =>
    .ite (.bind (.modifyNode (by simp)) fun _ => .ret _) (.bind (.ret _) fun _ => .ret _)

end Hooks

/-- A computation that dereferences no released record, from any kernel. -/
def Derefless {α : Type} (m : ProvM α) : Prop := ∀ s, m s≠.error .danglingDeref

namespace Derefless

variable {α β : Type} {f : α → ProvM β}

theorem bind {m : ProvM α} (hm : Derefless m) (hf : ∀ a, Derefless (f a)) :
    Derefless (m >>= f) := fun s => by
  rw [bind_apply]
  rcases h : m s with e | ⟨a,s₁⟩
  · intro he; cases he; exact hm s h
  · exact hf a s₁

theorem ite {c : Prop} [Decidable c] {m₁ m₂ : ProvM α} (h₁ : Derefless m₁) (h₂ : Derefless m₂) :
    Derefless (if c then m₁ else m₂) := by
  split <;> assumption

theorem provOf {o : Obj} : Derefless (CamFlow.Provenance.provOf o) := fun s => by
  unfold CamFlow.Provenance.provOf; split <;> nofun

theorem freeProvenance {p : Option Nat} : Derefless (CamFlow.Provenance.freeProvenance p) :=
  fun _ => by cases p <;> nofun

theorem setProv {o : Obj} {p : Option Nat} : Derefless (CamFlow.Provenance.setProv o p) :=
  fun _ => nofun

/-- The host's wrapper around a free hook. -/
theorem destroy {o : Obj} {hook : ProvM Unit} (hh : Derefless hook) :
    Derefless (CamFlow.Provenance.destroy o hook) :=
  .bind hh fun _ => .bind (fun _ => nofun) fun _ => fun _ => nofun

end Derefless

/-- Every step of the host but a free hook. -/
theorem noDangle_hostStep {e : Event} (he : e.release?=none) : NoDangle [] (hostStep e) := by
  cases e with
  | credAllocBlank => exact .create (noDangle_credAllocBlank _)
  | credPrepare => exact .create (noDangle_credPrepare _ _)
  | inodeAllocSecurity => exact .create (noDangle_inodeAllocSecurity _ _)
  | msgMsgAllocSecurity => exact .create (noDangle_msgMsgAllocSecurity _ _)
  | shmAllocSecurity => exact .create (noDangle_shmAllocSecurity _ _)
  | skAllocSecurity => exact .create (noDangle_skAllocSecurity _)
  | sbAllocSecurity => exact .create (noDangle_sbAllocSecurity _)
  | credTransfer => exact .bind (noDangle_credTransfer _ _) fun _ => .ret _
  | bprmCommittingCreds => exact .bind (noDangle_bprmCommittingCreds _ _ _) fun _ => .ret _
  | fileCreate | socketCreate => exact .bind .modifyHost fun _ => .ret _
  | createUnhooked => exact .create (.ret _)
  | taskFixSetuid => exact noDangle_taskFixSetuid _ _
  | inodePermission => exact noDangle_inodePermission _ _ _
  | filePermission => exact noDangle_filePermission _ _ _
  | mmapFile => exact noDangle_mmapFile _ _ _
  | fileIoctl => exact noDangle_fileIoctl _ _
  | inodeLink => exact .ret _
  | msgQueueMsgsnd => exact noDangle_msgQueueMsgsnd _ _
  | msgQueueMsgrcv => exact noDangle_msgQueueMsgrcv _ _
  | shmShmat => exact noDangle_shmShmat _ _ _
  | socketPostCreate => exact noDangle_socketPostCreate _ _ _ _ _ _
  | socketBind | socketConnect => exact noDangle_socketAddress _ _ _ _ _
  | socketListen => exact noDangle_socketListen _ _
  | socketSendmsg | socketRecvmsg => exact .bind .getObj fun _ => noDangle_inodePermission _ _ _
  | socketAccept => exact noDangle_socketAccept _ _ _
  | unixStreamConnect => exact noDangle_unixStreamConnect _ _ _ _
  | unixMaySend => exact noDangle_unixMaySend _ _
  | bprmSetCreds => exact .provOf fun _ => .ite (noDangle_credAllocBlank _) (.ret _)
  | sbKernMount => exact noDangle_sbKernMount _ _
  | fileOpen => exact noDangle_fileOpen _ _
  | credFree | inodeFreeSecurity | msgMsgFreeSecurity | shmFreeSecurity | skFreeSecurity
  | sbFreeSecurity => cases he

/-- The free hooks: the pointer is read, cleared and the record released (the inode's only
when it is null). -/
theorem derefless_hostStep {e : Event} {r : Obj × Bool} (he : e.release?=some r) :
    Derefless (hostStep e) := by
  cases e <;> try cases he
  case inodeFreeSecurity =>
    exact .destroy (.bind .provOf fun _ =>
      .ite (.bind .freeProvenance fun _ => .setProv) (.bind (fun _ => nofun) fun _ => .setProv))
  case msgMsgFreeSecurity =>
    exact .destroy (.bind .provOf fun _ => .bind .setProv fun _ => .freeProvenance)
  all_goals exact .destroy (.bind .provOf fun _ => .bind .freeProvenance fun _ => .setProv)

/-- From a kernel where every object's pointer is null or live, no step of the host
dereferences a released record. -/
theorem hostStep_ne_danglingDeref (e : Event) {s : Kernel} (hs : ∀ o, s.LiveOpt (s.sec o)) :
    hostStep e s≠.error .danglingDeref := by
  cases he : e.release? with
  | none => exact (noDangle_hostStep he s ⟨hs,nofun⟩).1
  | some r => exact derefless_hostStep he s

theorem boot_ne_danglingDeref (allocOk : Nat → Bool) (init : Cred) :
    boot allocOk init≠.error .danglingDeref := by
  have h := (noDangle_credInitProvenance 0 : NoDangle [] _) (Kernel.start allocOk init)
    ⟨fun _ _ h => (nomatch h),nofun⟩
  unfold boot
  split
  · exact nofun
  · next f hf => intro e; cases e; exact h.1 hf

theorem run_ne_danglingDeref {k : Kernel} (hk : Reachable k) :
    ∀ es, run es k≠.error .danglingDeref
  | [] => nofun
  | e::es => by
    simp only [run]
    split
    · next r k' h => exact run_ne_danglingDeref (hk.step h) es
    · next f h =>
      intro e'; cases e'
      exact hostStep_ne_danglingDeref e (fun o => hk.owned.sane.attached o) h

/-- Whatever the host does and whichever allocations fail, a run from boot never dereferences a
released record of `provenance_cache`: every fault it ends in is of another kind. -/
theorem no_run_dereferences_released_record (allocOk : Nat → Bool) (init : Cred)
    (es : List Event) : bootRun allocOk init es≠.error .danglingDeref := by
  unfold bootRun
  cases hb : boot allocOk init with
  | error f => exact fun h => boot_ne_danglingDeref allocOk init (hb.trans h)
  | ok k => exact run_ne_danglingDeref (.boot hb) es

end CamFlow.Provenance
