import CamFlow.Provenance.Events

namespace CamFlow.Provenance

open CamFlow.Ifc

/-- The part of the kernel the invariants speak about: the allocation oracle and counters and
the release counts are left out. -/
structure Frame where
  host : Host
  sec : Obj → Option Nat
  heap : Nat → Option ProvMsg
  next : Nat
  nextNodeId : Nat
  log : List SinkRec

def Kernel.frame (s : Kernel) : Frame := ⟨s.host,s.sec,s.heap,s.next,s.nextNodeId,s.log⟩

@[simp] theorem Kernel.frame_host (s : Kernel) : s.frame.host=s.host := rfl
@[simp] theorem Kernel.frame_sec (s : Kernel) : s.frame.sec=s.sec := rfl
@[simp] theorem Kernel.frame_heap (s : Kernel) : s.frame.heap=s.heap := rfl
@[simp] theorem Kernel.frame_next (s : Kernel) : s.frame.next=s.next := rfl
@[simp] theorem Kernel.frame_nextNodeId (s : Kernel) : s.frame.nextNodeId=s.nextNodeId := rfl
@[simp] theorem Kernel.frame_log (s : Kernel) : s.frame.log=s.log := rfl

/-- The record an `ED_NAMED` edge names the object of. -/
def SinkRec.namedFrom : SinkRec → Option Nat
  | .longEdge .edNamed p _ _ => some p
  | _ => none

/-- How many `ED_NAMED` edges from `p` the log holds. -/
def namedCount (p : Nat) (log : List SinkRec) : Nat := log.countP (·.namedFrom==some p)

@[simp] theorem namedCount_nil (p : Nat) : namedCount p []=0 := rfl

theorem namedCount_append (p : Nat) (l l' : List SinkRec) :
    namedCount p (l++l')=namedCount p l+namedCount p l' := List.countP_append _ _ _

theorem namedCount_append_of_none (p : Nat) (l : List SinkRec) {r : SinkRec}
    (hr : r.namedFrom=none) : namedCount p (l++[r])=namedCount p l := by
  simp [namedCount_append,namedCount,hr]

theorem namedCount_mono {p : Nat} {l l' : List SinkRec} (h : l <+: l') :
    namedCount p l ≤ namedCount p l' := by
  obtain ⟨t,rfl⟩ := h
  rw [namedCount_append]; omega

/-- The fields of a record the invariants speak about: its kind, identifier, name flag and the
uuids. -/
def ProvMsg.Same (m' m : ProvMsg) : Prop :=
  m'.messageId=m.messageId ∧ m'.nodeId=m.nodeId ∧ m'.nameRecorded=m.nameRecorded ∧
    m'.sbUuid=m.sbUuid ∧ m'.uuid=m.uuid

/-- The objects whose allocation hook passes `ASSIGN_NODE_ID`. -/
def Obj.drawsId : Obj → Bool
  | .cred _ | .sk _ | .msg _ | .shm _ => true
  | .inode _ | .sb _ => false

/-- A record about to be attached to inode `o` carries the uuid of the record of the inode's
superblock. -/
def SbAgrees (f : Frame) (o : Obj) (m : ProvMsg) : Prop :=
  ∀ i ino, o=.inode i → f.host.inodes i=some ino →
    ∃ q mq, f.sec (.sb ino.sb)=some q ∧ f.heap q=some mq ∧ m.sbUuid=mq.uuid

@[simp] theorem Host.live_erase_self (h : Host) (o : Obj) : (h.erase o).Live o=false := by
  cases o <;> simp [Host.erase,Host.Live]

theorem Host.live_erase_ne (h : Host) {o o' : Obj} (hne : o'≠o) : (h.erase o).Live o'=h.Live o' := by
  cases o <;> cases o' <;> simp_all [Host.erase,Host.Live,Function.update_apply]

/-- One change a hook or the host makes to the frame. -/
inductive Move : Frame → Frame → Prop
  /-- `record_edge`, or any entry for the sink that is not an `ED_NAMED` edge. -/
  | emit {f : Frame} {r : SinkRec} : r.namedFrom=none → Move f {f with log := f.log++[r]}
  /-- A write to fields of a record outside its kind, identifier, name flag and uuids. -/
  | touch {f : Frame} {q : Nat} {m : ProvMsg} (g : ProvMsg → ProvMsg) :
    f.heap q=some m → (g m).Same m →
    Move f {f with heap := Function.update f.heap q (some (g m))}
  /-- The name of an object other than a task: the long record, the `ED_NAMED` edge and the
  flag, once. -/
  | name {f : Frame} {p : Nat} {m : ProvMsg} {o : Obj} (l : Nat) (msg : LongMsg) (a : Bool) :
    f.heap p=some m → m.nameRecorded=false → f.sec o=some p → o.kind≠.task →
    Move f { f with
      heap := Function.update f.heap p (some {m with nameRecorded := true})
      log := f.log++[.longWrite l msg,.longEdge .edNamed p l a] }
  /-- An allocation hook: a fresh record of the object's kind, attached to a live object that
  had none. -/
  | attach {f : Frame} {o : Obj} (m : ProvMsg) :
    f.sec o=none → f.host.Live o=true → m.messageId=o.kind → m.nameRecorded=false →
    (o.drawsId=true → m.nodeId=f.nextNodeId) → SbAgrees f o m →
    Move f { f with
      heap := Function.update f.heap f.next (some m)
      next := f.next+1
      sec := Function.update f.sec o (some f.next)
      nextNodeId := if o.drawsId then f.nextNodeId+1 else f.nextNodeId }
  /-- The host creates an object. -/
  | create {f : Frame} {o : Obj} (h : Host) : f.host.Live o=false →
    (∀ o', h.Live o'=true ↔ o'=o ∨ f.host.Live o'=true) →
    (∀ i, .inode i≠o → h.inodes i=f.host.inodes i) → Move f {f with host := h}
  /-- The host drops an object that carries no record. -/
  | drop {f : Frame} {o : Obj} : f.sec o=none → Move f {f with host := f.host.erase o}
  /-- The host creates a file or a socket. -/
  | other {f : Frame} (h : Host) : (∀ o, h.Live o=f.host.Live o) → h.inodes=f.host.inodes →
    Move f {f with host := h}

def Moves : Frame → Frame → Prop := Relation.ReflTransGen Move

theorem Move.log_grows {f f' : Frame} (h : Move f f') : f.log <+: f'.log := by
  cases h <;> first | exact List.prefix_refl _ | exact List.prefix_append _ _

theorem Moves.log_grows {f f' : Frame} (h : Moves f f') : f.log <+: f'.log := by
  induction h with
  | refl => exact List.prefix_refl _
  | tail _ h ih => exact ih.trans h.log_grows

/-- No move clears a pointer: only a free hook does. -/
theorem Move.sec_isSome {f f' : Frame} (h : Move f f') {o : Obj} (ho : (f.sec o).isSome=true) :
    (f'.sec o).isSome=true := by
  cases h with
  | @attach o' _ hn _ _ _ _ _ =>
    dsimp only
    by_cases e : o=o'
    · subst e; simp
    · rwa [Function.update_noteq e]
  | _ => exact ho

theorem Moves.sec_isSome {f f' : Frame} (h : Moves f f') {o : Obj} (ho : (f.sec o).isSome=true) :
    (f'.sec o).isSome=true := by
  induction h with
  | refl => exact ho
  | tail _ h ih => exact h.sec_isSome ih

/-- What every hook may take for granted about the frame: nothing lives at or beyond the
allocation frontier, and a pointer stored in an object is live and belongs to a live object. -/
structure Sane (f : Frame) : Prop where
  fresh : ∀ p, f.next ≤ p → f.heap p=none
  attached : ∀ o p, f.sec o=some p → (f.heap p).isSome=true
  live : ∀ o p, f.sec o=some p → f.host.Live o=true

theorem Sane.lt_next {f : Frame} (h : Sane f) {p : Nat} (hp : (f.heap p).isSome=true) :
    p < f.next := by
  rcases Nat.lt_or_ge p f.next with h' | h'
  · exact h'
  · rw [h.fresh p h'] at hp; cases hp

/-- Writing a live record keeps the frame sane. -/
theorem Sane.update {f : Frame} (hs : Sane f) (q : Nat) (hq : (f.heap q).isSome=true)
    (m : ProvMsg) : Sane {f with heap := Function.update f.heap q (some m)} := by
  have hlt := hs.lt_next hq
  refine ⟨fun p hp => ?_,fun o p h => ?_,hs.live⟩
  · dsimp only at hp ⊢
    rw [Function.update_noteq (show p≠q by omega)]; exact hs.fresh p hp
  · dsimp only at h ⊢
    by_cases e : p=q
    · subst e; simp
    · rw [Function.update_noteq e]; exact hs.attached o p h

theorem Sane.move {f f' : Frame} (hs : Sane f) (h : Move f f') : Sane f' := by
  cases h with
  | emit _ => exact ⟨hs.fresh,hs.attached,hs.live⟩
  | touch g hq _ => exact hs.update _ (by simp [hq]) _
  | @name p m _ _ _ _ hp _ _ _ =>
    have := hs.update p (by simp [hp]) {m with nameRecorded := true}
    exact ⟨this.fresh,this.attached,this.live⟩
  | @attach o m hn hl _ _ _ _ =>
    refine ⟨fun p hp => ?_,fun o' p h => ?_,fun o' p h => ?_⟩
    · dsimp only at hp ⊢
      rw [Function.update_noteq (show p≠f.next by omega)]; exact hs.fresh p (by omega)
    · dsimp only at h ⊢
      by_cases e : o'=o
      · subst e; simp only [Function.update_same,Option.some.injEq] at h; subst h; simp
      · rw [Function.update_noteq e] at h
        have := hs.lt_next (hs.attached o' p h)
        simpa [Function.update_noteq (show p≠f.next by omega)] using hs.attached o' p h
    · dsimp only at h ⊢
      by_cases e : o'=o
      · subst e; exact hl
      · rw [Function.update_noteq e] at h; exact hs.live o' p h
  | create h' _ hlive _ =>
    exact ⟨hs.fresh,hs.attached,fun o p h => (hlive o).2 (.inr (hs.live o p h))⟩
  | @drop o hn =>
    refine ⟨hs.fresh,hs.attached,fun o' p h => ?_⟩
    rw [Host.live_erase_ne _ (fun e => by subst e; simp [hn] at h)]
    exact hs.live o' p h
  | other h' hlive _ => exact ⟨hs.fresh,hs.attached,fun o p h => (hlive o).symm ▸ hs.live o p h⟩

theorem Sane.moves {f f' : Frame} (hs : Sane f) (h : Moves f f') : Sane f' := by
  induction h with
  | refl => exact hs
  | tail _ h ih => exact ih.move h

/-- A computation whose runs, from a sane state satisfying `P`, only make moves and leave the
host as it is: a hook never creates or destroys an object. -/
def StepsOn {α : Type} (P : Kernel → Prop) (m : ProvM α) : Prop :=
  ∀ s a s', Sane s.frame → P s → m s=.ok (a,s') → Moves s.frame s'.frame ∧ s'.host=s.host

/-- A computation whose runs from a sane state only make moves. -/
def Steps {α : Type} (m : ProvM α) : Prop := StepsOn (fun _ => True) m

theorem bind_ok {α β : Type} {m : ProvM α} {f : α → ProvM β} {s s' : Kernel} {b : β}
    (h : (m >>= f) s=.ok (b,s')) : ∃ a s₁, m s=.ok (a,s₁) ∧ f a s₁=.ok (b,s') := by
  rw [bind_apply] at h
  split at h
  · next a s₁ h₁ => exact ⟨a,s₁,h₁,h⟩
  · cases h

namespace StepsOn

variable {α β : Type} {P : Kernel → Prop}

theorem bind {m : ProvM α} {f : α → ProvM β} (hm : StepsOn P m) (hf : ∀ a, Steps (f a)) :
    StepsOn P (m >>= f) := fun _ _ _ hs hp h =>
  let ⟨a,_,h₁,h₂⟩ := bind_ok h
  have h₁ := hm _ _ _ hs hp h₁
  have h₂ := hf a _ _ _ (hs.moves h₁.1) trivial h₂
  ⟨h₁.1.trans h₂.1,h₂.2.trans h₁.2⟩

theorem ite {c : Prop} [Decidable c] {m₁ m₂ : ProvM α} (h₁ : c → StepsOn P m₁)
    (h₂ : ¬c → StepsOn P m₂) : StepsOn P (if c then m₁ else m₂) := by
  split
  · exact h₁ ‹_›
  · exact h₂ ‹_›

theorem of_steps {m : ProvM α} (h : Steps m) : StepsOn P m :=
  fun _ _ _ hs _ => h _ _ _ hs trivial

end StepsOn

namespace Steps

variable {α β : Type}

theorem bind {m : ProvM α} {f : α → ProvM β} (hm : Steps m) (hf : ∀ a, Steps (f a)) :
    Steps (m >>= f) := StepsOn.bind hm hf

theorem ite {c : Prop} [Decidable c] {m₁ m₂ : ProvM α} (h₁ : Steps m₁) (h₂ : Steps m₂) :
    Steps (if c then m₁ else m₂) := StepsOn.ite (fun _ => h₁) (fun _ => h₂)

/-- A computation that leaves the frame as it is. -/
theorem of_frame {m : ProvM α} (h : ∀ s a s', m s=.ok (a,s') → s'.frame=s.frame) : Steps m :=
  fun _ _ _ _ _ hm => have e := h _ _ _ hm; ⟨e ▸ .refl,congrArg Frame.host e⟩

theorem pure (a : α) : Steps (Pure.pure a : ProvM α) :=
  of_frame fun _ _ _ h => by cases h; rfl

theorem fault (e : Fault) : Steps (CamFlow.Provenance.fault e : ProvM α) :=
  of_frame fun _ _ _ h => by cases h

theorem getObj {γ : Type} (t : Host → Nat → Option γ) (i : Nat) :
    Steps (CamFlow.Provenance.getObj t i) :=
  of_frame fun s _ _ h => by
    unfold CamFlow.Provenance.getObj at h; split at h <;> cases h; rfl

theorem provOf (o : Obj) : Steps (CamFlow.Provenance.provOf o) :=
  of_frame fun s _ _ h => by
    unfold CamFlow.Provenance.provOf at h; split at h <;> cases h; rfl

theorem node (p : Option Nat) : Steps (CamFlow.Provenance.node p) :=
  of_frame fun s _ _ h => by
    unfold CamFlow.Provenance.node at h; split at h; cases h; split at h <;> cases h; rfl

theorem livePtr (p : Option Nat) : Steps (CamFlow.Provenance.livePtr p) :=
  of_frame fun s _ _ h => by
    unfold CamFlow.Provenance.livePtr at h; split at h; cases h; split at h <;> cases h; rfl

theorem ifcContext (c : Option IfcContext) : Steps (CamFlow.Provenance.ifcContext c) :=
  of_frame fun s _ _ h => by
    unfold CamFlow.Provenance.ifcContext at h; split at h <;> cases h; rfl

theorem allocAttempt : Steps CamFlow.Provenance.allocAttempt :=
  of_frame fun _ _ _ h => by cases h; rfl

theorem allocLongProvenance : Steps CamFlow.Provenance.allocLongProvenance :=
  .bind allocAttempt fun _ => .ite (of_frame fun _ _ _ h => by cases h; rfl) (pure _)

theorem dentryPathRaw (path : List UInt8) (buffer : Bool) :
    Steps (CamFlow.Provenance.dentryPathRaw path buffer) := by
  unfold CamFlow.Provenance.dentryPathRaw; exact .ite (fault _) (.ite (pure _) (pure _))

theorem emit {r : SinkRec} (hr : r.namedFrom=none) : Steps (CamFlow.Provenance.emit r) :=
  fun _ _ _ _ _ h => by cases h; exact ⟨.single (.emit hr),rfl⟩

theorem recordEdge (t : EdgeType) (a b : Option Nat) (al : Bool) :
    Steps (CamFlow.Provenance.recordEdge t a b al) :=
  .bind (livePtr a) fun _ => .bind (livePtr b) fun _ => emit rfl

theorem modifyNode (p : Option Nat) {g : ProvMsg → ProvMsg} (hg : ∀ m, (g m).Same m) :
    Steps (CamFlow.Provenance.modifyNode p g) := fun s _ _ _ _ h => by
  unfold CamFlow.Provenance.modifyNode at h
  split at h
  · cases h
  · split at h <;> cases h
    exact ⟨.single (.touch g ‹_› (hg _)),rfl⟩

theorem provUpdateVersion (p : Option Nat) : Steps (CamFlow.Provenance.provUpdateVersion p) :=
  modifyNode p fun _ => ⟨rfl,rfl,rfl,rfl,rfl⟩

end Steps

end CamFlow.Provenance
