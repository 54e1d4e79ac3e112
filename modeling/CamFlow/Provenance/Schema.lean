import CamFlow.Provenance.Ownership

namespace CamFlow.Provenance

open CamFlow.Ifc Function

/-- The kinds of records `hooks.c` joins by an edge of each type, from the first to the
second. -/
def EdgeType.joins : EdgeType → MsgType → MsgType → Bool
  | .edFork,.task,.task | .edChange,.task,.task => true
  | .edCreate,.task,.inode | .edCreate,.task,.msg | .edCreate,.task,.sock
  | .edCreate,.inode,.inode | .edCreate,.task,.task | .edCreate,.inode,.task => true
  | .edWrite,.task,.inode | .edWrite,.task,.msg => true
  | .edRead,.inode,.task | .edRead,.msg,.task => true
  | .edExec,.inode,.task | .edOpen,.inode,.task | .edAccept,.inode,.task => true
  | .edMmap,.task,.inode | .edMmap,.inode,.task => true
  | .edAttach,.shm,.task | .edAttach,.task,.shm => true
  | .edAssociate,.sock,.inode | .edAssociate,.sock,.sock | .edUnknown,.sock,.sock => true
  | .edBind,.task,.sock | .edConnect,.task,.sock | .edListen,.task,.sock => true
  | _,_,_ => false

/-- The kinds of records an `ED_NAMED` long edge starts at: a file's inode, a socket's sock. -/
def MsgType.named : MsgType → Bool
  | .inode | .sock => true
  | _ => false

/-- An entry of the log that joins live records of `s` as the schema allows. -/
def SinkRec.Fits (s : Kernel) : SinkRec → Prop
  | .edge t a b _ => ∃ ma mb, s.heap a=some ma ∧ s.heap b=some mb ∧
      t.joins ma.messageId mb.messageId=true
  | .longEdge t a _ _ => t=.edNamed ∧ ∃ m, s.heap a=some m ∧ m.messageId.named=true
  | .longWrite _ _ => True

namespace Kernel

/-- Nothing lives at or beyond the frontier, and every object's pointer names a live record of
the object's kind. -/
def Kinded (s : Kernel) : Prop :=
  (∀ q, s.next ≤ q → s.heap q=none) ∧ ∀ o q, s.sec o=some q → ∃ m, s.heap q=some m ∧ m.messageId=o.kind

/-- Each pointer a hook holds, when it is not null, names a live record of the kind beside it. -/
def KindsOf (s : Kernel) (ps : List (Option Nat × MsgType)) : Prop :=
  ∀ pk ∈ ps, ∀ q, pk.1=some q → ∃ m, s.heap q=some m ∧ m.messageId=pk.2

/-- Every record live in `s` is live in `s'`, of the same kind. -/
def KeepsKinds (s s' : Kernel) : Prop :=
  ∀ q m, s.heap q=some m → ∃ m', s'.heap q=some m' ∧ m'.messageId=m.messageId

/-- From `s` to `s'` records keep their kinds, the frontier does not move back, and the log grows
by entries that fit `s'`. -/
def Extends (s s' : Kernel) : Prop :=
  s.KeepsKinds s' ∧
    (∀ q m', s'.heap q=some m' → q<s.next → ∃ m, s.heap q=some m ∧ m.messageId=m'.messageId) ∧
    s.next ≤ s'.next ∧ s'.Kinded ∧ ∃ new, s'.log=s.log++new ∧ ∀ r ∈ new, r.Fits s'

variable {s s₁ s₂ : Kernel} {ps : List (Option Nat × MsgType)}

theorem KeepsKinds.trans (h₁ : s.KeepsKinds s₁) (h₂ : s₁.KeepsKinds s₂) : s.KeepsKinds s₂ :=
  fun q m h => let ⟨m₁,h₁',e₁⟩ := h₁ q m h; let ⟨m₂,h₂',e₂⟩ := h₂ q m₁ h₁'; ⟨m₂,h₂',e₂.trans e₁⟩

theorem KindsOf.keeps (hs : s.KindsOf ps) (hk : s.KeepsKinds s₁) : s₁.KindsOf ps :=
  fun pk hp q hq => let ⟨m,hm,e⟩ := hs pk hp q hq; let ⟨m',hm',e'⟩ := hk q m hm; ⟨m',hm',e'.trans e⟩

theorem KindsOf.cons {p : Option Nat} {k : MsgType} (hs : s.KindsOf ps)
    (hp : ∀ q, p=some q → ∃ m, s.heap q=some m ∧ m.messageId=k) : s.KindsOf ((p,k)::ps) :=
  List.forall_mem_cons.2 ⟨hp,hs⟩

theorem Extends.refl (h : s.Kinded) : s.Extends s :=
  ⟨fun _ m h => ⟨m,h,rfl⟩,fun _ m h _ => ⟨m,h,rfl⟩,le_rfl,h,[],(List.append_nil _).symm,nofun⟩

end Kernel

theorem SinkRec.Fits.keeps {s s' : Kernel} {r : SinkRec} (hr : r.Fits s) (hk : s.KeepsKinds s') :
    r.Fits s' := by
  cases r with
  | edge t a b _ =>
    obtain ⟨ma,mb,ha,hb,hj⟩ := hr
    obtain ⟨ma',ha',ea⟩ := hk a ma ha
    obtain ⟨mb',hb',eb⟩ := hk b mb hb
    exact ⟨ma',mb',ha',hb',by rw [ea,eb]; exact hj⟩
  | longEdge t a _ _ =>
    obtain ⟨ht,m,ha,hn⟩ := hr
    obtain ⟨m',ha',e⟩ := hk a m ha
    exact ⟨ht,m',ha',e ▸ hn⟩
  | longWrite => trivial

namespace Kernel

variable {s s₁ s₂ : Kernel}

theorem Extends.trans (h₁ : s.Extends s₁) (h₂ : s₁.Extends s₂) : s.Extends s₂ := by
  obtain ⟨k₁,b₁,n₁,-,new₁,l₁,f₁⟩ := h₁
  obtain ⟨k₂,b₂,n₂,d₂,new₂,l₂,f₂⟩ := h₂
  refine ⟨k₁.trans k₂,fun q m h hq => ?_,n₁.trans n₂,d₂,new₁++new₂,by rw [l₂,l₁,List.append_assoc],
    fun r hr => ?_⟩
  · obtain ⟨m₁,h₁,e₁⟩ := b₂ q m h (Nat.lt_of_lt_of_le hq n₁)
    obtain ⟨m₀,h₀,e₀⟩ := b₁ q m₁ h₁ hq
    exact ⟨m₀,h₀,e₀.trans e₁⟩
  · rcases List.mem_append.1 hr with hr | hr
    · exact (f₁ r hr).keeps k₂
    · exact f₂ r hr

/-- A step that leaves the pointers, the records, the frontier and the log as they are. -/
theorem Extends.of_eq (hs : s.Kinded) (hsec : s₁.sec=s.sec) (hheap : s₁.heap=s.heap)
    (hnext : s₁.next=s.next) (hlog : s₁.log=s.log) : s.Extends s₁ := by
  refine ⟨fun q m h => ⟨m,hheap ▸ h,rfl⟩,fun q m h _ => ⟨m,hheap ▸ h,rfl⟩,hnext.ge,
    ⟨fun q hq => hheap ▸ hs.1 q (hnext ▸ hq),fun o q h => hheap ▸ hs.2 o q (hsec ▸ h)⟩,[],
    by rw [hlog,List.append_nil],nofun⟩

/-- A step that writes one live record, keeping its kind. -/
theorem Extends.of_write {q : Nat} {m m' : ProvMsg} (hs : s.Kinded) (hq : s.heap q=some m)
    (he : m'.messageId=m.messageId) :
    s.Extends {s with heap := update s.heap q (some m')} := by
  have keep : ∀ r m₀, s.heap r=some m₀ →
      ∃ m₁, (update s.heap q (some m')) r=some m₁ ∧ m₁.messageId=m₀.messageId := fun r m₀ h => by
    by_cases e : r=q
    · subst e; rw [hq] at h; cases h; exact ⟨m',update_same _ _ _,he⟩
    · exact ⟨m₀,(update_noteq e _ _).trans h,rfl⟩
  refine ⟨keep,fun r m₁ h _ => ?_,le_rfl,⟨fun r hr => ?_,fun o r h => ?_⟩,[],
    (List.append_nil _).symm,nofun⟩
  · by_cases e : r=q
    · subst e; simp only [update_same,Option.some.injEq] at h; subst h; exact ⟨m,hq,he.symm⟩
    · exact ⟨m₁,(update_noteq e _ _).symm.trans h,rfl⟩
  · have hr : s.next ≤ r := hr
    have hr' : r≠q := fun e => by subst e; rw [hs.1 r hr] at hq; cases hq
    exact (update_noteq hr' _ _).trans (hs.1 r hr)
  · obtain ⟨m₀,h₀,e₀⟩ := hs.2 o r h
    obtain ⟨m₁,h₁,e₁⟩ := keep r m₀ h₀
    exact ⟨m₁,h₁,e₁.trans e₀⟩

/-- A step that appends one entry that fits. -/
theorem Extends.of_emit {r : SinkRec} (hs : s.Kinded) (hr : r.Fits s) :
    s.Extends {s with log := s.log++[r]} :=
  ⟨fun _ m h => ⟨m,h,rfl⟩,fun _ m h _ => ⟨m,h,rfl⟩,le_rfl,hs,[r],rfl,
    fun r' h => by rw [List.mem_singleton.1 h]; exact hr⟩

end Kernel

/-- Run from a kinded kernel with the pointers `ps` of the kinds beside them, `m` only extends
the kernel. -/
def Schema {α : Type} (ps : List (Option Nat × MsgType)) (m : ProvM α) : Prop :=
  ∀ s, s.Kinded → s.KindsOf ps → ∀ a s', m s=.ok (a,s') → s.Extends s'

namespace Schema

variable {α β : Type} {ps : List (Option Nat × MsgType)} {f : α → ProvM β}

theorem bind {m : ProvM α} (hm : Schema ps m) (hf : ∀ a, Schema ps (f a)) :
    Schema ps (m >>= f) := fun s hs hp b s' h =>
  let ⟨a,s₁,h₁,h₂⟩ := bind_ok h
  have e₁ := hm s hs hp a s₁ h₁
  e₁.trans (hf a s₁ e₁.2.2.2.1 (hp.keeps e₁.1) b s' h₂)

theorem ite {c : Prop} [Decidable c] {m₁ m₂ : ProvM α} (h₁ : Schema ps m₁) (h₂ : Schema ps m₂) :
    Schema ps (if c then m₁ else m₂) := by
  split <;> assumption

theorem ret (a : α) : Schema ps (pure a) := fun _ hs _ _ _ h => by cases h; exact .refl hs

theorem fault {e : Fault} : Schema ps (CamFlow.Provenance.fault e : ProvM α) := fun _ _ _ _ _ h =>
  nomatch h

/-- A computation that leaves the pointers, the records, the frontier and the log as they are. -/
theorem inert {m : ProvM α}
    (he : ∀ s a s', m s=.ok (a,s') → s'.sec=s.sec ∧ s'.heap=s.heap ∧ s'.next=s.next ∧ s'.log=s.log) :
    Schema ps m := fun s hs _ a s' h =>
  let ⟨h₁,h₂,h₃,h₄⟩ := he s a s' h; .of_eq hs h₁ h₂ h₃ h₄

theorem getObj {γ : Type} {t : Host → Nat → Option γ} {i : Nat} :
    Schema ps (CamFlow.Provenance.getObj t i) :=
  .inert fun s _ _ h => by
    unfold CamFlow.Provenance.getObj at h; split at h <;> cases h; exact ⟨rfl,rfl,rfl,rfl⟩

theorem ifcContext {c : Option IfcContext} : Schema ps (CamFlow.Provenance.ifcContext c) :=
  .inert fun _ _ _ h => by cases c <;> cases h; exact ⟨rfl,rfl,rfl,rfl⟩

theorem allocAttempt : Schema ps CamFlow.Provenance.allocAttempt :=
  .inert fun _ _ _ h => by cases h; exact ⟨rfl,rfl,rfl,rfl⟩

theorem allocLongProvenance : Schema ps CamFlow.Provenance.allocLongProvenance :=
  .bind .allocAttempt fun b => by
    cases b
    · exact .ret _
    · exact .inert fun _ _ _ h => by cases h; exact ⟨rfl,rfl,rfl,rfl⟩

theorem dentryPathRaw {path : List UInt8} {buffer : Bool} :
    Schema ps (CamFlow.Provenance.dentryPathRaw path buffer) := by
  unfold CamFlow.Provenance.dentryPathRaw
  exact .ite .fault (.ite (.ret _) (.ret _))

theorem getHost : Schema ps CamFlow.Provenance.getHost :=
  .inert fun _ _ _ h => by cases h; exact ⟨rfl,rfl,rfl,rfl⟩

theorem modifyHost {g : Host → Host} : Schema ps (CamFlow.Provenance.modifyHost g) :=
  .inert fun _ _ _ h => by cases h; exact ⟨rfl,rfl,rfl,rfl⟩

/-- `long_prov_write`: a long record, which joins nothing. -/
theorem longProvWrite {l : Nat} {lm : LongMsg} :
    Schema ps (CamFlow.Provenance.longProvWrite l lm) := fun _ hs _ _ _ h => by
  cases h; exact .of_emit hs trivial

/-- The pointer of an object names a record of the object's kind. -/
theorem provOf {o : Obj} {f : Option Nat → ProvM β} (hf : ∀ p, Schema ((p,o.kind)::ps) (f p)) :
    Schema ps (CamFlow.Provenance.provOf o >>= f) := fun s hs hp b s' h => by
  rw [provOf_bind] at h
  split at h
  · exact hf _ s hs (hp.cons (hs.2 o)) b s' h
  · cases h

/-- A fresh record, of the kind `alloc_provenance` was asked for, at the frontier. -/
theorem alloc {t : MsgType} {f : Option Nat → ProvM β} (hf : ∀ p, Schema ((p,t)::ps) (f p)) :
    Schema ps (allocProvenance t >>= f) := fun s hs hp b s' h => by
  rw [allocProvenance_bind] at h
  split at h
  · let s₁ : Kernel := { s with
      allocs := s.allocs+1
      heap := update s.heap s.next (some (.zero t))
      next := s.next+1 }
    have keep : s.KeepsKinds s₁ := fun q m h =>
      have hq : q≠s.next := fun e => by rw [e,hs.1 s.next le_rfl] at h; cases h
      ⟨m,(update_noteq hq _ _).trans h,rfl⟩
    have e₁ : s.Extends s₁ := by
      refine ⟨keep,fun q m h hq => ⟨m,?_,rfl⟩,Nat.le_succ _,⟨fun q hq => ?_,fun o q h => ?_⟩,[],
        (List.append_nil _).symm,nofun⟩
      · exact (update_noteq (Nat.ne_of_lt hq) _ _).symm.trans h
      · exact (update_noteq (by simp only at hq; omega) _ _).trans (hs.1 q (by simp only at hq; omega))
      · obtain ⟨m,hm,e⟩ := hs.2 o q h
        obtain ⟨m',hm',e'⟩ := keep q m hm
        exact ⟨m',hm',e'.trans e⟩
    exact e₁.trans (hf _ s₁ e₁.2.2.2.1 ((hp.keeps keep).cons fun q h => by
      cases h; exact ⟨_,update_same _ _ _,rfl⟩) b s' h)
  · have e₁ : s.Extends {s with allocs := s.allocs+1} := .of_eq hs rfl rfl rfl rfl
    exact e₁.trans (hf none _ e₁.2.2.2.1 ((hp.keeps e₁.1).cons nofun) b s' h)

/-- A pointer the hook holds, passed on. -/
theorem pureBind {p : Option Nat} (k : MsgType) {f : Option Nat → ProvM β} (hp : (p,k) ∈ ps)
    (hf : Schema ((p,k)::ps) (f p)) : Schema ps (pure p >>= f) :=
  fun s hs hps => hf s hs (hps.cons (hps _ hp))

variable {p : Option Nat}

theorem livePtr : Schema ps (CamFlow.Provenance.livePtr p) := .inert fun s _ _ h => by
  unfold CamFlow.Provenance.livePtr at h
  split at h
  · cases h
  · split at h <;> cases h; exact ⟨rfl,rfl,rfl,rfl⟩

theorem node : Schema ps (CamFlow.Provenance.node p) := .inert fun s _ _ h => by
  unfold CamFlow.Provenance.node at h
  split at h
  · cases h
  · split at h <;> cases h; exact ⟨rfl,rfl,rfl,rfl⟩

/-- A write that keeps the kind of the record it rewrites. -/
theorem modifyNode {g : ProvMsg → ProvMsg} (hg : ∀ m, (g m).messageId=m.messageId) :
    Schema ps (CamFlow.Provenance.modifyNode p g) := fun s hs _ _ _ h => by
  unfold CamFlow.Provenance.modifyNode at h
  split at h
  · cases h
  · split at h
    · next hq => cases h; exact .of_write hs hq (hg _)
    · cases h

theorem setNodeId {nid : Option Nat} : Schema ps (CamFlow.Provenance.setNodeId p nid) := by
  unfold CamFlow.Provenance.setNodeId
  cases nid
  · exact .bind (.inert fun _ _ _ h => by cases h; exact ⟨rfl,rfl,rfl,rfl⟩) fun _ =>
      .modifyNode fun _ => rfl
  · exact .bind (.ret _) fun _ => .modifyNode fun _ => rfl

theorem provUpdateVersion : Schema ps (CamFlow.Provenance.provUpdateVersion p) :=
  .modifyNode fun _ => rfl

theorem provRecordIfc {c : IfcContext} : Schema ps (CamFlow.Provenance.provRecordIfc p c) :=
  .modifyNode fun _ => rfl

/-- `*prov=*old_prov` between two records of one kind. -/
theorem copyNode {q : Option Nat} (k : MsgType) (hp : (p,k) ∈ ps) (hq : (q,k) ∈ ps) :
    Schema ps (CamFlow.Provenance.node p >>= fun m => CamFlow.Provenance.modifyNode q fun _ => m) :=
  fun s hs hps a s' h => by
    rw [node_bind] at h
    rcases p with _ | p
    · cases h
    · dsimp only at h
      split at h
      · next m hm =>
        obtain ⟨m₁,hm₁,e⟩ := hps _ hp p rfl
        rw [hm] at hm₁; cases hm₁
        unfold CamFlow.Provenance.modifyNode at h
        rcases q with _ | q
        · cases h
        · obtain ⟨mq,hmq,eq⟩ := hps _ hq q rfl
          dsimp only at h; rw [hmq] at h; cases h
          exact .of_write hs hmq (e.trans eq.symm)
      · cases h

/-- An edge from a record of kind `k` to one of kind `k'`, which the edge type joins. -/
theorem recordEdge {t : EdgeType} {q : Option Nat} {al : Bool} (k k' : MsgType) (hp : (p,k) ∈ ps)
    (hq : (q,k') ∈ ps) (hj : t.joins k k'=true) :
    Schema ps (CamFlow.Provenance.recordEdge t p q al) := fun s hs hps a s' h => by
  obtain ⟨a',b',rfl,rfl,-,-,h⟩ := recordEdge_bind_ok
    (show (CamFlow.Provenance.recordEdge t p q al >>= pure) s=.ok (a,s') by rwa [bind_pure])
  cases h
  obtain ⟨ma,hma,ea⟩ := hps _ hp a' rfl
  obtain ⟨mb,hmb,eb⟩ := hps _ hq b' rfl
  exact .of_emit hs ⟨ma,mb,hma,hmb,by rw [ea,eb]; exact hj⟩

theorem longRecordEdge {l : Nat} {al : Bool} (k : MsgType) (hp : (p,k) ∈ ps) (hk : k.named=true) :
    Schema ps (CamFlow.Provenance.longRecordEdge .edNamed p l al) := fun s hs hps a s' h => by
  simp only [CamFlow.Provenance.longRecordEdge,livePtr_bind] at h
  rcases p with _ | q
  · cases h
  · dsimp only at h
    split at h
    · cases h
      obtain ⟨m,hm,e⟩ := hps _ hp q rfl
      exact .of_emit hs ⟨rfl,m,hm,e ▸ hk⟩
    · cases h

/-- Storing a pointer the hook holds in an object of the kind it names. -/
theorem setProv {o : Obj} (hp : (p,o.kind) ∈ ps) : Schema ps (CamFlow.Provenance.setProv o p) :=
  fun s hs hps _ _ h => by
    cases h
    refine ⟨fun _ m h => ⟨m,h,rfl⟩,fun _ m h _ => ⟨m,h,rfl⟩,le_rfl,⟨hs.1,fun o' q h => ?_⟩,[],
      (List.append_nil _).symm,nofun⟩
    by_cases e : o'=o
    · subst e; simp only [update_same] at h; exact hps _ hp q h
    · simp only [update_noteq e] at h; exact hs.2 o' q h

/-- The host's wrapper around an allocation hook. -/
theorem create {o : Obj} {add : Host → Host} {hook : ProvM Int} (hh : Schema ps hook) :
    Schema ps (CamFlow.Provenance.create o add hook) := by
  refine .bind .getHost fun _ =>
    .ite (.bind .fault fun _ => ?_) (.bind (.ret _) fun _ => ?_) <;>
  exact .bind .modifyHost fun _ => .bind hh fun _ =>
    .ite (.bind .modifyHost fun _ => .ret _) (.bind (.ret _) fun _ => .ret _)

end Schema

@[simp] theorem Obj.kind_cred (i : Nat) : (Obj.cred i).kind=.task := rfl
@[simp] theorem Obj.kind_inode (i : Nat) : (Obj.inode i).kind=.inode := rfl
@[simp] theorem Obj.kind_sk (i : Nat) : (Obj.sk i).kind=.sock := rfl
@[simp] theorem Obj.kind_msg (i : Nat) : (Obj.msg i).kind=.msg := rfl
@[simp] theorem Obj.kind_shm (i : Nat) : (Obj.shm i).kind=.shm := rfl
@[simp] theorem Obj.kind_sb (i : Nat) : (Obj.sb i).kind=.sb := rfl

section Hooks

variable {ps : List (Option Nat × MsgType)}

theorem schema_credInitProvenance (cred : Nat) : Schema ps (credInitProvenance cred) := by
  refine .bind .getObj fun _ => .alloc fun _ =>
    .ite (.bind .fault fun _ => ?_) (.bind (.ret _) fun _ => ?_) <;>
  exact .bind .setNodeId fun _ => .bind (.modifyNode fun _ => rfl) fun _ => .setProv (by simp)

theorem schema_credAllocBlank (cred : Nat) : Schema ps (provenanceCredAllocBlank cred) :=
  .alloc fun _ => .ite (.ret _) (.bind (.ret _) fun _ => .bind .setNodeId fun _ =>
    .bind .getObj fun _ => .bind (.modifyNode fun _ => rfl) fun _ =>
    .bind (.setProv (by simp)) fun _ => .ret _)

theorem schema_credPrepare (new old : Nat) : Schema ps (provenanceCredPrepare new old) := by
  refine .provOf fun _ => .alloc fun _ => .ite (.ret _) (.bind (.ret _) fun _ =>
    .bind .setNodeId fun _ => .bind .getObj fun _ =>
    .bind (.modifyNode fun _ => rfl) fun _ => .bind .ifcContext fun _ =>
    .ite (.bind (.modifyNode fun _ => rfl) fun _ => .bind .provRecordIfc fun _ => ?_)
      (.bind (.ret _) fun _ => ?_)) <;>
  exact .bind (.recordEdge .task .task (by simp) (by simp) rfl) fun _ =>
    .bind (.setProv (by simp)) fun _ => .ret _

theorem schema_credTransfer (new old : Nat) : Schema ps (provenanceCredTransfer new old) :=
  .provOf fun _ => .provOf fun _ => .copyNode .task (by simp) (by simp)

theorem schema_taskFixSetuid (new old : Nat) : Schema ps (provenanceTaskFixSetuid new old) :=
  .provOf fun _ => .provOf fun _ => .bind (.recordEdge .task .task (by simp) (by simp) rfl) fun _ =>
    .ret _

theorem schema_inodeAllocSecurity (cur inode : Nat) :
    Schema ps (provenanceInodeAllocSecurity cur inode) := by
  refine .provOf fun _ => .alloc fun _ => .ite (.ret _) (.bind (.ret _) fun _ =>
    .bind .getObj fun _ => .bind .setNodeId fun _ =>
    .bind (.modifyNode fun _ => rfl) fun _ => .provOf fun _ => .bind .node fun _ =>
    .bind (.modifyNode fun _ => rfl) fun _ => .bind (.setProv (by simp)) fun _ =>
    .bind .ifcContext fun _ =>
    .ite (.bind (.modifyNode fun _ => rfl) fun _ => .bind .provRecordIfc fun _ => ?_)
      (.bind (.ret _) fun _ => ?_)) <;>
  exact .bind (.recordEdge .task .inode (by simp) (by simp) rfl) fun _ => .ret _

theorem schema_inodePermission (cur inode : Nat) (mask : UInt32) :
    Schema ps (provenanceInodePermission cur inode mask) := by
  refine .provOf fun _ => .bind .getObj fun _ => .ite (.ret _) (.bind (.ret _) fun _ =>
    .provOf fun _ => .ite (.bind (schema_inodeAllocSecurity _ _) fun _ => .provOf fun _ => ?_)
      (.pureBind .inode (by simp) ?_)) <;>
  refine .ite (.bind (.recordEdge .task .inode (by simp) (by simp) rfl) fun _ => ?_)
    (.bind (.ret _) fun _ => ?_) <;>
  refine .ite (.bind (.recordEdge .inode .task (by simp) (by simp) rfl) fun _ => ?_)
    (.bind (.ret _) fun _ => ?_) <;>
  exact .ite (.bind (.recordEdge .inode .task (by simp) (by simp) rfl) fun _ => .ret _)
    (.bind (.ret _) fun _ => .ret _)

theorem schema_recordFileName (file : Nat) : Schema ps (provenanceRecordFileName file) :=
  .bind .getObj fun _ => .provOf fun _ => .bind .node fun _ =>
    .ite (.bind .allocAttempt fun _ => .bind .allocLongProvenance fun l => .bind .dentryPathRaw fun
      | none => .fault
      | some _ => match l with
        | none => .fault
        | some _ => .bind .longProvWrite fun _ =>
          .bind (.longRecordEdge .inode (by simp) rfl) fun _ => .modifyNode fun _ => rfl)
    (.ret _)

theorem schema_filePermission (cur file : Nat) (mask : UInt32) :
    Schema ps (provenanceFilePermission cur file mask) :=
  .bind .getObj fun _ => .bind (schema_recordFileName _) fun _ =>
    .bind (schema_inodePermission _ _ _) fun _ => .ret _

theorem schema_fileOpen (cur file : Nat) : Schema ps (provenanceFileOpen cur file) := by
  refine .provOf fun _ => .bind .getObj fun _ => .provOf fun _ =>
    .ite (.bind (schema_inodeAllocSecurity _ _) fun _ => .bind (.ret _) fun _ => ?_)
      (.bind (.ret _) fun _ => ?_) <;>
  exact .bind (schema_recordFileName _) fun _ => .provOf fun _ =>
    .bind (.recordEdge .inode .task (by simp) (by simp) rfl) fun _ => .ret _

theorem schema_mmapFile (cur : Nat) (file : Option Nat) (prot : UInt64) :
    Schema ps (provenanceMmapFile cur file prot) := by
  refine .provOf fun _ => ?_
  rcases file with _ | file
  · exact .ret _
  · refine .bind (schema_recordFileName _) fun _ => .bind .getObj fun _ => .provOf fun _ =>
      .ite (.bind (.recordEdge .task .inode (by simp) (by simp) rfl) fun _ => ?_)
        (.bind (.ret _) fun _ => ?_) <;>
    exact .ite (.bind (.recordEdge .inode .task (by simp) (by simp) rfl) fun _ => .ret _)
      (.bind (.ret _) fun _ => .ret _)

theorem schema_fileIoctl (cur file : Nat) : Schema ps (provenanceFileIoctl cur file) := by
  refine .provOf fun _ => .bind .getObj fun _ => .provOf fun _ =>
    .ite (.bind (schema_inodeAllocSecurity _ _) fun _ => .bind (.ret _) fun _ => ?_)
      (.bind (.ret _) fun _ => ?_) <;>
  exact .bind (schema_recordFileName _) fun _ => .provOf fun _ =>
    .bind (.recordEdge .task .inode (by simp) (by simp) rfl) fun _ => .bind .provUpdateVersion fun _ =>
    .bind (.recordEdge .inode .task (by simp) (by simp) rfl) fun _ => .bind .provUpdateVersion fun _ =>
    .ret _

theorem schema_msgMsgAllocSecurity (cur msg : Nat) :
    Schema ps (provenanceMsgMsgAllocSecurity cur msg) := by
  refine .provOf fun _ => .bind .getObj fun _ => .alloc fun _ => .ite (.ret _) (.bind (.ret _) fun _ =>
    .bind .setNodeId fun _ => .bind (.modifyNode fun _ => rfl) fun _ =>
    .ite (.bind .ifcContext fun _ => .ite
      (.bind (.modifyNode fun _ => rfl) fun _ => .bind .provRecordIfc fun _ => ?_)
      (.bind (.ret _) fun _ => ?_)) (.bind (.ret _) fun _ => ?_)) <;>
  exact .bind (.setProv (by simp)) fun _ =>
    .bind (.recordEdge .task .msg (by simp) (by simp) rfl) fun _ => .ret _

theorem schema_msgQueueMsgsnd (cur msg : Nat) : Schema ps (provenanceMsgQueueMsgsnd cur msg) :=
  .provOf fun _ => .provOf fun _ => .bind (.recordEdge .task .msg (by simp) (by simp) rfl) fun _ =>
    .ret _

theorem schema_msgQueueMsgrcv (msg target : Nat) :
    Schema ps (provenanceMsgQueueMsgrcv msg target) :=
  .provOf fun _ => .provOf fun _ => .bind (.recordEdge .msg .task (by simp) (by simp) rfl) fun _ =>
    .ret _

theorem schema_shmAllocSecurity (cur shm : Nat) :
    Schema ps (provenanceShmAllocSecurity cur shm) := by
  refine .provOf fun _ => .bind .getObj fun _ => .alloc fun _ => .ite (.ret _) (.bind (.ret _) fun _ =>
    .bind .setNodeId fun _ => .bind (.modifyNode fun _ => rfl) fun _ =>
    .ite (.bind .ifcContext fun _ => .ite
      (.bind (.modifyNode fun _ => rfl) fun _ => .bind .provRecordIfc fun _ => ?_)
      (.bind (.ret _) fun _ => ?_)) (.bind (.ret _) fun _ => ?_)) <;>
  exact .bind (.setProv (by simp)) fun _ =>
    .bind (.recordEdge .shm .task (by simp) (by simp) rfl) fun _ =>
    .bind (.recordEdge .task .shm (by simp) (by simp) rfl) fun _ => .ret _

theorem schema_shmShmat (cur shm : Nat) (shmflg : UInt32) :
    Schema ps (provenanceShmShmat cur shm shmflg) :=
  .provOf fun _ => .provOf fun _ => .ite (.ret _) (.bind (.ret _) fun _ =>
    .ite (.bind (.recordEdge .shm .task (by simp) (by simp) rfl) fun _ => .ret _)
      (.bind (.recordEdge .shm .task (by simp) (by simp) rfl) fun _ =>
        .bind (.recordEdge .task .shm (by simp) (by simp) rfl) fun _ => .ret _))

theorem schema_skAllocSecurity (sk : Nat) : Schema ps (provenanceSkAllocSecurity sk) :=
  .alloc fun _ => .ite (.ret _) (.bind (.ret _) fun _ => .bind .setNodeId fun _ =>
    .bind (.setProv (by simp)) fun _ => .ret _)

theorem schema_socketPostCreate (cur sock : Nat) (family type protocol kern : Int) :
    Schema ps (provenanceSocketPostCreate cur sock family type protocol kern) := by
  refine .provOf fun _ => .bind .getObj fun _ => .provOf fun _ => .ite (.ret _) (.bind (.ret _) fun _ =>
    .provOf fun _ => .ite (.bind (schema_skAllocSecurity _) fun _ => .bind (.ret _) fun _ => ?_)
      (.bind (.ret _) fun _ => ?_)) <;>
  exact .provOf fun _ => .bind (.modifyNode fun _ => rfl) fun _ =>
    .bind (.recordEdge .task .sock (by simp) (by simp) rfl) fun _ =>
    .bind (.recordEdge .sock .inode (by simp) (by simp) rfl) fun _ => .ret _

theorem schema_recordAddress (sock : Nat) (address : List UInt8) (addrlen : Int) :
    Schema ps (provenanceRecordAddress sock address addrlen) :=
  .bind .getObj fun _ => .provOf fun _ => .bind .node fun _ =>
    .ite (.bind .allocLongProvenance fun
      | none => .fault
      | some _ => .bind .longProvWrite fun _ =>
        .bind (.longRecordEdge .sock (by simp) rfl) fun _ => .modifyNode fun _ => rfl)
    (.ret _)

/-- `provenance_socket_bind` and `provenance_socket_connect` join the task to the sock. -/
theorem schema_socketAddress {t : EdgeType} (ht : t.joins .task .sock=true) (cur sock : Nat)
    (address : List UInt8) (addrlen : Int) :
    Schema ps (provenanceSocketAddress t cur sock address addrlen) :=
  .provOf fun _ => .bind .getObj fun _ => .provOf fun _ => .bind .node fun _ =>
    .ite (.ret _) (.bind (.ret _) fun _ => .ite (.ret _) (.bind (.ret _) fun _ =>
      .bind (schema_recordAddress _ _ _) fun _ =>
      .bind (.recordEdge .task .sock (by simp) (by simp) ht) fun _ => .ret _))

theorem schema_socketListen (cur sock : Nat) : Schema ps (provenanceSocketListen cur sock) :=
  .provOf fun _ => .bind .getObj fun _ => .provOf fun _ =>
    .bind (.recordEdge .task .sock (by simp) (by simp) rfl) fun _ => .ret _

theorem schema_socketAccept (cur sock newsock : Nat) :
    Schema ps (provenanceSocketAccept cur sock newsock) :=
  .provOf fun _ => .bind .getObj fun _ => .provOf fun _ => .bind .getObj fun _ => .provOf fun _ =>
    .bind (.recordEdge .inode .inode (by simp) (by simp) rfl) fun _ =>
    .bind (.recordEdge .inode .task (by simp) (by simp) rfl) fun _ => .ret _

theorem schema_unixStreamConnect (cur sk other newsk : Nat) :
    Schema ps (provenanceUnixStreamConnect cur sk other newsk) :=
  .provOf fun _ => .provOf fun _ => .provOf fun _ => .provOf fun _ =>
    .bind (.recordEdge .task .sock (by simp) (by simp) rfl) fun _ =>
    .bind (.recordEdge .sock .sock (by simp) (by simp) rfl) fun _ =>
    .bind (.recordEdge .sock .sock (by simp) (by simp) rfl) fun _ => .ret _

theorem schema_unixMaySend (sock other : Nat) : Schema ps (provenanceUnixMaySend sock other) :=
  .bind .getObj fun _ => .provOf fun _ => .bind .getObj fun _ => .provOf fun _ =>
    .bind (.recordEdge .sock .sock (by simp) (by simp) rfl) fun _ => .ret _

theorem schema_bprmCommittingCreds (cur cred file : Nat) :
    Schema ps (provenanceBprmCommittingCreds cur cred file) :=
  .provOf fun _ => .provOf fun _ => .bind .getObj fun _ => .provOf fun _ =>
    .bind (.recordEdge .task .task (by simp) (by simp) rfl) fun _ =>
    .recordEdge .inode .task (by simp) (by simp) rfl

theorem schema_sbAllocSecurity (sb : Nat) : Schema ps (provenanceSbAllocSecurity sb) :=
  .alloc fun _ => .ite (.ret _) (.bind (.ret _) fun _ => .bind (.setProv (by simp)) fun _ => .ret _)

theorem schema_sbKernMount (sb : Nat) (random : Uuid) :
    Schema ps (provenanceSbKernMount sb random) :=
  .provOf fun _ => .bind .getObj fun _ => .bind (.modifyNode fun _ => rfl) fun _ =>
    .ite (.bind (.modifyNode fun _ => rfl) fun _ => .ret _) (.bind (.ret _) fun _ => .ret _)

end Hooks

/-- Every step of the host but a free hook. -/
theorem schema_hostStep {e : Event} (he : e.release?=none) : Schema [] (hostStep e) := by
  cases e with
  | credAllocBlank => exact .create (schema_credAllocBlank _)
  | credPrepare => exact .create (schema_credPrepare _ _)
  | inodeAllocSecurity => exact .create (schema_inodeAllocSecurity _ _)
  | msgMsgAllocSecurity => exact .create (schema_msgMsgAllocSecurity _ _)
  | shmAllocSecurity => exact .create (schema_shmAllocSecurity _ _)
  | skAllocSecurity => exact .create (schema_skAllocSecurity _)
  | sbAllocSecurity => exact .create (schema_sbAllocSecurity _)
  | credTransfer => exact .bind (schema_credTransfer _ _) fun _ => .ret _
  | bprmCommittingCreds => exact .bind (schema_bprmCommittingCreds _ _ _) fun _ => .ret _
  | fileCreate | socketCreate => exact .bind .modifyHost fun _ => .ret _
  | createUnhooked => exact .create (.ret _)
  | taskFixSetuid => exact schema_taskFixSetuid _ _
  | inodePermission => exact schema_inodePermission _ _ _
  | filePermission => exact schema_filePermission _ _ _
  | mmapFile => exact schema_mmapFile _ _ _
  | fileIoctl => exact schema_fileIoctl _ _
  | inodeLink => exact .ret _
  | msgQueueMsgsnd => exact schema_msgQueueMsgsnd _ _
  | msgQueueMsgrcv => exact schema_msgQueueMsgrcv _ _
  | shmShmat => exact schema_shmShmat _ _ _
  | socketPostCreate => exact schema_socketPostCreate _ _ _ _ _ _
  | socketBind | socketConnect => exact schema_socketAddress (by rfl) _ _ _ _
  | socketListen => exact schema_socketListen _ _
  | socketSendmsg | socketRecvmsg => exact .bind .getObj fun _ => schema_inodePermission _ _ _
  | socketAccept => exact schema_socketAccept _ _ _
  | unixStreamConnect => exact schema_unixStreamConnect _ _ _ _
  | unixMaySend => exact schema_unixMaySend _ _
  | bprmSetCreds => exact .provOf fun _ => .ite (schema_credAllocBlank _) (.ret _)
  | sbKernMount => exact schema_sbKernMount _ _
  | fileOpen => exact schema_fileOpen _ _
  | credFree | inodeFreeSecurity | msgMsgFreeSecurity | shmFreeSecurity | skFreeSecurity
  | sbFreeSecurity => cases he

/-- The records an entry of the log joins lie below the frontier `n`. -/
def SinkRec.Below (n : Nat) : SinkRec → Prop
  | .edge _ a b _ => a < n ∧ b < n
  | .longEdge _ a _ _ => a < n
  | .longWrite _ _ => True

/-- Under the kinds `κ` of the record slots, the entry joins records as the schema allows. -/
def SinkRec.Typed (κ : Nat → MsgType) : SinkRec → Prop
  | .edge t a b _ => t.joins (κ a) (κ b)=true
  | .longEdge t a _ _ => t=.edNamed ∧ (κ a).named=true
  | .longWrite _ _ => True

/-- `κ` gives each record slot a kind, that of its record while the record is allocated, and
every entry of the log joins records below the frontier of the kinds its edge type allows. -/
structure Kernel.TypedBy (k : Kernel) (κ : Nat → MsgType) : Prop where
  agrees : ∀ q m, k.heap q=some m → m.messageId=κ q
  below : ∀ r ∈ k.log, r.Below k.next
  typed : ∀ r ∈ k.log, r.Typed κ

variable {s s' : Kernel} {r : SinkRec} {κ : Nat → MsgType}

theorem Kernel.Kinded.lt_next (hs : s.Kinded) {q : Nat} {m : ProvMsg} (h : s.heap q=some m) :
    q < s.next :=
  Nat.lt_of_not_le fun hq => by rw [hs.1 q hq] at h; cases h

theorem Owned.kinded (ho : Owned s.frame) : s.Kinded :=
  ⟨ho.sane.fresh,fun o q h =>
    let ⟨m,hm⟩ := Option.isSome_iff_exists.1 (ho.sane.attached o q h); ⟨m,hm,ho.kind o q m h hm⟩⟩

theorem SinkRec.Below.mono {n n' : Nat} (hr : r.Below n) (hn : n ≤ n') : r.Below n' := by
  cases r with
  | edge => exact ⟨Nat.lt_of_lt_of_le hr.1 hn,Nat.lt_of_lt_of_le hr.2 hn⟩
  | longEdge => exact Nat.lt_of_lt_of_le hr hn
  | longWrite => trivial

theorem SinkRec.Fits.below (hs : s.Kinded) (hr : r.Fits s) : r.Below s.next := by
  cases r with
  | edge => obtain ⟨_,_,ha,hb,-⟩ := hr; exact ⟨hs.lt_next ha,hs.lt_next hb⟩
  | longEdge => obtain ⟨-,_,ha,-⟩ := hr; exact hs.lt_next ha
  | longWrite => trivial

theorem SinkRec.Fits.typed (hr : r.Fits s) (hκ : ∀ q m, s.heap q=some m → m.messageId=κ q) :
    r.Typed κ := by
  cases r with
  | edge t a b =>
    obtain ⟨ma,mb,ha,hb,hj⟩ := hr
    show t.joins (κ a) (κ b)=true
    rwa [← hκ a ma ha,← hκ b mb hb]
  | longEdge t a =>
    obtain ⟨ht,m,ha,hn⟩ := hr
    exact ⟨ht,hκ a m ha ▸ hn⟩
  | longWrite => trivial

/-- Kinds that agree below the frontier type the same entries. -/
theorem SinkRec.Typed.congr {κ' : Nat → MsgType} {n : Nat} (hr : r.Typed κ) (hb : r.Below n)
    (he : ∀ q < n, κ' q=κ q) : r.Typed κ' := by
  cases r with
  | edge t a b =>
    show t.joins (κ' a) (κ' b)=true
    rw [he a hb.1,he b hb.2]; exact hr
  | longEdge t a =>
    refine ⟨hr.1,?_⟩
    show (κ' a).named=true
    rw [he a hb]; exact hr.2
  | longWrite => trivial

/-- A step that extends the kernel extends the typing: slots below the old frontier keep their
kinds, and a slot allocated since takes its record's. -/
theorem Kernel.TypedBy.extend (hκ : s.TypedBy κ) (he : s.Extends s') : ∃ κ', s'.TypedBy κ' := by
  obtain ⟨-,back,hn,hk,new,hl,hf⟩ := he
  let κ' q := if q < s.next then κ q else ((s'.heap q).map ProvMsg.messageId).getD (κ q)
  have old : ∀ q < s.next, κ' q=κ q := fun q hq => if_pos hq
  have agrees : ∀ q m, s'.heap q=some m → m.messageId=κ' q := fun q m h => by
    by_cases hq : q < s.next
    · obtain ⟨m₀,h₀,e⟩ := back q m h hq
      rw [old q hq,← e]; exact hκ.agrees q m₀ h₀
    · simp only [κ',if_neg hq,h,Option.map_some',Option.getD_some]
  refine ⟨κ',agrees,fun r hr => ?_,fun r hr => ?_⟩ <;> rw [hl] at hr <;>
    rcases List.mem_append.1 hr with hr | hr
  · exact (hκ.below r hr).mono hn
  · exact (hf r hr).below hk
  · exact (hκ.typed r hr).congr (hκ.below r hr) old
  · exact (hf r hr).typed agrees

/-- A free hook only forgets a record and clears a pointer: the log and the frontier stay. -/
theorem Kernel.TypedBy.release {o : Obj} {free : Bool} (hκ : s.TypedBy κ)
    (he : s'.frame=s.frame.release o free) : s'.TypedBy κ := by
  have hl : s'.log=s.log := congrArg Frame.log he
  have hn : s'.next=s.next := congrArg Frame.next he
  refine ⟨fun q m h => hκ.agrees q m ?_,hl ▸ hn ▸ hκ.below,hl ▸ hκ.typed⟩
  rw [show s'.heap q=_ from (congrFun (congrArg Frame.heap he) q).trans (Frame.release_heap _ _ _ q)]
    at h
  split at h
  · cases h
  · exact h

theorem Kernel.TypedBy.hostStep {e : Event} {r : Int} (hκ : s.TypedBy κ) (ho : Owned s.frame)
    (h : hostStep e s=.ok (r,s')) : ∃ κ', s'.TypedBy κ' := by
  cases he : e.release? with
  | none => exact hκ.extend (schema_hostStep he s ho.kinded nofun r s' h)
  | some of => exact ⟨κ,hκ.release (hostStep_release he h)⟩

/-- The log of every reachable kernel is a typed graph: each slot of `provenance_cache` has one
kind, and every entry joins allocated slots of the kinds its type allows. -/
theorem recorded_graph_is_well_typed {k : Kernel} (hk : Reachable k) : ∃ κ, k.TypedBy κ := by
  induction hk with
  | @boot allocOk init _ h =>
    have h₀ : (Kernel.start allocOk init).TypedBy fun _ => .task :=
      ⟨fun _ _ h => (nomatch h),nofun,nofun⟩
    have hs : (Kernel.start allocOk init).Kinded := ⟨fun _ _ => rfl,fun _ _ h => (nomatch h)⟩
    unfold boot at h
    split at h
    · next hb =>
      cases h
      exact h₀.extend ((schema_credInitProvenance 0 : Schema [] _) _ hs nofun _ _ hb)
    · cases h
  | step hk h ih =>
    obtain ⟨κ,hκ⟩ := ih
    exact hκ.hostStep hk.owned h

/-- A message is created and freed: the log keeps the create edge into the message's record,
which is gone, and is still typed. -/
theorem freed_message_edge_typed :
    ∃ k, bootRun (fun _ => true) rootCred
        [.msgMsgAllocSecurity 0 0 ⟨1,some .empty⟩,.msgMsgFreeSecurity 0]=.ok k ∧
      k.log=[.edge .edCreate 0 1 true] ∧ k.heap 1=none ∧ ∃ κ, k.TypedBy κ := by
  obtain ⟨k,hk,hv⟩ := ok_of_map (show (bootRun (fun _ => true) rootCred
      [.msgMsgAllocSecurity 0 0 ⟨1,some .empty⟩,.msgMsgFreeSecurity 0]).map
      (fun k => (k.log,(k.heap 1).isNone))=.ok ([.edge .edCreate 0 1 true],true) by decide)
  simp only [Prod.mk.injEq,Option.isNone_iff_eq_none] at hv
  exact ⟨k,hk,hv.1,hv.2,recorded_graph_is_well_typed (.of_bootRun hk)⟩

/-- A hook call from a reachable kernel only appends to the log, and each entry joins records
of the kinds the schema allows. -/
theorem hook_appends_only_fitting_entries {k k' : Kernel} (hk : Reachable k) {e : Event} {r : Int}
    (h : hostStep e k=.ok (r,k')) : ∃ new, k'.log=k.log++new ∧ ∀ x ∈ new, x.Fits k' := by
  cases he : e.release? with
  | none => exact (schema_hostStep he k hk.owned.kinded nofun r k' h).2.2.2.2
  | some _ =>
    refine ⟨[],?_,nofun⟩
    rw [List.append_nil]; exact congrArg Frame.log (hostStep_release he h)

/-- The allocation of a message appends one create edge, from the task's record to the
message's. -/
theorem message_alloc_appends_create_edge :
    ∃ k k' r, bootRun (fun _ => true) rootCred []=.ok k ∧
      hostStep (.msgMsgAllocSecurity 0 0 ⟨1,some .empty⟩) k=.ok (r,k') ∧
      k'.log=k.log++[.edge .edCreate 0 1 true] ∧
      ∃ new, k'.log=k.log++new ∧ ∀ x ∈ new, x.Fits k' := by
  obtain ⟨k,hk,h₀⟩ := ok_of_map (show (bootRun (fun _ => true) rootCred []).map
      (·.log)=.ok [] by decide)
  obtain ⟨⟨r,k'⟩,h,hl⟩ := ok_of_bind_map hk (show ((bootRun (fun _ => true) rootCred []).bind
      fun k => (hostStep (.msgMsgAllocSecurity 0 0 ⟨1,some .empty⟩) k).map (·.2.log))=
      .ok [.edge .edCreate 0 1 true] by decide)
  exact ⟨k,k',r,hk,h,by rw [h₀]; exact hl,
    hook_appends_only_fitting_entries (.of_bootRun hk) h⟩

end CamFlow.Provenance
