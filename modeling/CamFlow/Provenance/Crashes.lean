import CamFlow.Provenance.Lookup
import CamFlow.Provenance.Dangling

namespace CamFlow.Provenance

open CamFlow.Ifc Function

/-- Every live object of `C` carries a pointer to a live record. -/
def Kernel.Carries (s : Kernel) (C : Obj → Prop) : Prop :=
  ∀ o, C o → s.host.Live o=true → ∃ p, s.sec o=some p ∧ (s.heap p).isSome=true

theorem Kernel.Carries.keeps {s s' : Kernel} {C : Obj → Prop} (h : s.Carries C)
    (hk : s.Keeps s') (hsec : s'.sec=s.sec) (hhost : s'.host=s.host) : s'.Carries C :=
  fun o hC hl =>
    let ⟨p,hp,hq⟩ := h o hC (by rwa [hhost] at hl)
    ⟨p,by rw [hsec]; exact hp,hk.1 p hq⟩

/-- Run on host `h` while the objects of `C` carry records, `m` faults only as `badCall` or `ok`
allow, and returns having released no record, kept the host, and `C` still carrying records. -/
def Safe {α : Type} (ok : Fault → Prop) (h : Host) (C : Obj → Prop) (ps : List (Option Nat))
    (m : ProvM α) : Prop :=
  ∀ s, s.host=h → s.Carries C → s.Holds ps →
    (∀ f, m s=.error f → f=.badCall ∨ ok f) ∧
      ∀ a s', m s=.ok (a,s') → s.Keeps s' ∧ s'.host=h ∧ s'.Carries C

theorem bind_error {α β : Type} {m : ProvM α} {f : α → ProvM β} {s : Kernel} {e : Fault}
    (h : (m >>= f) s=.error e) : m s=.error e ∨ ∃ a s₁, m s=.ok (a,s₁) ∧ f a s₁=.error e := by
  rw [bind_apply] at h
  rcases hm : m s with e' | ⟨a,s₁⟩ <;> rw [hm] at h
  · cases h; exact .inl rfl
  · exact .inr ⟨a,s₁,rfl,h⟩

namespace Safe

variable {α β : Type} {ok : Fault → Prop} {h : Host} {C : Obj → Prop} {ps : List (Option Nat)}
  {f : α → ProvM β}

/-- The rest of a hook, run from the kernel a first computation stepped to. -/
theorem from_step {m : ProvM β} {s s₁ : Kernel} {ps' : List (Option Nat)} (hm : Safe ok h C ps' m)
    (hh : s₁.host=h) (hc : s₁.Carries C) (hs : s₁.Holds ps') (hk : s.Keeps s₁) :
    (∀ f, m s₁=.error f → f=.badCall ∨ ok f) ∧
      ∀ b s', m s₁=.ok (b,s') → s.Keeps s' ∧ s'.host=h ∧ s'.Carries C :=
  ⟨(hm s₁ hh hc hs).1,fun b s' e => let ⟨k,c⟩ := (hm s₁ hh hc hs).2 b s' e; ⟨hk.trans k,c⟩⟩

theorem faults {m : ProvM α} (hm : Safe ok h C ps m) {s : Kernel} (hh : s.host=h)
    (hc : s.Carries C) (hs : s.Holds ps) {f : Fault} (e : m s=.error f) : f=.badCall ∨ ok f :=
  (hm s hh hc hs).1 f e

theorem bind {m : ProvM α} (hm : Safe ok h C ps m) (hf : ∀ a, Safe ok h C ps (f a)) :
    Safe ok h C ps (m >>= f) := fun s hh hc hs => by
  rw [bind_apply]
  rcases e : m s with e' | ⟨a,s₁⟩
  · exact ⟨fun f hf => by cases hf; exact hm.faults hh hc hs e,nofun⟩
  · obtain ⟨hk,hh₁,hc₁⟩ := (hm s hh hc hs).2 a s₁ e
    exact (hf a).from_step hh₁ hc₁ (hs.keeps hk) hk

theorem ite {c : Prop} [Decidable c] {m₁ m₂ : ProvM α} (h₁ : Safe ok h C ps m₁)
    (h₂ : Safe ok h C ps m₂) : Safe ok h C ps (if c then m₁ else m₂) := by
  split <;> assumption

theorem ret (a : α) : Safe ok h C ps (pure a) :=
  fun _ hh hc hs => ⟨nofun,fun _ _ e => by cases e; exact ⟨.refl hs.1,hh,hc⟩⟩

theorem fault {e : Fault} (he : e=.badCall ∨ ok e) :
    Safe ok h C ps (CamFlow.Provenance.fault e : ProvM α) :=
  fun _ _ _ _ => ⟨fun _ e => by cases e; exact he,nofun⟩

/-- A computation that leaves the pointers, the records and the host as they are. -/
theorem inert {m : ProvM α} (hd : ∀ s f, m s=.error f → f=.badCall ∨ ok f)
    (he : ∀ s a s', m s=.ok (a,s') → s'.sec=s.sec ∧ s'.heap=s.heap ∧ s'.host=s.host) :
    Safe ok h C ps m := fun s hh hc hs =>
  ⟨hd s,fun a s' e =>
    let ⟨h₁,h₂,h₃⟩ := he s a s' e
    have hk : s.Keeps s' := .of_eq hs h₁ h₂
    ⟨hk,h₃.trans hh,hc.keeps hk h₁ h₃⟩⟩

/-- A host object the hook was handed, with what the host holds for it. -/
theorem getObj {γ : Type} {t : Host → Nat → Option γ} {i : Nat} {f : γ → ProvM β}
    (hf : ∀ v, t h i=some v → Safe ok h C ps (f v)) :
    Safe ok h C ps (CamFlow.Provenance.getObj t i >>= f) := fun s hh hc hs => by
  rw [getObj_bind]
  subst hh
  split
  · next v hv => exact hf v hv s rfl hc hs
  · exact ⟨fun _ e => by cases e; exact .inl rfl,nofun⟩

/-- `&ifc->context` on an absent context is a null dereference. -/
theorem ifcContext {c : Option IfcContext} (hn : c=none → ok .nullDeref) :
    Safe ok h C ps (CamFlow.Provenance.ifcContext c) :=
  .inert (fun _ _ e => by cases c <;> cases e; exact .inr (hn rfl))
    fun _ _ _ e => by cases c <;> cases e; exact ⟨rfl,rfl,rfl⟩

theorem emit {r : SinkRec} : Safe ok h C ps (CamFlow.Provenance.emit r) :=
  .inert (fun _ _ e => nomatch e) fun _ _ _ e => by cases e; exact ⟨rfl,rfl,rfl⟩

theorem allocAttempt : Safe ok h C ps CamFlow.Provenance.allocAttempt :=
  .inert (fun _ _ e => nomatch e) fun _ _ _ e => by cases e; exact ⟨rfl,rfl,rfl⟩

theorem allocLongProvenance : Safe ok h C ps CamFlow.Provenance.allocLongProvenance :=
  .bind .allocAttempt fun b => by
    cases b
    · exact .ret _
    · exact .inert (fun _ _ e => nomatch e) fun _ _ _ e => by cases e; exact ⟨rfl,rfl,rfl⟩

/-- `dentry_path_raw` writes into the buffer whether or not it was allocated. -/
theorem dentryPathRaw {path : List UInt8} {buffer : Bool} (hn : ok .nullDeref) :
    Safe ok h C ps (CamFlow.Provenance.dentryPathRaw path buffer) := by
  unfold CamFlow.Provenance.dentryPathRaw
  exact .ite (.fault (.inr hn)) (.ite (.ret _) (.ret _))

/-- A live object of `C` carries a record, so its pointer is non-null: the hook may hold it. -/
theorem provOf {o : Obj} {f : Option Nat → ProvM β} (hC : C o)
    (hf : ∀ p, p.isSome=true → Safe ok h C (p::ps) (f p)) :
    Safe ok h C ps (CamFlow.Provenance.provOf o >>= f) := fun s hh hc hs => by
  rw [provOf_bind]
  split
  · next hl =>
    obtain ⟨q,hq,-⟩ := hc o hC hl
    exact (hf _ (by rw [hq]; rfl)).from_step hh hc (hs.cons (hs.1 o)) (.refl hs.1)
  · exact ⟨fun _ e => by cases e; exact .inl rfl,nofun⟩

/-- A fresh record is live; a failed allocation gives a null pointer. -/
theorem alloc {t : MsgType} {f : Option Nat → ProvM β} (hf : ∀ p, Safe ok h C (p::ps) (f p)) :
    Safe ok h C ps (allocProvenance t >>= f) := fun s hh hc hs => by
  rw [allocProvenance_bind]
  split
  · have hk : s.Keeps { s with
        allocs := s.allocs+1
        heap := update s.heap s.next (some (.zero t))
        next := s.next+1 } := .of_write hs rfl rfl
    exact (hf _).from_step hh (hc.keeps hk rfl rfl)
      ((hs.keeps hk).cons fun q e => by cases e; simp) hk
  · have hk : s.Keeps {s with allocs := s.allocs+1} := .of_eq hs rfl rfl
    exact (hf _).from_step hh (hc.keeps hk rfl rfl) ((hs.keeps hk).cons nofun) hk

/-- A pointer the hook holds, passed on. -/
theorem pureBind {p : Option Nat} {f : Option Nat → ProvM β} (hp : p ∈ ps)
    (hf : Safe ok h C (p::ps) (f p)) : Safe ok h C ps (pure p >>= f) :=
  fun s hh hc hs => hf s hh hc (hs.cons (hs.2 p hp))

variable {p : Option Nat}

theorem livePtr (hp : p ∈ ps) (hsome : p.isSome=true) :
    Safe ok h C ps (CamFlow.Provenance.livePtr p) := fun s hh hc hs => by
  unfold CamFlow.Provenance.livePtr
  rcases p with _ | q
  · cases hsome
  · dsimp only
    rw [if_pos (hs.2 (some q) hp q rfl)]
    exact ⟨nofun,fun _ _ e => by cases e; exact ⟨.refl hs.1,hh,hc⟩⟩

theorem node (hp : p ∈ ps) (hsome : p.isSome=true) : Safe ok h C ps (CamFlow.Provenance.node p) :=
  fun s hh hc hs => by
    unfold CamFlow.Provenance.node
    rcases p with _ | q
    · cases hsome
    · obtain ⟨m,hm⟩ := Option.isSome_iff_exists.1 (hs.2 (some q) hp q rfl)
      dsimp only
      rw [hm]
      exact ⟨nofun,fun _ _ e => by cases e; exact ⟨.refl hs.1,hh,hc⟩⟩

theorem modifyNode {g : ProvMsg → ProvMsg} (hp : p ∈ ps) (hsome : p.isSome=true) :
    Safe ok h C ps (CamFlow.Provenance.modifyNode p g) := fun s hh hc hs => by
  unfold CamFlow.Provenance.modifyNode
  rcases p with _ | q
  · cases hsome
  · obtain ⟨m,hm⟩ := Option.isSome_iff_exists.1 (hs.2 (some q) hp q rfl)
    dsimp only
    rw [hm]
    have hk : s.Keeps {s with heap := update s.heap q (some (g m))} := .of_write hs rfl rfl
    exact ⟨nofun,fun _ _ e => by cases e; exact ⟨hk,hh,hc.keeps hk rfl rfl⟩⟩

theorem setNodeId {nid : Option Nat} (hp : p ∈ ps) (hsome : p.isSome=true) :
    Safe ok h C ps (CamFlow.Provenance.setNodeId p nid) := by
  unfold CamFlow.Provenance.setNodeId
  cases nid
  · exact .bind (.inert (fun _ _ e => nomatch e) fun _ _ _ e => by cases e; exact ⟨rfl,rfl,rfl⟩)
      fun _ => .modifyNode hp hsome
  · exact .bind (.ret _) fun _ => .modifyNode hp hsome

theorem provUpdateVersion (hp : p ∈ ps) (hsome : p.isSome=true) :
    Safe ok h C ps (CamFlow.Provenance.provUpdateVersion p) := .modifyNode hp hsome

theorem provRecordIfc {c : IfcContext} (hp : p ∈ ps) (hsome : p.isSome=true) :
    Safe ok h C ps (CamFlow.Provenance.provRecordIfc p c) := .modifyNode hp hsome

theorem recordEdge {t : EdgeType} {q : Option Nat} {al : Bool} (hp : p ∈ ps) (hq : q ∈ ps)
    (hps : p.isSome=true) (hqs : q.isSome=true) :
    Safe ok h C ps (CamFlow.Provenance.recordEdge t p q al) :=
  .bind (.livePtr hp hps) fun _ => .bind (.livePtr hq hqs) fun _ => .emit

theorem longRecordEdge {t : EdgeType} {l : Nat} {al : Bool} (hp : p ∈ ps) (hsome : p.isSome=true) :
    Safe ok h C ps (CamFlow.Provenance.longRecordEdge t p l al) :=
  .bind (.livePtr hp hsome) fun _ => .emit

/-- Storing a non-null pointer the hook holds in an object: the object now carries it. -/
theorem setProv {o : Obj} (hp : p ∈ ps) (hsome : p.isSome=true) :
    Safe ok h C ps (CamFlow.Provenance.setProv o p) := fun s hh hc hs => by
  refine ⟨nofun,fun _ _ e => ?_⟩
  cases e
  refine ⟨(NoDangle.setProv hp s hs).2 () _ rfl,hh,fun o' hC hl => ?_⟩
  by_cases e : o'=o
  · subst e
    obtain ⟨q,rfl⟩ := Option.isSome_iff_exists.1 hsome
    exact ⟨q,update_same _ _ _,hs.2 _ hp q rfl⟩
  · obtain ⟨q,hq,hl'⟩ := hc o' hC hl
    exact ⟨q,(update_noteq e _ _).trans hq,hl'⟩

/-- The host's wrapper around an allocation hook: the hook runs with the new object live and not
carrying a record, and what follows it cannot fault. -/
theorem create {o : Obj} {add : Host → Host} {hook : ProvM Int} {s : Kernel}
    (hh : Safe ok (add s.host) C [] hook)
    (hadd : ∀ o', (add s.host).Live o'=true ↔ o'=o ∨ s.host.Live o'=true) (ho : ¬C o)
    (hc : s.Carries C) (hs : s.Holds []) {f : Fault}
    (e : CamFlow.Provenance.create o add hook s=.error f) : f=.badCall ∨ ok f := by
  simp only [CamFlow.Provenance.create,getHost_bind] at e
  split at e
  · cases e; exact .inl rfl
  · have hc₁ : ({s with host := add s.host} : Kernel).Carries C := fun o' hC hl =>
      ((hadd o').1 hl).elim (fun e => absurd (e ▸ hC) ho) (hc o' hC)
    obtain e | ⟨_,_,h₀,e⟩ := bind_error e; · cases e
    cases h₀
    obtain e | ⟨_,_,h₀,e⟩ := bind_error e; · cases e
    cases h₀
    obtain e | ⟨r,s₂,-,e⟩ := bind_error e
    · exact hh.faults rfl hc₁ hs e
    · split at e <;> nomatch e

end Safe

section Hooks

variable {ok : Fault → Prop} {h : Host} {C : Obj → Prop} {ps : List (Option Nat)}

end Hooks

/-- `m` run from the kernel `k` itself, while every live object of `C` carries a live record and
each pointer of `ps` is null or live, faults only with `badCall` or a fault `ok` allows. -/
def SafeFrom {α : Type} (ok : Fault → Prop) (k : Kernel) (C : Obj → Prop)
    (ps : List (Option Nat)) (m : ProvM α) : Prop :=
  k.Carries C → k.Holds ps → ∀ f, m k=.error f → f=.badCall ∨ ok f

namespace SafeFrom

variable {α β : Type} {ok : Fault → Prop} {k : Kernel} {C : Obj → Prop}
  {ps : List (Option Nat)} {f : α → ProvM β}

theorem ret (a : α) : SafeFrom ok k C ps (pure a) := fun _ _ _ e => nomatch e

theorem pureBind {a : α} (hf : SafeFrom ok k C ps (f a)) : SafeFrom ok k C ps (pure a >>= f) :=
  hf

theorem ite {c : Prop} [Decidable c] {m₁ m₂ : ProvM α} (h₁ : SafeFrom ok k C ps m₁)
    (h₂ : SafeFrom ok k C ps m₂) : SafeFrom ok k C ps (if c then m₁ else m₂) := by
  split <;> assumption

theorem getObj {γ : Type} {t : Host → Nat → Option γ} {i : Nat} {f : γ → ProvM β}
    (hf : ∀ v, t k.host i=some v → SafeFrom ok k C ps (f v)) :
    SafeFrom ok k C ps (CamFlow.Provenance.getObj t i >>= f) := fun hc hs e he => by
  rw [getObj_bind] at he
  split at he
  · next v hv => exact hf v hv hc hs e he
  · cases he; exact .inl rfl

theorem provOf {o : Obj} {f : Option Nat → ProvM β} (hC : C o)
    (hf : ∀ p, p.isSome=true → SafeFrom ok k C (p::ps) (f p)) :
    SafeFrom ok k C ps (CamFlow.Provenance.provOf o >>= f) := fun hc hs e he => by
  rw [provOf_bind] at he
  split at he
  · next hl =>
    obtain ⟨q,hq,-⟩ := hc o hC hl
    exact hf _ (by rw [hq]; rfl) hc (hs.cons (hs.1 o)) e he
  · cases he; exact .inl rfl

theorem node {p : Option Nat} {f : ProvMsg → ProvM β} (hp : p ∈ ps) (hsome : p.isSome=true)
    (hf : ∀ m, SafeFrom ok k C ps (f m)) : SafeFrom ok k C ps (CamFlow.Provenance.node p >>= f) :=
  fun hc hs e he => by
    rcases p with _ | q
    · cases hsome
    · obtain ⟨m,hm⟩ := Option.isSome_iff_exists.1 (hs.2 (some q) hp q rfl)
      rw [node_bind] at he
      simp only [hm] at he
      exact hf m hc hs e he

end SafeFrom

section NameHooks

variable {k : Kernel} {C : Obj → Prop} {ps : List (Option Nat)} {cur file : Nat}

end NameHooks

/-- A computation that, from any kernel, faults only on an object the host does not have. -/
def OnlyBadCall {α : Type} (m : ProvM α) : Prop := ∀ s f, m s=.error f → f=.badCall

namespace OnlyBadCall

variable {α β : Type} {f : α → ProvM β}

theorem bind {m : ProvM α} (hm : OnlyBadCall m) (hf : ∀ a, OnlyBadCall (f a)) :
    OnlyBadCall (m >>= f) := fun s e h =>
  (bind_error h).elim (hm s e) fun ⟨a,s₁,_,h⟩ => hf a s₁ e h

theorem ite {c : Prop} [Decidable c] {m₁ m₂ : ProvM α} (h₁ : OnlyBadCall m₁) (h₂ : OnlyBadCall m₂) :
    OnlyBadCall (if c then m₁ else m₂) := by
  split <;> assumption

theorem provOf {o : Obj} : OnlyBadCall (CamFlow.Provenance.provOf o) := fun s e h => by
  unfold CamFlow.Provenance.provOf at h; split at h <;> cases h; rfl

theorem freeProvenance {p : Option Nat} : OnlyBadCall (CamFlow.Provenance.freeProvenance p) :=
  fun _ _ h => by cases p <;> nomatch h

theorem setProv {o : Obj} {p : Option Nat} : OnlyBadCall (CamFlow.Provenance.setProv o p) :=
  fun _ _ h => nomatch h

/-- The host's wrapper around a free hook. -/
theorem destroy {o : Obj} {hook : ProvM Unit} (hh : OnlyBadCall hook) :
    OnlyBadCall (CamFlow.Provenance.destroy o hook) :=
  .bind hh fun _ => .bind (fun _ _ h => nomatch h) fun _ _ _ h => nomatch h

end OnlyBadCall

end CamFlow.Provenance
