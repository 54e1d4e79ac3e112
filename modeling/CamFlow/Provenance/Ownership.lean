import CamFlow.Provenance.HookSteps

namespace CamFlow.Provenance

open Function

/-- The records the objects point to are sane, of their object's kind, and owned by one
object each. -/
structure Owned (f : Frame) : Prop where
  sane : Sane f
  kind : ∀ o p m, f.sec o=some p → f.heap p=some m → m.messageId=o.kind
  inj : ∀ o o' p, f.sec o=some p → f.sec o'=some p → o=o'

theorem Sane.sec_lt {f : Frame} (hs : Sane f) {o : Obj} {p : Nat} (h : f.sec o=some p) :
    p < f.next :=
  hs.lt_next (hs.attached o p h)

theorem Owned.start (allocOk : Nat → Bool) (init : Cred) : Owned (Kernel.start allocOk init).frame :=
  ⟨⟨fun _ _ => rfl,fun _ _ h => (nomatch h),fun _ _ h => (nomatch h)⟩,
    fun _ _ _ h => (nomatch h),fun _ _ _ h => (nomatch h)⟩

/-- Overwriting a live record with one of the same kind keeps ownership. -/
theorem Owned.write {f : Frame} (ho : Owned f) {q : Nat} {m m' : ProvMsg} (hq : f.heap q=some m)
    (hk : m'.messageId=m.messageId) : Owned {f with heap := update f.heap q (some m')} := by
  refine ⟨ho.sane.update q (by simp [hq]) m',fun o p n hp hn => ?_,ho.inj⟩
  dsimp only at hn
  by_cases e : p=q
  · subst e
    simp only [update_same,Option.some.injEq] at hn
    rw [← hn,hk]; exact ho.kind o p m hp hq
  · rw [update_noteq e] at hn; exact ho.kind o p n hp hn

theorem Owned.move {f f' : Frame} (ho : Owned f) (h : Move f f') : Owned f' := by
  have hs := ho.sane.move h
  cases h with
  | emit _ => exact ⟨hs,ho.kind,ho.inj⟩
  | touch g hq hg => exact ho.write hq hg.1
  | @name p m _ _ _ _ hp _ _ _ =>
    have : Owned {f with heap := update f.heap p (some {m with nameRecorded := true})} :=
      ho.write hp rfl
    exact ⟨hs,this.kind,this.inj⟩
  | @attach o m hn _ hk _ _ _ =>
    have hne {o' : Obj} {p : Nat} (h : f.sec o'=some p) : p≠f.next := (ho.sane.sec_lt h).ne
    refine ⟨hs,fun o' p n hp hn' => ?_,fun o₁ o₂ p h₁ h₂ => ?_⟩
    · dsimp only at hp hn'
      by_cases e : o'=o
      · subst e
        simp only [update_same,Option.some.injEq] at hp
        subst hp
        simp only [update_same,Option.some.injEq] at hn'
        subst hn'; exact hk
      · rw [update_noteq e] at hp
        rw [update_noteq (hne hp)] at hn'; exact ho.kind o' p n hp hn'
    · dsimp only at h₁ h₂
      by_cases e₁ : o₁=o <;> by_cases e₂ : o₂=o
      · rw [e₁,e₂]
      · subst e₁; rw [update_same] at h₁; rw [update_noteq e₂] at h₂
        cases h₁; exact absurd rfl (hne h₂)
      · subst e₂; rw [update_same] at h₂; rw [update_noteq e₁] at h₁
        cases h₂; exact absurd rfl (hne h₁)
      · rw [update_noteq e₁] at h₁; rw [update_noteq e₂] at h₂; exact ho.inj o₁ o₂ p h₁ h₂
  | create _ _ _ _ => exact ⟨hs,ho.kind,ho.inj⟩
  | drop _ => exact ⟨hs,ho.kind,ho.inj⟩
  | other _ _ _ => exact ⟨hs,ho.kind,ho.inj⟩

@[simp] theorem Frame.release_sec (f : Frame) (o : Obj) (free : Bool) :
    (f.release o free).sec=update f.sec o none := rfl
@[simp] theorem Frame.release_host (f : Frame) (o : Obj) (free : Bool) :
    (f.release o free).host=f.host.erase o := rfl
@[simp] theorem Frame.release_next (f : Frame) (o : Obj) (free : Bool) :
    (f.release o free).next=f.next := rfl
@[simp] theorem Frame.release_nextNodeId (f : Frame) (o : Obj) (free : Bool) :
    (f.release o free).nextNodeId=f.nextNodeId := rfl
@[simp] theorem Frame.release_log (f : Frame) (o : Obj) (free : Bool) :
    (f.release o free).log=f.log := rfl

/-- A release only forgets records: the one `o` pointed to, when `free` holds. -/
theorem Frame.release_heap (f : Frame) (o : Obj) (free : Bool) (p : Nat) :
    (f.release o free).heap p=if free ∧ f.sec o=some p then none else f.heap p := by
  unfold Frame.release
  rcases f.sec o with _ | q <;> dsimp only
  · simp
  · by_cases e : p=q
    · subst e; cases free <;> simp
    · have e' : q≠p := fun h => e h.symm
      cases free <;> simp [e,e',update_noteq]

theorem Frame.release_heap_sub {f : Frame} {o : Obj} {free : Bool} {p : Nat} {m : ProvMsg}
    (h : (f.release o free).heap p=some m) : f.heap p=some m := by
  rw [Frame.release_heap] at h; split at h
  · cases h
  · exact h

theorem Owned.release {f : Frame} (ho : Owned f) (o : Obj) (free : Bool) :
    Owned (f.release o free) := by
  have sec {o' : Obj} {p : Nat} (h : (f.release o free).sec o'=some p) : o'≠o ∧ f.sec o'=some p := by
    by_cases e : o'=o
    · subst e; simp at h
    · simp only [Frame.release_sec,update_noteq e] at h; exact ⟨e,h⟩
  refine ⟨⟨fun p hp => ?_,fun o' p h => ?_,fun o' p h => ?_⟩,
    fun o' p m h hm => ho.kind o' p m (sec h).2 (Frame.release_heap_sub hm),
    fun o₁ o₂ p h₁ h₂ => ho.inj o₁ o₂ p (sec h₁).2 (sec h₂).2⟩
  · rw [Frame.release_heap,ho.sane.fresh p hp]; simp
  · obtain ⟨e,h⟩ := sec h
    rw [Frame.release_heap,if_neg (fun c => e (ho.inj o' o p h c.2))]
    exact ho.sane.attached o' p h
  · obtain ⟨e,h⟩ := sec h
    simp only [Frame.release_host,Host.live_erase_ne _ e]; exact ho.sane.live o' p h

/-- What one step of the host does to the frame: it makes moves, releases the record of the object
it destroys, copies one credential's record over another's, or rewrites a superblock's uuid. -/
theorem hostStep_cases {e : Event} {s s' : Kernel} {r : Int} (hs : Sane s.frame)
    (h : hostStep e s=.ok (r,s')) :
    Moves s.frame s'.frame ∨
    (∃ o free, e.release?=some (o,free) ∧ s'.frame=s.frame.release o free) ∨
    (∃ new old p m q, e=.credTransfer new old ∧ s.sec (.cred old)=some p ∧ s.heap p=some m ∧
      s.sec (.cred new)=some q ∧ s'.frame={s.frame with heap := update s.heap q (some m)}) ∨
    (∃ sb random q m u, e=.sbKernMount sb random ∧ s.sec (.sb sb)=some q ∧ s.heap q=some m ∧
      s'.frame={s.frame with heap := update s.heap q (some {m with uuid := u})}) := by
  cases e with
  | credFree _ => exact .inr (.inl ⟨_,_,rfl,hostStep_release (by rfl) h⟩)
  | inodeFreeSecurity _ => exact .inr (.inl ⟨_,_,rfl,hostStep_release (by rfl) h⟩)
  | msgMsgFreeSecurity _ => exact .inr (.inl ⟨_,_,rfl,hostStep_release (by rfl) h⟩)
  | shmFreeSecurity _ => exact .inr (.inl ⟨_,_,rfl,hostStep_release (by rfl) h⟩)
  | skFreeSecurity _ => exact .inr (.inl ⟨_,_,rfl,hostStep_release (by rfl) h⟩)
  | sbFreeSecurity _ => exact .inr (.inl ⟨_,_,rfl,hostStep_release (by rfl) h⟩)
  | credTransfer new old =>
    obtain ⟨p,m,q,hp,hm,hq,-,he⟩ := hostStep_credTransfer h
    exact .inr (.inr (.inl ⟨new,old,p,m,q,rfl,hp,hm,hq,he⟩))
  | sbKernMount sb random =>
    obtain ⟨q,m,u,hq,hm,he⟩ := hostStep_sbKernMount h
    exact .inr (.inr (.inr ⟨sb,random,q,m,u,rfl,hq,hm,he⟩))
  | _ => exact .inl (hostStep_moves (by rfl) hs h)

/-- What an invariant of frames must survive, from an owned frame. -/
structure Kept (I : Frame → Prop) : Prop where
  move : ∀ {f f'}, Owned f → I f → Move f f' → I f'
  release : ∀ {f} o free, Owned f → I f → I (f.release o free)
  transfer : ∀ {f : Frame} {new old p m q}, Owned f → I f → f.sec (.cred old)=some p →
    f.heap p=some m → f.sec (.cred new)=some q → I {f with heap := update f.heap q (some m)}
  mount : ∀ {f : Frame} {sb q m} u, Owned f → I f → f.sec (.sb sb)=some q → f.heap q=some m →
    I {f with heap := update f.heap q (some {m with uuid := u})}

section Kept

variable {I : Frame → Prop}

theorem Kept.moves (hI : Kept I) {f f' : Frame} (ho : Owned f) (hi : I f) (h : Moves f f') :
    Owned f' ∧ I f' := by
  induction h with
  | refl => exact ⟨ho,hi⟩
  | tail _ h ih => exact ⟨ih.1.move h,hI.move ih.1 ih.2 h⟩

theorem Kept.hostStep (hI : Kept I) {e : Event} {s s' : Kernel} {r : Int} (ho : Owned s.frame)
    (hi : I s.frame) (h : hostStep e s=.ok (r,s')) : I s'.frame := by
  rcases hostStep_cases ho.sane h with
    hm | ⟨o,free,-,he⟩ | ⟨_,_,_,_,_,-,hp,hm,hq,he⟩ | ⟨_,_,_,_,u,-,hq,hm,he⟩
  · exact (hI.moves ho hi hm).2
  · rw [he]; exact hI.release o free ho hi
  · rw [he]; exact hI.transfer ho hi hp hm hq
  · rw [he]; exact hI.mount u ho hi hq hm

/-- Ownership is itself such an invariant: a credential's record is overwritten by a record
of the same kind, and a mount changes no kind. -/
theorem Owned.kept : Kept Owned where
  move ho _ h := ho.move h
  release o free ho _ := ho.release o free
  transfer ho _ hp hm hq := by
    obtain ⟨n,hn⟩ := Option.isSome_iff_exists.1 (ho.sane.attached _ _ hq)
    exact ho.write hn ((ho.kind _ _ _ hp hm).trans (ho.kind _ _ _ hq hn).symm)
  mount _ ho _ _ hm := ho.write hm rfl

/-- An invariant that holds of every start frame and is kept holds in every reachable kernel. -/
theorem Kept.reachable (hI : Kept I) (h0 : ∀ allocOk init, I (Kernel.start allocOk init).frame)
    {k : Kernel} (hk : Reachable k) : Owned k.frame ∧ I k.frame := by
  induction hk with
  | boot h => exact hI.moves (.start _ _) (h0 _ _) (boot_moves h)
  | step _ h ih => exact ⟨Owned.kept.hostStep ih.1 ih.1 h,hI.hostStep ih.1 ih.2 h⟩

end Kept

theorem Reachable.owned {k : Kernel} (hk : Reachable k) : Owned k.frame :=
  (Owned.kept.reachable Owned.start hk).1

/-- A stored pointer belongs to a live object and names a live record of its kind below the
frontier, and no two objects share a record. -/
theorem records_owned_once {k : Kernel} (hk : Reachable k) :
    (∀ o p, k.sec o=some p → k.host.Live o=true ∧ ∃ m, k.heap p=some m ∧ m.messageId=o.kind) ∧
    (∀ o o' p, k.sec o=some p → k.sec o'=some p → o=o') ∧ (∀ p, k.next ≤ p → k.heap p=none) := by
  have ho := hk.owned
  refine ⟨fun o p h => ⟨ho.sane.live o p h,?_⟩,ho.inj,ho.sane.fresh⟩
  obtain ⟨m,hm⟩ := Option.isSome_iff_exists.1 (ho.sane.attached o p h)
  exact ⟨m,hm,ho.kind o p m h hm⟩

/-- After boot and the allocation of a message, credential `0` and message `0` own their
records. -/
theorem boot_and_message_owned :
    ∃ k, bootRun (fun _ => true) rootCred [.msgMsgAllocSecurity 0 0 ⟨1,some .empty⟩]=.ok k ∧
      k.sec (.cred 0)=some 0 ∧ k.sec (.msg 0)=some 1 ∧
      (∀ o p, k.sec o=some p → k.host.Live o=true ∧ ∃ m, k.heap p=some m ∧ m.messageId=o.kind) ∧
      (∀ o o' p, k.sec o=some p → k.sec o'=some p → o=o') ∧ (∀ p, k.next ≤ p → k.heap p=none) := by
  obtain ⟨k,hk,hv⟩ := ok_of_map (show (bootRun (fun _ => true) rootCred
      [.msgMsgAllocSecurity 0 0 ⟨1,some .empty⟩]).map (fun k => (k.sec (.cred 0),k.sec (.msg 0)))=
      .ok (some 0,some 1) by decide)
  simp only [Prod.mk.injEq] at hv
  exact ⟨k,hk,hv.1,hv.2,records_owned_once (.of_bootRun hk)⟩

end CamFlow.Provenance
