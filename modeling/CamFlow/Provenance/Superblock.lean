import CamFlow.Provenance.Lifecycle

namespace CamFlow.Provenance

open Function

theorem Host.erase_inodes_of_ne (h : Host) {o : Obj} {i : Nat} (hne : Obj.inode i≠o) :
    (h.erase o).inodes i=h.inodes i := by
  cases o <;> simp only [Host.erase]
  rw [update_noteq (fun e => hne (by rw [e]))]

theorem Event.eq_of_release?_sb {e : Event} {X : Nat} {free : Bool}
    (h : e.release?=some (.sb X,free)) : e=.sbFreeSecurity X := by
  cases e <;> cases h
  rfl

/-- Superblock `X` keeps its record at `q`, whose uuid is `u`, and every inode of `X` whose
record lies at or past `b` carries `u` as its `sb_uuid`. -/
structure SbAgree (X q : Nat) (u : Uuid) (b : Nat) (f : Frame) : Prop where
  sec : f.sec (.sb X)=some q
  uuid : ∃ mq, f.heap q=some mq ∧ mq.uuid=u
  inodes : ∀ i p m ino, f.sec (.inode i)=some p → b ≤ p → f.heap p=some m →
    f.host.inodes i=some ino → ino.sb=X → m.sbUuid=u

section SbAgree

variable {X q b : Nat} {u : Uuid}

/-- Overwriting a record with one of the same uuids keeps the agreement. -/
theorem SbAgree.write {f : Frame} (h : SbAgree X q u b f) {q' : Nat} {m m' : ProvMsg}
    (hq' : f.heap q'=some m) (hu : m'.uuid=m.uuid) (hs : m'.sbUuid=m.sbUuid) :
    SbAgree X q u b {f with heap := update f.heap q' (some m')} := by
  refine ⟨h.sec,?_,fun i p n ino hp hb hn hi hx => ?_⟩
  · obtain ⟨mq,hmq,hu'⟩ := h.uuid
    by_cases e : q=q'
    · subst e; rw [hq'] at hmq; cases hmq; exact ⟨m',update_same _ _ _,hu.trans hu'⟩
    · exact ⟨mq,by dsimp only; rw [update_noteq e]; exact hmq,hu'⟩
  · dsimp only at hn
    by_cases e : p=q'
    · subst e; simp only [update_same,Option.some.injEq] at hn; subst hn
      rw [hs]; exact h.inodes i p m ino hp hb hq' hi hx
    · rw [update_noteq e] at hn; exact h.inodes i p n ino hp hb hn hi hx

/-- Overwriting the record of an object other than `X` and its inodes keeps the agreement. -/
theorem SbAgree.write_other {f : Frame} (h : SbAgree X q u b f) (ho : Owned f) {o : Obj}
    {q' : Nat} (hq' : f.sec o=some q') (hX : o≠.sb X) (hi : ∀ i, o≠.inode i) (m' : ProvMsg) :
    SbAgree X q u b {f with heap := update f.heap q' (some m')} := by
  refine ⟨h.sec,?_,fun i p n ino hp hb hn hino hx => ?_⟩
  · obtain ⟨mq,hmq,hu'⟩ := h.uuid
    refine ⟨mq,?_,hu'⟩
    dsimp only; rw [update_noteq (fun e : q=q' => hX (ho.inj _ _ _ hq' (e ▸ h.sec)))]; exact hmq
  · dsimp only at hn
    rw [update_noteq (fun e : p=q' => hi i (ho.inj _ _ _ hq' (e ▸ hp)))] at hn
    exact h.inodes i p n ino hp hb hn hino hx

theorem SbAgree.move {f f' : Frame} (h : SbAgree X q u b f) (ho : Owned f) (hm : Move f f') :
    SbAgree X q u b f' := by
  cases hm with
  | emit _ => exact ⟨h.sec,h.uuid,h.inodes⟩
  | touch g hq hg => exact h.write hq hg.2.2.2.2 hg.2.2.2.1
  | @name p m _ _ _ _ hp _ _ _ =>
    have : SbAgree X q u b {f with heap := update f.heap p (some {m with nameRecorded := true})} :=
      h.write hp rfl rfl
    exact ⟨this.sec,this.uuid,this.inodes⟩
  | @attach o m hn _ _ _ _ hsb =>
    have hne {o' : Obj} {p : Nat} (h' : f.sec o'=some p) : p≠f.next := (ho.sane.sec_lt h').ne
    have hoX : o≠.sb X := fun e => by rw [e,h.sec] at hn; cases hn
    obtain ⟨mq,hmq,hu⟩ := h.uuid
    refine ⟨by dsimp only; rw [update_noteq (Ne.symm hoX)]; exact h.sec,
      ⟨mq,by dsimp only; rw [update_noteq (hne h.sec)]; exact hmq,hu⟩,
      fun i p n ino hp hb hn' hi hx => ?_⟩
    dsimp only at hp hn' hi
    by_cases e : Obj.inode i=o
    · subst e; simp only [update_same,Option.some.injEq] at hp; subst hp
      simp only [update_same,Option.some.injEq] at hn'; subst hn'
      obtain ⟨q₀,mq₀,hq₀,hmq₀,hs⟩ := hsb i ino rfl hi
      rw [hx,h.sec] at hq₀; cases hq₀; rw [hmq] at hmq₀; cases hmq₀
      rw [hs,hu]
    · rw [update_noteq e] at hp
      rw [update_noteq (hne hp)] at hn'
      exact h.inodes i p n ino hp hb hn' hi hx
  | @create o h' hl _ hi =>
    refine ⟨h.sec,h.uuid,fun i p n ino hp hb hn hino hx => h.inodes i p n ino hp hb hn ?_ hx⟩
    have hne : Obj.inode i≠o := fun e => by rw [← e,ho.sane.live _ _ hp] at hl; cases hl
    rwa [← hi i hne]
  | @drop o hn =>
    refine ⟨h.sec,h.uuid,fun i p n ino hp hb hn' hino hx => h.inodes i p n ino hp hb hn' ?_ hx⟩
    have hne : Obj.inode i≠o := fun e => by rw [e,hn] at hp; cases hp
    rwa [← Host.erase_inodes_of_ne _ hne]
  | other h' _ hi =>
    exact ⟨h.sec,h.uuid,fun i p n ino hp hb hn hino hx => h.inodes i p n ino hp hb hn (hi ▸ hino) hx⟩

theorem SbAgree.release {f : Frame} (h : SbAgree X q u b f) (ho : Owned f) {o : Obj}
    (hX : o≠.sb X) (free : Bool) : SbAgree X q u b (f.release o free) := by
  obtain ⟨mq,hmq,hu⟩ := h.uuid
  refine ⟨by simp [update_noteq (Ne.symm hX),h.sec],⟨mq,?_,hu⟩,fun i p n ino hp hb hn hino hx => ?_⟩
  · rw [Frame.release_heap,if_neg (fun c => hX (ho.inj _ _ _ c.2 h.sec))]; exact hmq
  · have hne : Obj.inode i≠o := fun e => by rw [e] at hp; simp at hp
    simp only [Frame.release_sec,update_noteq hne] at hp
    simp only [Frame.release_host,Host.erase_inodes_of_ne _ hne] at hino
    exact h.inodes i p n ino hp hb (Frame.release_heap_sub hn) hino hx

theorem SbAgree.moves {f f' : Frame} (h : SbAgree X q u b f) (ho : Owned f) (hm : Moves f f') :
    SbAgree X q u b f' := by
  induction hm with
  | refl => exact h
  | tail hs hmv ih => exact ih.move (Owned.kept.moves ho ho hs).1 hmv

/-- A step of the host that neither destroys `X` nor mounts it keeps the agreement. -/
theorem SbAgree.hostStep {e : Event} {s s' : Kernel} {r : Int} (h : SbAgree X q u b s.frame)
    (ho : Owned s.frame) (hf : e≠.sbFreeSecurity X) (hm : ∀ random, e≠.sbKernMount X random)
    (hs : hostStep e s=.ok (r,s')) : SbAgree X q u b s'.frame := by
  rcases hostStep_cases ho.sane hs with
    hms | ⟨o,free,hr,he⟩ | ⟨new,_,_,m,_,-,_,_,hq,he⟩ | ⟨sb,random,_,m,u',rfl,hq,_,he⟩ <;>
    [skip; rw [he]; rw [he]; rw [he]]
  · exact h.moves ho hms
  · exact h.release ho (fun e => hf (Event.eq_of_release?_sb (e ▸ hr))) free
  · exact h.write_other ho hq (by simp) (by simp) m
  · exact h.write_other ho hq (fun e => hm random (by cases e; rfl)) (by simp) _

theorem SbAgree.run {k k' : Kernel} (h : SbAgree X q u b k.frame) (hk : Reachable k) :
    ∀ {es : List Event}, (∀ e ∈ es, e≠.sbFreeSecurity X ∧ ∀ random, e≠.sbKernMount X random) →
      CamFlow.Provenance.run es k=.ok k' → SbAgree X q u b k'.frame
  | [],_,hr => by cases hr; exact h
  | e::es,hes,hr => by
    simp only [CamFlow.Provenance.run] at hr
    split at hr
    · next r k₁ h₁ =>
      have ⟨hf,hm⟩ := hes e (List.mem_cons_self _ _)
      exact (h.hostStep hk.owned hf hm h₁).run (hk.step h₁)
        (fun e' he' => hes e' (List.mem_cons_of_mem _ he')) hr
    · cases hr

end SbAgree

/-- Along a run that neither destroys nor mounts superblock `X`, `X` keeps its record and uuid,
and every inode of `X` recorded during the run carries that uuid. -/
theorem sb_uuid_agrees_after_last_mount {k k' : Kernel} {es : List Event} {X q : Nat}
    {mq : ProvMsg} (hk : Reachable k) (hq : k.sec (.sb X)=some q) (hmq : k.heap q=some mq)
    (hes : ∀ e ∈ es, e≠.sbFreeSecurity X ∧ ∀ random, e≠.sbKernMount X random)
    (hr : run es k=.ok k') :
    k'.sec (.sb X)=some q ∧ (∃ mq', k'.heap q=some mq' ∧ mq'.uuid=mq.uuid) ∧
      ∀ i p m ino, k'.sec (.inode i)=some p → k.next ≤ p → k'.heap p=some m →
        k'.host.inodes i=some ino → ino.sb=X → m.sbUuid=mq.uuid := by
  have h0 : SbAgree X q mq.uuid k.next k.frame :=
    ⟨hq,⟨mq,hmq,rfl⟩,fun _ p _ _ _ hb hn _ _ => by
      have h0 : k.heap p=none := hk.owned.sane.fresh p hb
      rw [Kernel.frame_heap,h0] at hn; cases hn⟩
  have h1 := h0.run hk hes hr
  exact ⟨h1.sec,h1.uuid,h1.inodes⟩

def onesUuid : Uuid := ⟨List.replicate 16 1,rfl⟩

/-- An inode allocated after `provenance_sb_kern_mount` carries the uuid the mount gave the
superblock's record. -/
theorem inode_after_mount_agrees :
    ∃ k k' mq, bootRun (fun _ => true) rootCred [.sbAllocSecurity 0 zeroSb,.sbKernMount 0 onesUuid]=.ok k ∧
      run [.inodeAllocSecurity 0 0 labelledInode] k=.ok k' ∧ k.heap 1=some mq ∧
      mq.uuid=onesUuid ∧ ∀ i p m ino, k'.sec (.inode i)=some p → k.next ≤ p → k'.heap p=some m →
        k'.host.inodes i=some ino → ino.sb=0 → m.sbUuid=mq.uuid := by
  obtain ⟨k,hk,hv⟩ := ok_of_map (show (bootRun (fun _ => true) rootCred
      [.sbAllocSecurity 0 zeroSb,.sbKernMount 0 onesUuid]).map
      (fun k => (k.sec (.sb 0),(k.heap 1).map (·.uuid)))=.ok (some 1,some onesUuid) by decide)
  obtain ⟨k',hk',-⟩ := ok_of_bind_map hk (show ((bootRun (fun _ => true) rootCred
      [.sbAllocSecurity 0 zeroSb,.sbKernMount 0 onesUuid]).bind
      fun k => (run [.inodeAllocSecurity 0 0 labelledInode] k).map fun _ => ())=.ok () by decide)
  simp only [Prod.mk.injEq,Option.map_eq_some'] at hv
  obtain ⟨hq,mq,hmq,hu⟩ := hv
  exact ⟨k,k',mq,hk,hk',hmq,hu,(sb_uuid_agrees_after_last_mount (.of_bootRun hk) hq hmq
    (by simp) hk').2.2⟩

/-- An inode allocated before `provenance_sb_kern_mount` keeps the zero uuid of the fresh
superblock record, while the mount gives that record the random uuid. -/
theorem inode_before_mount_disagrees :
    (bootRun (fun _ => true) rootCred
        [.sbAllocSecurity 0 zeroSb,.inodeAllocSecurity 0 0 labelledInode,.sbKernMount 0 onesUuid]).map
      (fun k => (k.sec (.sb 0),(k.heap 1).map (·.uuid),k.sec (.inode 0),(k.heap 2).map (·.sbUuid)))=
      .ok (some 1,some onesUuid,some 2,some .zero) ∧ onesUuid≠.zero :=
  ⟨by decide,by decide⟩

/-- `provenance_sb_kern_mount` returns 0 and sets the superblock record's uuid to `s_uuid`, or to
the random bytes when `s_uuid` is all zero. -/
theorem kern_mount_copies_or_randomises_uuid {sb : Nat} {random : Uuid} {s s' : Kernel}
    {r : Int} (h : provenanceSbKernMount sb random s=.ok (r,s')) :
    r=0 ∧ ∃ q m x, s.sec (.sb sb)=some q ∧ s.heap q=some m ∧ s.host.sbs sb=some x ∧
      s'.frame={ s.frame with
        heap := update s.heap q (some {m with uuid := if x.sUuid=.zero then random else x.sUuid}) } := by
  simp only [provenanceSbKernMount,bind_assoc,provOf_bind,getSb,getObj_bind,modifyNode_bind] at h
  split at h <;> [skip; cases h]
  split at h <;> [skip; cases h]
  next x hx =>
  split at h; · cases h
  next q hq =>
  split at h <;> [skip; cases h]
  next m hm =>
  have hz : (kernMountLoop x.sUuid.bytes 0).2=0 ↔ x.sUuid=.zero := by
    rw [kernMountLoop_snd_eq_zero,Uuid.eq_zero_iff]; simp
  split at h
  · next h0 =>
    simp only [hq,modifyNode_bind,update_same,update_idem] at h
    cases h
    exact ⟨rfl,q,m,x,hq,hm,hx,by rw [if_pos (hz.1 h0)]; rfl⟩
  · next h0 =>
    cases h
    refine ⟨rfl,q,m,x,hq,hm,hx,?_⟩
    rw [if_neg (mt hz.2 h0)]
    rcases x with ⟨⟨bs,hb⟩⟩
    simp only [kernMountLoop_fst]
    rfl

/-- Mounting a superblock whose `s_uuid` is zero gives its record the random bytes. -/
theorem zero_uuid_mount_takes_random :
    ∃ k k' r, bootRun (fun _ => true) rootCred [.sbAllocSecurity 0 zeroSb]=.ok k ∧
      k.host.sbs 0=some zeroSb ∧ provenanceSbKernMount 0 onesUuid k=.ok (r,k') ∧
      r=0 ∧ ∃ q m x, k.sec (.sb 0)=some q ∧ k.heap q=some m ∧ k.host.sbs 0=some x ∧
        k'.frame={ k.frame with
          heap := update k.heap q
            (some {m with uuid := if x.sUuid=.zero then onesUuid else x.sUuid}) } := by
  obtain ⟨k,hk,hsb⟩ := ok_of_map (show (bootRun (fun _ => true) rootCred
      [.sbAllocSecurity 0 zeroSb]).map (fun k => k.host.sbs 0)=.ok (some zeroSb) by decide)
  obtain ⟨⟨r,k'⟩,h,-⟩ := ok_of_bind_map hk (show ((bootRun (fun _ => true) rootCred
      [.sbAllocSecurity 0 zeroSb]).bind fun k => (provenanceSbKernMount 0 onesUuid k).map
        Prod.fst)=.ok 0 by decide)
  exact ⟨k,k',r,hk,hsb,h,kern_mount_copies_or_randomises_uuid h⟩

end CamFlow.Provenance
