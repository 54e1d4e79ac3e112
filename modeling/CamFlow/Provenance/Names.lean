import CamFlow.Provenance.Ownership

namespace CamFlow.Provenance

open Function

/-- The log and the name flags agree: at most one `ED_NAMED` edge per record, flagged, below the
frontier, and never on a task record. -/
structure Named (f : Frame) : Prop where
  le : ∀ p, namedCount p f.log ≤ 1
  flag : ∀ p m, f.heap p=some m → (m.nameRecorded=true ↔ namedCount p f.log=1)
  fresh : ∀ p, f.next ≤ p → namedCount p f.log=0
  task : ∀ p m, f.heap p=some m → m.messageId=.task → m.nameRecorded=false

theorem namedCount_name (p p' l : Nat) (msg : LongMsg) (a : Bool) (log : List SinkRec) :
    namedCount p' (log++[.longWrite l msg,.longEdge .edNamed p l a])=
      namedCount p' log+if p=p' then 1 else 0 := by
  by_cases e : p=p' <;> simp [namedCount_append,namedCount,SinkRec.namedFrom,e]

theorem Named.unnamed_of_flag {f : Frame} (hn : Named f) {p : Nat} {m : ProvMsg}
    (hp : f.heap p=some m) (hf : m.nameRecorded=false) : namedCount p f.log=0 := by
  have := hn.le p; have := hn.flag p m hp; simp only [hf,Bool.false_eq_true,false_iff] at this
  omega

/-- A step that forgets records and adds no `ED_NAMED` edge keeps the agreement. -/
theorem Named.sub {f f' : Frame} (hn : Named f) (hl : ∀ p, namedCount p f'.log=namedCount p f.log)
    (hx : f'.next=f.next) (hh : ∀ p m, f'.heap p=some m → f.heap p=some m) : Named f' :=
  ⟨fun p => hl p ▸ hn.le p,fun p m h => hl p ▸ hn.flag p m (hh p m h),
    fun p h => hl p ▸ hn.fresh p (hx ▸ h),fun p m h => hn.task p m (hh p m h)⟩

/-- Overwriting a record with one of the same kind and flag keeps the agreement. -/
theorem Named.write {f : Frame} (hn : Named f) {q : Nat} {m m' : ProvMsg} (hq : f.heap q=some m)
    (hf : m'.nameRecorded=m.nameRecorded) (hk : m'.messageId=m.messageId) :
    Named {f with heap := update f.heap q (some m')} := by
  refine ⟨hn.le,fun p n hp => ?_,hn.fresh,fun p n hp => ?_⟩ <;> dsimp only at hp ⊢ <;>
    by_cases e : p=q
  · subst e; simp only [update_same,Option.some.injEq] at hp; subst hp
    rw [hf]; exact hn.flag p m hq
  · rw [update_noteq e] at hp; exact hn.flag p n hp
  · subst e; simp only [update_same,Option.some.injEq] at hp; subst hp
    rw [hf,hk]; exact hn.task p m hq
  · rw [update_noteq e] at hp; exact hn.task p n hp

theorem Named.move {f f' : Frame} (ho : Owned f) (hn : Named f) (h : Move f f') : Named f' := by
  cases h with
  | emit hr => exact hn.sub (fun p => namedCount_append_of_none p _ hr) rfl fun _ _ => id
  | touch g hq hg => exact hn.write hq hg.2.2.1 hg.1
  | @name p m o l msg a hp hf ho' hk =>
    have h0 := hn.unnamed_of_flag hp hf
    refine ⟨fun p' => ?_,fun p' n h => ?_,fun p' h => ?_,fun p' n h => ?_⟩ <;> dsimp only at *
    · rw [namedCount_name]
      by_cases e : p=p'
      · subst e; simp [h0]
      · simpa [e] using hn.le p'
    · rw [namedCount_name]
      by_cases e : p=p'
      · subst e; simp only [update_same,Option.some.injEq] at h; subst h; simp [h0]
      · rw [update_noteq (Ne.symm e)] at h; simpa [e] using hn.flag p' n h
    · rw [namedCount_name,hn.fresh p' h,if_neg (by have := ho.sane.sec_lt ho'; omega)]
    · by_cases e : p=p'
      · subst e; simp only [update_same,Option.some.injEq] at h; subst h
        exact fun c => absurd ((ho.kind o p m ho' hp).symm.trans c) hk
      · rw [update_noteq (Ne.symm e)] at h; exact hn.task p' n h
  | @attach o m hn' _ _ hf _ _ =>
    refine ⟨hn.le,fun p n h => ?_,fun p h => hn.fresh p (Nat.le_of_succ_le h),fun p n h => ?_⟩ <;>
      dsimp only at h ⊢ <;> by_cases e : p=f.next
    · subst e; simp only [update_same,Option.some.injEq] at h; subst h
      simp [hf,hn.fresh _ le_rfl]
    · rw [update_noteq e] at h; exact hn.flag p n h
    · subst e; simp only [update_same,Option.some.injEq] at h; subst h; exact fun _ => hf
    · rw [update_noteq e] at h; exact hn.task p n h
  | create _ _ _ _ => exact hn.sub (fun _ => rfl) rfl fun _ _ => id
  | drop _ => exact hn.sub (fun _ => rfl) rfl fun _ _ => id
  | other _ _ _ => exact hn.sub (fun _ => rfl) rfl fun _ _ => id

/-- The agreement survives every step of the host: the copy of `provenance_cred_transfer`
writes an unnamed task record over another. -/
theorem Named.kept : Kept Named where
  move ho hn h := hn.move ho h
  release _ _ _ hn := hn.sub (fun _ => rfl) rfl fun _ _ => Frame.release_heap_sub
  transfer ho hn hp hm hq := by
    obtain ⟨n,hn'⟩ := Option.isSome_iff_exists.1 (ho.sane.attached _ _ hq)
    have hkm := ho.kind _ _ _ hp hm
    have hkn := ho.kind _ _ _ hq hn'
    exact hn.write hn' ((hn.task _ _ hm hkm).trans (hn.task _ _ hn' hkn).symm) (hkm.trans hkn.symm)
  mount _ _ hn _ hm := hn.write hm rfl rfl

theorem Named.start (allocOk : Nat → Bool) (init : Cred) : Named (Kernel.start allocOk init).frame :=
  ⟨fun _ => Nat.zero_le _,fun _ _ h => (nomatch h),fun _ _ => rfl,fun _ _ h => (nomatch h)⟩

/-- A step of the host only appends to the log. -/
theorem hostStep_log_grows {e : Event} {s s' : Kernel} {r : Int} (hs : Sane s.frame)
    (h : hostStep e s=.ok (r,s')) : s.log <+: s'.log := by
  rcases hostStep_cases hs h with
    hm | ⟨_,_,-,he⟩ | ⟨_,_,_,_,_,-,_,_,_,he⟩ | ⟨_,_,_,_,_,-,_,_,he⟩
  · exact hm.log_grows
  all_goals
    have := congrArg Frame.log he
    simp only [Kernel.frame_log,Frame.release_log] at this
    exact ⟨[],by rw [List.append_nil,this]⟩

/-- Each record has at most one `ED_NAMED` edge, a live record's `name_recorded` flag says
whether it has one, and no step clears the flag of a record that stays live. -/
theorem name_recorded_once {k : Kernel} (hk : Reachable k) :
    (∀ p, namedCount p k.log ≤ 1) ∧
    (∀ p m, k.heap p=some m → (m.nameRecorded=true ↔ namedCount p k.log=1)) ∧
    (∀ e r k' p m m', hostStep e k=.ok (r,k') → k.heap p=some m → m.nameRecorded=true →
      k'.heap p=some m' → m'.nameRecorded=true) := by
  have hn := (Named.kept.reachable Named.start hk).2
  refine ⟨hn.le,hn.flag,fun e r k' p m m' h hp hf hp' => ?_⟩
  have hn' := (Named.kept.reachable Named.start (hk.step h)).2
  have h1 := (hn.flag p m hp).1 hf
  have hmono : namedCount p k.log ≤ namedCount p k'.log :=
    namedCount_mono (hostStep_log_grows hk.owned.sane h)
  exact (hn'.flag p m' hp').2 (by have := hn'.le p; simp only [Kernel.frame_log] at *; omega)

/-- A file of a labelled inode is opened for reading: its inode's record (at `2`) is named, and
has one `ED_NAMED` edge. -/
theorem file_name_recorded_once :
    ∃ k m, bootRun (fun _ => true) rootCred
      [.sbAllocSecurity 0 zeroSb,.inodeAllocSecurity 0 0 labelledInode,.fileCreate 0 ⟨0,[47]⟩,
        .filePermission 0 0 MAY_READ]=.ok k ∧
      k.heap 2=some m ∧ m.nameRecorded=true ∧ namedCount 2 k.log=1 := by
  obtain ⟨k,hk,hv⟩ := ok_of_map (show (bootRun (fun _ => true) rootCred
      [.sbAllocSecurity 0 zeroSb,.inodeAllocSecurity 0 0 labelledInode,.fileCreate 0 ⟨0,[47]⟩,
        .filePermission 0 0 MAY_READ]).map (fun k => (k.heap 2).map (·.nameRecorded))=
      .ok (some true) by decide)
  obtain ⟨m,hm,hf⟩ := Option.map_eq_some'.1 hv
  exact ⟨k,m,hk,hm,hf,((name_recorded_once (.of_bootRun hk)).2.1 2 m hm).1 hf⟩

end CamFlow.Provenance
