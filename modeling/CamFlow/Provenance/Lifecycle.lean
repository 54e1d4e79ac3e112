import CamFlow.Provenance.Ownership

namespace CamFlow.Provenance

open Function

/-- After a release no object points to the released object's record. -/
theorem Owned.release_unowned {f : Frame} (ho : Owned f) {o : Obj} {p : Nat} (hp : f.sec o=some p)
    (free : Bool) (o' : Obj) : (f.release o free).sec o'≠some p := by
  by_cases e : o'=o
  · subst e; simp
  · simp only [Frame.release_sec,update_noteq e]; exact fun h => e (ho.inj o' o p h hp)

theorem Frame.release_heap_self {f : Frame} {o : Obj} {p : Nat} (hp : f.sec o=some p)
    (free : Bool) : (f.release o free).heap p=if free then none else f.heap p := by
  rw [Frame.release_heap]; cases free <;> simp [hp]

theorem Frame.release_heap_other {f : Frame} {o : Obj} {p q : Nat} (hp : f.sec o=some p)
    (free : Bool) (hq : q≠p) : (f.release o free).heap q=f.heap q := by
  rw [Frame.release_heap,if_neg]; rintro ⟨-,h⟩; rw [hp] at h; exact hq (Option.some.inj h).symm

/-- In every reachable kernel, destroying an inode that has a record leaves that record
allocated, and no object points to it any more: the record is lost. -/
theorem inode_free_leaks_record {k k' : Kernel} (hk : Reachable k) {i p : Nat} {r : Int}
    (hp : k.sec (.inode i)=some p) (h : hostStep (.inodeFreeSecurity i) k=.ok (r,k')) :
    k'.heap p=k.heap p ∧ (k.heap p).isSome=true ∧ ∀ o, k'.sec o≠some p := by
  have he := hostStep_release (by rfl) h
  have ho := hk.owned
  have hp : k.frame.sec (.inode i)=some p := hp
  refine ⟨?_,ho.sane.attached _ _ hp,fun o => ?_⟩
  · have := congrArg (·.heap p) he
    simpa [Frame.release_heap_self hp] using this
  · have := ho.release_unowned hp false o
    rwa [← he] at this

/-- Destroying inode `0` of a labelled file system: its record, at `2`, stays allocated and
unowned. -/
theorem freed_inode_record_leaks :
    ∃ k k' r, bootRun (fun _ => true) rootCred
        [.sbAllocSecurity 0 zeroSb,.inodeAllocSecurity 0 0 labelledInode]=.ok k ∧
      k.sec (.inode 0)=some 2 ∧ hostStep (.inodeFreeSecurity 0) k=.ok (r,k') ∧
      k'.heap 2=k.heap 2 ∧ (k.heap 2).isSome=true ∧ ∀ o, k'.sec o≠some 2 := by
  obtain ⟨k,hk,hv⟩ := ok_of_map (show (bootRun (fun _ => true) rootCred
      [.sbAllocSecurity 0 zeroSb,.inodeAllocSecurity 0 0 labelledInode]).map
      (fun k => k.sec (.inode 0))=.ok (some 2) by decide)
  obtain ⟨⟨r,k'⟩,h,-⟩ := ok_of_bind_map hk (show ((bootRun (fun _ => true) rootCred
      [.sbAllocSecurity 0 zeroSb,.inodeAllocSecurity 0 0 labelledInode]).bind
      fun k => (hostStep (.inodeFreeSecurity 0) k).map fun _ => ())=.ok () by decide)
  exact ⟨k,k',r,hk,hv,h,inode_free_leaks_record (.of_bootRun hk) hv h⟩

/-- The free hook of a credential, sock, message, shm segment or superblock releases the live
record its object had and no other, and no object points to it afterwards. -/
theorem free_hook_releases_record {e : Event} {o : Obj} {k k' : Kernel} (hk : Reachable k)
    (he : e.release?=some (o,true)) {p : Nat} {r : Int} (hp : k.sec o=some p)
    (h : hostStep e k=.ok (r,k')) :
    (k.heap p).isSome=true ∧ k'.heap p=none ∧ (∀ q, q≠p → k'.heap q=k.heap q) ∧
      ∀ o', k'.sec o'≠some p := by
  have hf := hostStep_release he h
  have ho := hk.owned
  have hp : k.frame.sec o=some p := hp
  refine ⟨ho.sane.attached _ _ hp,?_,fun q hq => ?_,fun o' => ?_⟩
  · have := congrArg (·.heap p) hf
    simpa [Frame.release_heap_self hp] using this
  · have := congrArg (·.heap q) hf
    simpa [Frame.release_heap_other hp true hq] using this
  · have := ho.release_unowned hp true o'
    rwa [← hf] at this

/-- Destroying credential `1`, created by `provenance_cred_prepare`, releases its record at
`1`. -/
theorem freed_credential_record_released :
    ∃ k k' r, bootRun (fun _ => true) rootCred [.credPrepare 1 0 rootCred]=.ok k ∧
      k.sec (.cred 1)=some 1 ∧ hostStep (.credFree 1) k=.ok (r,k') ∧
      (k.heap 1).isSome=true ∧ k'.heap 1=none ∧ (∀ q, q≠1 → k'.heap q=k.heap q) ∧
      ∀ o', k'.sec o'≠some 1 := by
  obtain ⟨k,hk,hv⟩ := ok_of_map (show (bootRun (fun _ => true) rootCred
      [.credPrepare 1 0 rootCred]).map (fun k => k.sec (.cred 1))=.ok (some 1) by decide)
  obtain ⟨⟨r,k'⟩,h,-⟩ := ok_of_bind_map hk (show ((bootRun (fun _ => true) rootCred
      [.credPrepare 1 0 rootCred]).bind
      fun k => (hostStep (.credFree 1) k).map fun _ => ())=.ok () by decide)
  exact ⟨k,k',r,hk,hv,h,free_hook_releases_record (.of_bootRun hk) (by rfl) hv h⟩

/-- A move leaves an attached record attached, of the same kind and node identifier. -/
theorem Move.keeps_record {f f' : Frame} (hs : Sane f) (h : Move f f') {o : Obj} {p : Nat}
    {m : ProvMsg} (hp : f.sec o=some p) (hm : f.heap p=some m) :
    f'.sec o=some p ∧ ∃ m', f'.heap p=some m' ∧ m'.messageId=m.messageId ∧ m'.nodeId=m.nodeId := by
  cases h with
  | @touch q m₀ g hq hg =>
    refine ⟨hp,?_⟩
    by_cases e : p=q
    · subst e; rw [hm] at hq; cases hq
      exact ⟨g m,update_same _ _ _,hg.1,hg.2.1⟩
    · exact ⟨m,(update_noteq e _ _).trans hm,rfl,rfl⟩
  | @name q m₀ o' l msg a hq _ _ _ =>
    refine ⟨hp,?_⟩
    by_cases e : p=q
    · subst e; rw [hm] at hq; cases hq
      exact ⟨_,update_same _ _ _,rfl,rfl⟩
    · exact ⟨m,(update_noteq e _ _).trans hm,rfl,rfl⟩
  | @attach o' m₀ hn _ _ _ _ _ =>
    have ho : o≠o' := fun e => by subst e; rw [hp] at hn; cases hn
    have hq : p≠f.next := Nat.ne_of_lt (hs.sec_lt hp)
    exact ⟨(update_noteq ho _ _).trans hp,m,(update_noteq hq _ _).trans hm,rfl,rfl⟩
  | _ => exact ⟨hp,m,hm,rfl,rfl⟩

theorem Moves.keeps_record {f f' : Frame} (hs : Sane f) (h : Moves f f') {o : Obj} {p : Nat}
    {m : ProvMsg} (hp : f.sec o=some p) (hm : f.heap p=some m) :
    f'.sec o=some p ∧ ∃ m', f'.heap p=some m' ∧ m'.messageId=m.messageId ∧ m'.nodeId=m.nodeId := by
  induction h with
  | refl => exact ⟨hp,m,hm,rfl,rfl⟩
  | tail h₁ h ih =>
    obtain ⟨hp₁,m₁,hm₁,hk,hi⟩ := ih
    obtain ⟨hp₂,m₂,hm₂,hk₂,hi₂⟩ := h.keeps_record (hs.moves h₁) hp₁ hm₁
    exact ⟨hp₂,m₂,hm₂,hk₂.trans hk,hi₂.trans hi⟩

/-- A step that rewrites one record keeps every pointer. -/
theorem Kernel.eq_of_frame_write {s s' : Kernel} {q : Nat} {v : Option ProvMsg}
    (hf : s'.frame={s.frame with heap := update s.heap q v}) : s'.sec=s.sec ∧ s'.heap=update s.heap q v :=
  ⟨congrArg Frame.sec hf,congrArg Frame.heap hf⟩

/-- One step from an owned kernel, other than the destruction of `o`, leaves `o` its record, of
the same kind and, unless the step is `cred_transfer` onto `o`, with the same node identifier. -/
theorem hostStep_keeps_record {e : Event} {s s' : Kernel} {r : Int} (ho : Owned s.frame)
    (h : hostStep e s=.ok (r,s')) {o : Obj} {p : Nat} {m : ProvMsg} (hp : s.sec o=some p)
    (hm : s.heap p=some m) (he : ∀ free, e.release?≠some (o,free)) :
    s'.sec o=some p ∧ ∃ m', s'.heap p=some m' ∧ m'.messageId=m.messageId ∧
      ((∀ new old, e=.credTransfer new old → o≠.cred new) → m'.nodeId=m.nodeId) := by
  rcases hostStep_cases ho.sane h with hm' | ⟨o',free,hr,hf⟩ |
    ⟨new,old,q,m₀,q',rfl,hq,hm₀,hq',hf⟩ | ⟨sb,random,q,m₀,u,rfl,hq,hm₀,hf⟩
  · obtain ⟨hp',m',h',hk,hi⟩ := hm'.keeps_record ho.sane hp hm
    exact ⟨hp',m',h',hk,fun _ => hi⟩
  · have ho' : o'≠o := fun e => by subst e; exact he free hr
    have hq : s.frame.sec o'≠some p := fun h' => ho' (ho.inj o' o p h' hp)
    refine ⟨?_,m,?_,rfl,fun _ => rfl⟩
    · rw [← Kernel.frame_sec,hf,Frame.release_sec,update_noteq ho'.symm]; exact hp
    · rw [← Kernel.frame_heap,hf,Frame.release_heap,if_neg fun h' => hq h'.2]; exact hm
  · obtain ⟨hsec,hheap⟩ := Kernel.eq_of_frame_write hf
    refine ⟨hsec ▸ hp,?_⟩
    by_cases e : p=q'
    · subst e
      have hon : o=.cred new := ho.inj o _ p hp hq'
      refine ⟨m₀,by rw [hheap,update_same],?_,fun hn => absurd hon (hn new old rfl)⟩
      rw [ho.kind _ _ _ hq hm₀,ho.kind _ _ _ hp hm,hon]; rfl
    · exact ⟨m,by rw [hheap,update_noteq e]; exact hm,rfl,fun _ => rfl⟩
  · obtain ⟨hsec,hheap⟩ := Kernel.eq_of_frame_write hf
    refine ⟨hsec ▸ hp,?_⟩
    by_cases e : p=q
    · subst e; rw [hm] at hm₀; cases hm₀
      exact ⟨{m with uuid := u},by rw [hheap,update_same],rfl,fun _ => rfl⟩
    · exact ⟨m,by rw [hheap,update_noteq e]; exact hm,rfl,fun _ => rfl⟩

/-- A run that does not destroy `o` leaves it its record, live and of the same kind, with the same
node identifier unless the run holds a `cred_transfer` onto `o`. -/
theorem object_keeps_its_record {k k' : Kernel} (hk : Reachable k) {es : List Event}
    (h : run es k=.ok k') {o : Obj} {p : Nat} {m : ProvMsg} (hp : k.sec o=some p)
    (hm : k.heap p=some m) (hfree : ∀ e ∈ es, ∀ free, e.release?≠some (o,free)) :
    k'.sec o=some p ∧ ∃ m', k'.heap p=some m' ∧ m'.messageId=m.messageId ∧
      ((∀ new old, Event.credTransfer new old ∈ es → o≠.cred new) → m'.nodeId=m.nodeId) := by
  induction es generalizing k m with
  | nil => cases h; exact ⟨hp,m,hm,rfl,fun _ => rfl⟩
  | cons e es ih =>
    simp only [run] at h
    split at h
    · next r k₁ h₁ =>
      obtain ⟨hp₁,m₁,hm₁,hk₁,hi₁⟩ :=
        hostStep_keeps_record hk.owned h₁ hp hm (hfree e (List.mem_cons_self _ _))
      obtain ⟨hp',m',hm',hk',hi'⟩ := ih (hk.step h₁) h hp₁ hm₁
        fun e' he' => hfree e' (List.mem_cons_of_mem _ he')
      refine ⟨hp',m',hm',hk'.trans hk₁,fun hn => (hi' fun a b hab => ?_).trans (hi₁ ?_)⟩
      · exact hn a b (List.mem_cons_of_mem _ hab)
      · rintro a b rfl; exact hn a b (List.mem_cons_self _ _)
    · cases h

/-- The init task's credential keeps its record, and its node identifier, through the creation
of credential `1`, a `cred_transfer` onto `1` and the destruction of `1`. -/
theorem init_credential_keeps_record :
    ∃ k k' m, bootRun (fun _ => true) rootCred []=.ok k ∧
      run [.credPrepare 1 0 rootCred,.credTransfer 1 0,.credFree 1] k=.ok k' ∧
      k.sec (.cred 0)=some 0 ∧ k.heap 0=some m ∧
      k'.sec (.cred 0)=some 0 ∧ ∃ m', k'.heap 0=some m' ∧ m'.messageId=m.messageId ∧
        ((∀ new old, Event.credTransfer new old ∈
          [.credPrepare 1 0 rootCred,.credTransfer 1 0,.credFree 1] → Obj.cred 0≠.cred new) →
          m'.nodeId=m.nodeId) := by
  obtain ⟨k,hk,hv⟩ := ok_of_map (show (bootRun (fun _ => true) rootCred []).map
      (fun k => (k.sec (.cred 0),(k.heap 0).isSome))=.ok (some 0,true) by decide)
  obtain ⟨k',h,-⟩ := ok_of_bind_map hk (show ((bootRun (fun _ => true) rootCred []).bind
      fun k => (run [.credPrepare 1 0 rootCred,.credTransfer 1 0,.credFree 1] k).map
        fun _ => ())=.ok () by decide)
  simp only [Prod.mk.injEq] at hv
  obtain ⟨m,hm⟩ := Option.isSome_iff_exists.1 hv.2
  exact ⟨k,k',m,hk,h,hv.1,hm,object_keeps_its_record (.of_bootRun hk) h hv.1 hm
    (by simp [Event.release?])⟩

end CamFlow.Provenance
