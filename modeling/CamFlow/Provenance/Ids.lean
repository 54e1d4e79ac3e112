import CamFlow.Provenance.Names

namespace CamFlow.Provenance

open Function

/-- The kinds whose allocation hook draws a fresh identifier. -/
def MsgType.drawsId : MsgType → Bool
  | .task | .sock | .msg | .shm => true
  | .inode | .sb => false

theorem Obj.drawsId_eq_kind (o : Obj) : o.drawsId=o.kind.drawsId := by cases o <;> rfl

/-- Records of the kinds that draw identifiers carry identifiers below the counter, and two of
them share one only if both are task records. -/
structure Ids (f : Frame) : Prop where
  lt : ∀ p m, f.heap p=some m → m.messageId.drawsId=true → m.nodeId < f.nextNodeId
  uniq : ∀ p q m m', f.heap p=some m → f.heap q=some m' → p≠q → m.messageId.drawsId=true →
    m'.messageId.drawsId=true → m.nodeId=m'.nodeId → m.messageId=.task ∧ m'.messageId=.task

theorem Ids.sub {f f' : Frame} (hi : Ids f) (hx : f.nextNodeId ≤ f'.nextNodeId)
    (hh : ∀ p m, f'.heap p=some m → f.heap p=some m) : Ids f' :=
  ⟨fun p m h hd => Nat.lt_of_lt_of_le (hi.lt p m (hh p m h) hd) hx,
    fun p q m m' h h' => hi.uniq p q m m' (hh p m h) (hh q m' h')⟩

/-- Writing a record keeps the identifiers apart when the new record's identifier is below the
counter and clashes with no other record's but between tasks. -/
theorem Ids.write {f : Frame} (hi : Ids f) {q : Nat} {m' : ProvMsg}
    (hlt : m'.messageId.drawsId=true → m'.nodeId < f.nextNodeId)
    (hu : ∀ r n, r≠q → f.heap r=some n → m'.messageId.drawsId=true → n.messageId.drawsId=true →
      m'.nodeId=n.nodeId → m'.messageId=.task ∧ n.messageId=.task) :
    Ids {f with heap := update f.heap q (some m')} := by
  have get {p : Nat} {n : ProvMsg} (h : update f.heap q (some m') p=some n) :
      (p=q ∧ n=m') ∨ (p≠q ∧ f.heap p=some n) := by
    by_cases e : p=q
    · subst e; simp only [update_same,Option.some.injEq] at h; exact .inl ⟨rfl,h.symm⟩
    · rw [update_noteq e] at h; exact .inr ⟨e,h⟩
  refine ⟨fun p n h => ?_,fun p₁ p₂ n₁ n₂ h₁ h₂ hne hd₁ hd₂ he => ?_⟩
  · rcases get h with ⟨-,rfl⟩ | ⟨-,h⟩
    · exact hlt
    · exact hi.lt p n h
  · rcases get h₁ with ⟨rfl,rfl⟩ | ⟨e₁,g₁⟩ <;> rcases get h₂ with ⟨rfl,rfl⟩ | ⟨e₂,g₂⟩
    · exact absurd rfl hne
    · exact hu p₂ n₂ e₂ g₂ hd₁ hd₂ he
    · exact (hu p₁ n₁ e₁ g₁ hd₂ hd₁ he.symm).symm
    · exact hi.uniq p₁ p₂ n₁ n₂ g₁ g₂ hne hd₁ hd₂ he

/-- Overwriting a record with one of the same kind and identifier. -/
theorem Ids.write_same {f : Frame} (hi : Ids f) {q : Nat} {m m' : ProvMsg} (hq : f.heap q=some m)
    (hk : m'.messageId=m.messageId) (hn : m'.nodeId=m.nodeId) :
    Ids {f with heap := update f.heap q (some m')} :=
  hi.write (by rw [hk,hn]; exact hi.lt q m hq) fun r n hr h => by
    rw [hk,hn]; exact hi.uniq q r m n hq h (Ne.symm hr)

theorem Ids.move {f f' : Frame} (hi : Ids f) (h : Move f f') : Ids f' := by
  cases h with
  | emit _ => exact hi.sub le_rfl fun _ _ => id
  | touch g hq hg => exact hi.write_same hq hg.1 hg.2.1
  | @name p m _ _ _ _ hp _ _ _ =>
    have hw : Ids {f with heap := update f.heap p (some {m with nameRecorded := true})} :=
      hi.write_same hp rfl rfl
    exact ⟨hw.lt,hw.uniq⟩
  | @attach o m _ _ hk _ hid _ =>
    have hd : m.messageId.drawsId=o.drawsId := by rw [hk,Obj.drawsId_eq_kind]
    have hi' : Ids {f with nextNodeId := if o.drawsId then f.nextNodeId+1 else f.nextNodeId} :=
      hi.sub (by dsimp only; split <;> omega) fun _ _ => id
    have hw : Ids { f with
        heap := update f.heap f.next (some m)
        nextNodeId := if o.drawsId then f.nextNodeId+1 else f.nextNodeId } :=
      hi'.write (fun h => by rw [hd] at h; dsimp only; rw [if_pos h,hid h]; omega)
        fun r n _ h hd₁ hd₂ he => by
          rw [hd] at hd₁; have := hi.lt r n h hd₂; rw [hid hd₁] at he; omega
    exact ⟨hw.lt,hw.uniq⟩
  | create _ _ _ _ => exact hi.sub le_rfl fun _ _ => id
  | drop _ => exact hi.sub le_rfl fun _ _ => id
  | other _ _ _ => exact hi.sub le_rfl fun _ _ => id

/-- The identifiers survive every step of the host: `provenance_cred_transfer` writes a copy of
a task record over another task record. -/
theorem Ids.kept : Kept Ids where
  move _ hi h := hi.move h
  release _ _ _ hi := hi.sub le_rfl fun _ _ => Frame.release_heap_sub
  transfer {_ _ _ p m _} ho hi hp hm _ := by
    have hk : m.messageId=.task := ho.kind _ _ _ hp hm
    refine hi.write (hi.lt p m hm) fun r n _ h hd hd' he => ?_
    by_cases e : r=p
    · subst e; rw [hm] at h; cases h; exact ⟨hk,hk⟩
    · exact hi.uniq p r m n hm h (Ne.symm e) hd hd' he
  mount _ _ hi _ hm := hi.write_same hm rfl rfl

theorem Ids.start (allocOk : Nat → Bool) (init : Cred) : Ids (Kernel.start allocOk init).frame :=
  ⟨fun _ _ h => (nomatch h),fun _ _ _ _ h => (nomatch h)⟩

/-- In every reachable kernel, two distinct live records of the kinds that draw identifiers
carry the same identifier only if both are task records. -/
theorem node_ids_unique_except_tasks {k : Kernel} (hk : Reachable k) {p q : Nat}
    {m m' : ProvMsg} (hp : k.heap p=some m) (hq : k.heap q=some m') (hne : p≠q)
    (hd : m.messageId.drawsId=true) (hd' : m'.messageId.drawsId=true) (he : m.nodeId=m'.nodeId) :
    m.messageId=.task ∧ m'.messageId=.task :=
  (Ids.kept.reachable Ids.start hk).2.uniq p q m m' hp hq hne hd hd' he

/-- The kind, identifier and `sb_uuid` of the records at `ps`. -/
def idView (ps : List Nat) (k : Kernel) : List (Option (MsgType × Nat × Uuid)) :=
  ps.map fun p => (k.heap p).map fun m => (m.messageId,m.nodeId,m.sbUuid)

/-- After `provenance_cred_transfer` the records of credentials `0` and `1` share identifier
`0`, and both are task records. -/
theorem transferred_credentials_share_id :
    ∃ k m m', bootRun (fun _ => true) rootCred [.credAllocBlank 1 rootCred,.credTransfer 1 0]=.ok k ∧
      k.heap 0=some m ∧ k.heap 1=some m' ∧ m.nodeId=m'.nodeId ∧
      m.messageId=.task ∧ m'.messageId=.task := by
  obtain ⟨k,hk,hv⟩ := ok_of_map (show (bootRun (fun _ => true) rootCred
      [.credAllocBlank 1 rootCred,.credTransfer 1 0]).map (idView [0,1])=
      .ok [some (.task,0,.zero),some (.task,0,.zero)] by decide)
  simp only [idView,List.map_cons,List.map_nil,List.cons.injEq,Option.map_eq_some',
    Prod.mk.injEq,and_true] at hv
  obtain ⟨⟨m,hm,hk0,hi0,-⟩,⟨m',hm',hk1,hi1,-⟩⟩ := hv
  have he : m.nodeId=m'.nodeId := hi0.trans hi1.symm
  exact ⟨k,m,m',hk,hm,hm',he,node_ids_unique_except_tasks (.of_bootRun hk) hm hm' (by decide)
    (by rw [hk0]; rfl) (by rw [hk1]; rfl) he⟩

/-- Identifiers are not unique per kind: two task records after `cred_transfer`, two superblock
records, and two inodes numbered `7` on unmounted superblocks share theirs. -/
theorem node_ids_collide :
    (bootRun (fun _ => true) rootCred [.credAllocBlank 1 rootCred,.credTransfer 1 0]).map
        (idView [0,1])=.ok [some (.task,0,.zero),some (.task,0,.zero)] ∧
    (bootRun (fun _ => true) rootCred
        [.sbAllocSecurity 0 zeroSb,.sbAllocSecurity 1 zeroSb,.inodeAllocSecurity 0 0 labelledInode,
          .inodeAllocSecurity 0 1 {labelledInode with sb := 1}]).map (idView [1,2,3,4])=
      .ok [some (.sb,0,.zero),some (.sb,0,.zero),some (.inode,7,.zero),some (.inode,7,.zero)] :=
  ⟨by decide,by decide⟩

end CamFlow.Provenance
