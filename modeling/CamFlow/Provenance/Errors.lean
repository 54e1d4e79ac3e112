import CamFlow.Provenance.Lookup

namespace CamFlow.Provenance

open CamFlow.Ifc Function

/-- A hook that returns an error code returns `-ENOMEM`, only when `why` held of the kernel it
started from, and leaves the frame as it found it. -/
def FailsCleanly (why : Kernel → Prop) (m : ProvM Int) : Prop :=
  ∀ s r s', m s=.ok (r,s') → r≠0 → r=-ENOMEM ∧ why s ∧ s'.frame=s.frame

namespace FailsCleanly

variable {why : Kernel → Prop}

theorem of {m : ProvM Int} (h : ReturnsZero m) : FailsCleanly why m :=
  fun s r s' hm hr => absurd (h s r s' hm) hr

/-- A hook that returns 0, or `-ENOMEM` exactly when `why` holds and then changes nothing. -/
theorem returns {m : ProvM Int}
    (h : ∀ {s r s'}, m s=.ok (r,s') → (r=0 ∨ r=-ENOMEM ∧ s'=s) ∧ (r=-ENOMEM ↔ why s)) :
    FailsCleanly why m := fun _ _ _ hm hr =>
  match h hm with
  | ⟨.inl h0,_⟩ => absurd h0 hr
  | ⟨.inr ⟨he,hs⟩,hw⟩ => ⟨he,hw.1 he,by rw [hs]⟩

/-- A computation that only reads the kernel, then one that fails cleanly. -/
theorem read {α : Type} {m : ProvM α} {f : α → ProvM Int} (hm : ∀ s a s', m s=.ok (a,s') → s'=s)
    (hf : ∀ a, FailsCleanly why (f a)) : FailsCleanly why (m >>= f) := fun _ _ _ h hr =>
  let ⟨a,_,h₁,h₂⟩ := bind_ok h
  by cases hm _ _ _ h₁; exact hf a _ _ _ h₂ hr

theorem ite {c : Prop} [Decidable c] {m₁ m₂ : ProvM Int} (h₁ : FailsCleanly why m₁)
    (h₂ : FailsCleanly why m₂) : FailsCleanly why (if c then m₁ else m₂) := by
  split <;> assumption

theorem provOf_read {o : Obj} : ∀ s a s', provOf o s=.ok (a,s') → s'=s := fun s _ _ h => by
  unfold provOf at h; split at h <;> cases h; rfl

/-- The host's wrapper around an allocation hook: on failure the object it created is dropped,
and the host is the one before the creation. -/
theorem create {o : Obj} {add : Host → Host} {hook : ProvM Int} (hh : FailsCleanly why hook)
    (hadd : ∀ h, h.Live o=false → (add h).erase o=h)
    (hw : ∀ s : Kernel, why {s with host := add s.host} → why s) :
    FailsCleanly why (CamFlow.Provenance.create o add hook) := by
  intro s r s' h hr
  simp only [CamFlow.Provenance.create,getHost_bind] at h
  split at h
  · cases h
  · next hl =>
    obtain ⟨_,_,h₀,h⟩ := bind_ok h; cases h₀
    obtain ⟨_,_,h₁,h⟩ := bind_ok h; cases h₁
    obtain ⟨r',s₂,h₂,h⟩ := bind_ok h
    split at h
    · next hne =>
      obtain ⟨_,_,h₃,h⟩ := bind_ok h; cases h₃; cases h
      obtain ⟨he,hy,e⟩ := hh _ _ _ h₂ hne
      have hh₂ : s₂.host=add s.host := congrArg Frame.host e
      refine ⟨he,hw _ hy,?_⟩
      calc ({s₂ with host := s₂.host.erase o} : Kernel).frame
          = {s₂.frame with host := (add s.host).erase o} := by rw [← hh₂]; rfl
        _ = s.frame := by rw [e,hadd _ (by simpa using hl)]; rfl
    · next hr₀ =>
      obtain ⟨_,_,h₃,h⟩ := bind_ok h; cases h₃; cases h
      exact absurd (not_not.1 hr₀) hr

end FailsCleanly

/-- `alloc_provenance` fails on the kernel's next attempt. -/
abbrev AllocFails (s : Kernel) : Prop := s.allocOk s.allocs=false

/-- The host's changes leave the allocator alone. -/
theorem allocFails_of_host (s : Kernel) (h : Host) (ha : AllocFails {s with host := h}) :
    AllocFails s := ha

theorem failsCleanly_credAllocBlank (cred : Nat) :
    FailsCleanly AllocFails (provenanceCredAllocBlank cred) := by
  intro s r s' h hr
  simp only [provenanceCredAllocBlank,allocProvenance_bind] at h
  split at h
  · simp only [Option.isNone_some,Bool.false_eq_true,if_false,bind_assoc,pure_bind,setNodeId_bind,
      update_same,getCred,getObj_bind,modifyNode_bind,setProv_bind] at h
    split at h <;> cases h; exact absurd rfl hr
  · next ha => cases h; exact ⟨rfl,Bool.eq_false_iff.2 ha,rfl⟩

theorem failsCleanly_skAllocSecurity (sk : Nat) :
    FailsCleanly AllocFails (provenanceSkAllocSecurity sk) := by
  intro s r s' h hr
  simp only [provenanceSkAllocSecurity,allocProvenance_bind] at h
  split at h
  · simp only [Option.isNone_some,Bool.false_eq_true,if_false,bind_assoc,pure_bind,setNodeId_bind,
      update_same,setProv_bind] at h
    cases h; exact absurd rfl hr
  · next ha => cases h; exact ⟨rfl,Bool.eq_false_iff.2 ha,rfl⟩

theorem failsCleanly_sbAllocSecurity (sb : Nat) :
    FailsCleanly AllocFails (provenanceSbAllocSecurity sb) := by
  intro s r s' h hr
  simp only [provenanceSbAllocSecurity,allocProvenance_bind] at h
  split at h
  · simp only [Option.isNone_some,Bool.false_eq_true,if_false,pure_bind,setProv_bind] at h
    cases h; exact absurd rfl hr
  · next ha => cases h; exact ⟨rfl,Bool.eq_false_iff.2 ha,rfl⟩

theorem failsCleanly_credPrepare (new old : Nat) :
    FailsCleanly AllocFails (provenanceCredPrepare new old) :=
  fun _ _ _ h hr => (credPrepare_spec h).elim id fun h' => absurd h'.1 hr

theorem failsCleanly_inodeAllocSecurity (cur i : Nat) :
    FailsCleanly AllocFails (provenanceInodeAllocSecurity cur i) :=
  fun _ _ _ h hr => (inodeAllocSecurity_spec h).elim id fun h' => absurd h'.1 hr

theorem failsCleanly_msgMsgAllocSecurity (cur i : Nat) :
    FailsCleanly AllocFails (provenanceMsgMsgAllocSecurity cur i) :=
  fun _ _ _ h hr => (msgMsgAllocSecurity_spec h).elim id fun h' => absurd h'.1 hr

theorem failsCleanly_shmAllocSecurity (cur i : Nat) :
    FailsCleanly AllocFails (provenanceShmAllocSecurity cur i) :=
  fun _ _ _ h hr => (shmAllocSecurity_spec h).elim id fun h' => absurd h'.1 hr

/-- A step returns an error code only as `-ENOMEM`, from a failed allocation in a setup hook or a
refused missing record, and then changes nothing. -/
theorem error_return_changes_nothing {e : Event} {s s' : Kernel} {r : Int}
    (h : hostStep e s=.ok (r,s')) (hr : r≠0) :
    r=-ENOMEM ∧ (e.setup=true ∧ s.allocOk s.allocs=false ∨ e.Refuses s) ∧ s'.frame=s.frame := by
  cases hs : e.setup
  · cases hc : e.checksRecord
    · exact absurd (hostStep_returnsZero hs hc _ _ _ h) hr
    · have hf : FailsCleanly (fun s => e.Refuses s) (hostStep e) := by
        cases e <;> try cases hc
        exacts [.returns shmShmat_returns,.returns socketAddress_returns,
          .returns socketAddress_returns]
      obtain ⟨he,hw,hf⟩ := hf s r s' h hr
      exact ⟨he,.inr hw,hf⟩
  · have hf : FailsCleanly AllocFails (hostStep e) := by
      cases e <;> try cases hs
      all_goals dsimp only [hostStep]
      case bprmSetCreds.refl =>
        exact .read FailsCleanly.provOf_read fun _ =>
          .ite (failsCleanly_credAllocBlank _) (.of .zero)
      all_goals
        refine .create ?_ (fun h hl => by cases h; simp_all [Host.erase,Host.Live])
          fun s => allocFails_of_host s _
      exacts [failsCleanly_credAllocBlank _,failsCleanly_credPrepare _ _,
        failsCleanly_inodeAllocSecurity _ _,failsCleanly_msgMsgAllocSecurity _ _,
        failsCleanly_shmAllocSecurity _ _,failsCleanly_skAllocSecurity _,
        failsCleanly_sbAllocSecurity _]
    obtain ⟨he,hw,hf⟩ := hf s r s' h hr
    exact ⟨he,.inl ⟨rfl,hw⟩,hf⟩

/-- The second allocation fails: `provenance_cred_prepare` returns `-ENOMEM` and the host does
not keep credential `1`. -/
theorem failed_cred_prepare_changes_nothing :
    ∃ k k' r, bootRun (fun n => n≠1) rootCred []=.ok k ∧
      hostStep (.credPrepare 1 0 rootCred) k=.ok (r,k') ∧ r≠0 ∧
      r=-ENOMEM ∧ ((Event.credPrepare 1 0 rootCred).setup=true ∧ k.allocOk k.allocs=false ∨
        (Event.credPrepare 1 0 rootCred).Refuses k) ∧ k'.frame=k.frame := by
  obtain ⟨k,hk,-⟩ := ok_of_map (show (bootRun (fun n => n≠1) rootCred []).map
      (fun _ => ())=.ok () by decide)
  obtain ⟨⟨r,k'⟩,h,hr⟩ := ok_of_bind_map hk (show ((bootRun (fun n => n≠1) rootCred []).bind
      fun k => (hostStep (.credPrepare 1 0 rootCred) k).map (·.1))=.ok (-ENOMEM) by decide)
  have hr : r≠0 := by simp only at hr; rw [hr]; decide
  exact ⟨k,k',r,hk,h,hr,error_return_changes_nothing h hr⟩

end CamFlow.Provenance
