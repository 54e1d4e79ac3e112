import CamFlow.Ifc.Fs

namespace CamFlow.Ifc

/-- The control plane as a whole: the tasks and the tags `ifc_create_tag` has issued. -/
structure IfcSys where
  tasks : Tasks
  issued : List Tag

/-- A read or a write of one of the three control files `self`, `tag` and `process`, by the
task `pid`. `readTag` carries the tag `ifc_create_tag` returns. -/
inductive IfcReq
  | writeSelf (pid : Pid) (count : Nat) (msg : IfcTagMsg)
  | readSelf (pid : Pid) (count : Nat) (copyFails : Bool)
  | writeTag (pid : Pid)
  | readTag (pid : Pid) (count : Nat) (tag : Tag) (copyFails : Bool)
  | writeProcess (pid : Pid) (count : Nat) (msg : IfcTagMsg)
  | readProcess (pid : Pid) (count : Nat) (target : Pid) (copyFails : Bool)

section

variable (H : IfcHeader)

/-- One request, applied to the context of the requesting task. Reads change nothing. -/
def ifcStep (s : IfcSys) : IfcReq → IfcSys
  | .writeSelf p n m =>
    match s.tasks p with
    | some c => { s with tasks := Function.update s.tasks p (some (ifcWriteSelf H c n m).1) }
    | none => s
  | .readTag p n t f =>
    match s.tasks p with
    | some c =>
      ⟨Function.update s.tasks p (some (ifcReadTag H c n t f).1),
        if n<tagSize then s.issued else t::s.issued⟩
    | none => s
  | .writeProcess p n m =>
    match s.tasks p with
    | some c => { s with tasks := (ifcWriteProcess H c s.tasks n m).1 }
    | none => s
  | .readSelf .. | .writeTag _ | .readProcess .. => s

def ifcRun : IfcSys → List IfcReq → IfcSys
  | s,[] => s
  | s,r::rs => ifcRun (ifcStep H s r) rs

/-- `ifc_create_tag` returns a tag never issued before. -/
def FreshTags : IfcSys → List IfcReq → Prop
  | _,[] => True
  | s,r::rs => (∀ p n t f, r=.readTag p n t f → tagSize≤n → t ∉ s.issued) ∧ FreshTags (ifcStep H s r) rs

/-- How request `r` in state `s` puts `t` into task `p`'s set of kind `k`: `p` mints it, adds it
to its own set, or is granted it by an actor holding it in its own set of kind `k`. -/
def Grants (s : IfcSys) (r : IfcReq) (p : Pid) (k : TagType) (t : Tag) : Prop :=
  match r with
  | .readTag q n u _ => q=p ∧ u=t ∧ tagSize≤n ∧ k.isPrivilege
  | .writeSelf q _ m => q=p ∧ m.op=H.addTag ∧ H.tagType? m.tagType=some k ∧ m.tag=t
  | .writeProcess q _ m => m.pid=p ∧ m.op=H.addTag ∧ H.tagType? m.tagType=some k ∧ m.tag=t ∧
      ∃ c, s.tasks q=some c ∧ t ∈ (c.label k).tags
  | _ => False

/-- A tag a task holds after one request was held before or was put there by it. -/
theorem mem_ifcStep (s : IfcSys) (r : IfcReq) (p : Pid) (c : IfcContext) (k : TagType) (t : Tag) (hc : (ifcStep H s r).tasks p=some c)
    (ht : t ∈ (c.label k).tags) :
    (∃ c₀, s.tasks p=some c₀ ∧ t ∈ (c₀.label k).tags) ∨ Grants H s r p k t := by
  cases r with
  | writeSelf q n m =>
    rcases hq : s.tasks q with _ | cq <;> simp only [ifcStep,hq] at hc
    · exact .inl ⟨c,hc,ht⟩
    by_cases hpq : p=q
    · subst hpq
      simp only [Function.update_same,Option.some.injEq] at hc
      subst hc
      rcases mem_ifcWriteSelf H cq n m k t ht with h | ⟨ho,hm,rfl⟩
      · exact .inl ⟨cq,hq,h⟩
      · exact .inr ⟨rfl,ho,hm,rfl⟩
    · rw [Function.update_noteq hpq] at hc
      exact .inl ⟨c,hc,ht⟩
  | readTag q n u f =>
    rcases hq : s.tasks q with _ | cq <;> simp only [ifcStep,hq] at hc
    · exact .inl ⟨c,hc,ht⟩
    by_cases hpq : p=q
    · subst hpq
      simp only [Function.update_same,Option.some.injEq] at hc
      subst hc
      rcases mem_ifcReadTag H cq n u f k t ht with h | ⟨rfl,hn,hp⟩
      · exact .inl ⟨cq,hq,h⟩
      · exact .inr ⟨rfl,rfl,hn,hp⟩
    · rw [Function.update_noteq hpq] at hc
      exact .inl ⟨c,hc,ht⟩
  | writeProcess q n m =>
    rcases hq : s.tasks q with _ | cq <;> simp only [ifcStep,hq] at hc
    · exact .inl ⟨c,hc,ht⟩
    rcases mem_ifcWriteProcess H cq s.tasks n m p c k t hc ht with h | ⟨hp,ho,hm,rfl,hh⟩
    · exact .inl h
    · exact .inr ⟨hp,ho,hm,rfl,cq,hq,hh⟩
  | readSelf | writeTag | readProcess => exact .inl ⟨c,hc,ht⟩

/-- Every tag a task holds at the end of a run was held at its start, or was put there by one
request of the run, as `Grants` says. -/
theorem privilege_origin (s₀ : IfcSys) (reqs : List IfcReq) (p : Pid) (c : IfcContext)
    (k : TagType) (t : Tag) (hc : (ifcRun H s₀ reqs).tasks p=some c)
    (ht : t ∈ (c.label k).tags) :
    (∃ c₀, s₀.tasks p=some c₀ ∧ t ∈ (c₀.label k).tags) ∨
      ∃ i, ∃ h : i<reqs.length, Grants H (ifcRun H s₀ (reqs.take i)) reqs[i] p k t := by
  induction reqs generalizing s₀ with
  | nil => exact .inl ⟨c,hc,ht⟩
  | cons r rs ih =>
    rcases ih (ifcStep H s₀ r) hc with ⟨c₁,h₁,ht₁⟩ | ⟨i,hi,hg⟩
    · rcases mem_ifcStep H s₀ r p c₁ k t h₁ ht₁ with h | h
      · exact .inl h
      · exact .inr ⟨0,by simp,h⟩
    · exact .inr ⟨i+1,by simp [hi],hg⟩

/-- A request keeps every set of every task within `LABEL_MAX_SIZE` tags and free of the
sentinel. -/
theorem TasksFit.step {s : IfcSys} (hs : TasksFit H.labelMaxSize s.tasks) (r : IfcReq) :
    TasksFit H.labelMaxSize (ifcStep H s r).tasks := by
  cases r with
  | writeSelf p n m =>
    rcases hp : s.tasks p with _ | c <;> simp only [ifcStep,hp]
    · exact hs
    · exact hs.update p ((hs p c hp).writeSelf H n m)
  | readTag p n t f =>
    rcases hp : s.tasks p with _ | c <;> simp only [ifcStep,hp]
    · exact hs
    · exact hs.update p ((hs p c hp).readTag H n t f)
  | writeProcess p n m =>
    rcases hp : s.tasks p with _ | c <;> simp only [ifcStep,hp]
    · exact hs
    · exact hs.writeProcess H c n m
  | readSelf | writeTag | readProcess => exact hs

theorem TasksFit.run {s₀ : IfcSys} (h₀ : TasksFit H.labelMaxSize s₀.tasks) (reqs : List IfcReq) :
    TasksFit H.labelMaxSize (ifcRun H s₀ reqs).tasks := by
  induction reqs generalizing s₀ with
  | nil => exact h₀
  | cons r rs ih => exact ih (h₀.step H r)

/-- `c` is `c₀` with privileges added: the same secrecy and integrity sets, and every
privilege set holding at least the tags it held. -/
def IfcContext.Grows (c₀ c : IfcContext) : Prop :=
  ∀ k, (k.isPrivilege=false → c.label k=c₀.label k) ∧ ∀ t ∈ (c₀.label k).tags, t ∈ (c.label k).tags

theorem IfcContext.Grows.refl (c : IfcContext) : c.Grows c := fun _ => ⟨fun _ => rfl,fun _ => id⟩

theorem IfcContext.Grows.trans {c₀ c₁ c₂ : IfcContext} (h₁ : c₀.Grows c₁) (h₂ : c₁.Grows c₂) :
    c₀.Grows c₂ :=
  fun k => ⟨fun hk => ((h₂ k).1 hk).trans ((h₁ k).1 hk),fun t ht => (h₂ k).2 t ((h₁ k).2 t ht)⟩

/-- An insertion into a privilege set. -/
theorem IfcContext.Grows.add (cap : Nat) (c : IfcContext) (k : TagType) (hk : k.isPrivilege=true)
    (t : Tag) : c.Grows (ifcContextAdd cap c k t).1 := fun j => by
  rw [ifcContextAdd_label]
  split_ifs with hj
  · obtain ⟨rfl,-⟩ := hj
    exact ⟨fun h => (by rw [h] at hk; cases hk),fun u hu => (IfcLabel.mem_add _ _ _ _).2 (.inl hu)⟩
  · exact ⟨fun _ => rfl,fun _ => id⟩

/-- `ifc_read_tag` inserts into the four privilege sets of the caller, or changes nothing. -/
theorem IfcContext.Grows.readTag (c : IfcContext) (n : Nat) (t : Tag) (f : Bool) :
    c.Grows (ifcReadTag H c n t f).1 := by
  have g := (((Grows.add H.labelMaxSize c .secrecyP rfl t).trans
    (.add H.labelMaxSize _ .integrityP rfl t)).trans (.add H.labelMaxSize _ .secrecyN rfl t)).trans
    (.add H.labelMaxSize _ .integrityN rfl t)
  unfold ifcReadTag
  dsimp only
  split_ifs <;> first | exact .refl c | exact g

/-- `ifc_write_process` only inserts into the target's privilege set: every task's context
grows. -/
theorem ifcWriteProcess_grows (cifc : IfcContext) (tasks : Tasks) (n : Nat) (m : IfcTagMsg)
    {p : Pid} {c₀ : IfcContext} (h₀ : tasks p=some c₀) :
    ∃ c, (ifcWriteProcess H cifc tasks n m).1 p=some c ∧ c₀.Grows c := by
  rcases ifcWriteProcess_cases H cifc tasks n m with ⟨h,-⟩ | ⟨h,-⟩ | ⟨oifc,k,-,hv,hc,hg,-,h,-⟩
  · exact ⟨c₀,by rw [h]; exact h₀,.refl c₀⟩
  · exact ⟨c₀,by rw [h]; exact h₀,.refl c₀⟩
  · rw [h]
    by_cases hp : p=m.pid
    · subst hp
      rw [contextFromPid,h₀] at hc
      cases hc
      have g := IfcContext.Grows.add H.labelMaxSize c₀ k ((grantKind_eq_some H m k).1 hg).2.2 m.tag
      rw [ifcContextAdd_of_valid _ _ _ _ hv] at g
      exact ⟨_,Function.update_same _ _ _,g⟩
    · exact ⟨c₀,by rw [Function.update_noteq hp,h₀],.refl c₀⟩

/-- A request other than a write to `self` by task `p` keeps `p`, and `p`'s context only
grows. -/
theorem ifcStep_grows {s : IfcSys} {r : IfcReq} {p : Pid} {c₀ : IfcContext}
    (h₀ : s.tasks p=some c₀) (hr : ∀ n m, r≠.writeSelf p n m) :
    ∃ c, (ifcStep H s r).tasks p=some c ∧ c₀.Grows c := by
  cases r with
  | writeSelf q n m =>
    have hq : p≠q := fun e => hr n m (by rw [e])
    rcases hs : s.tasks q with _ | cq <;> simp only [ifcStep,hs]
    · exact ⟨c₀,h₀,.refl c₀⟩
    · exact ⟨c₀,by rw [Function.update_noteq hq,h₀],.refl c₀⟩
  | readTag q n t f =>
    rcases hs : s.tasks q with _ | cq <;> simp only [ifcStep,hs]
    · exact ⟨c₀,h₀,.refl c₀⟩
    by_cases hq : p=q
    · subst hq
      rw [h₀] at hs; cases hs
      exact ⟨_,Function.update_same _ _ _,.readTag H c₀ n t f⟩
    · exact ⟨c₀,by rw [Function.update_noteq hq,h₀],.refl c₀⟩
  | writeProcess q n m =>
    rcases hs : s.tasks q with _ | cq <;> simp only [ifcStep,hs]
    · exact ⟨c₀,h₀,.refl c₀⟩
    · exact ifcWriteProcess_grows H cq s.tasks n m h₀
  | readSelf | writeTag | readProcess => exact ⟨c₀,h₀,.refl c₀⟩

/-- Over a run in which task `p` writes nothing to `self`, `p` stays, its secrecy and integrity
sets stay as they were, and its privilege sets only grow. -/
theorem context_only_grows_without_self_writes (s₀ : IfcSys) (reqs : List IfcReq) {p : Pid}
    {c₀ : IfcContext} (h₀ : s₀.tasks p=some c₀) (hself : ∀ n m, IfcReq.writeSelf p n m ∉ reqs) :
    ∃ c, (ifcRun H s₀ reqs).tasks p=some c ∧ c₀.Grows c := by
  induction reqs generalizing s₀ c₀ with
  | nil => exact ⟨c₀,h₀,.refl c₀⟩
  | cons r rs ih =>
    obtain ⟨c₁,h₁,g₁⟩ := ifcStep_grows H h₀ fun n m e => hself n m (e ▸ List.mem_cons_self _ _)
    obtain ⟨c,h,g⟩ := ih (ifcStep H s₀ r) h₁ fun n m hm => hself n m (List.mem_cons_of_mem _ hm)
    exact ⟨c,h,g₁.trans g⟩

/-- Modelled from the spec: every privilege tag a task holds was minted in the run, by the task
itself or by an actor that then granted it. -/
def MinterOrigin (s₀ : IfcSys) (reqs : List IfcReq) : Prop :=
  ∀ p c k t, (ifcRun H s₀ reqs).tasks p=some c → k.isPrivilege → t ∈ (c.label k).tags →
    (∃ q n f, IfcReq.readTag q n t f ∈ reqs ∧ tagSize≤n) ∧
    ((∃ n f, IfcReq.readTag p n t f ∈ reqs ∧ tagSize≤n) ∨
      ∃ i, ∃ _ : i<reqs.length, ∃ q n m, reqs[i]=IfcReq.writeProcess q n m ∧ m.pid=p ∧
        m.op=H.addTag ∧ H.tagType? m.tagType=some k ∧ m.tag=t ∧
        ∃ cq, (ifcRun H s₀ (reqs.take i)).tasks q=some cq ∧ t ∈ (cq.label k).tags)

end

/-- Task 1 with an empty context, as at boot. -/
def bootSys : IfcSys := ⟨fun p => if p=1 then some .empty else none,[]⟩

/-- Task 1 writes `IFC_ADD_TAG`, `IFC_SECRECY_P`, tag 5 to `self`. -/
def selfGrant : IfcReq := .writeSelf 1 24 ⟨1,3,5,0⟩

/-- Through `self` a task gives itself privilege over a tag nobody minted. -/
theorem self_write_grants_unminted_privilege :
    FreshTags sampleHeader bootSys [selfGrant] ∧ ¬MinterOrigin sampleHeader bootSys [selfGrant] := by
  refine ⟨⟨by simp [selfGrant],trivial⟩,fun h => ?_⟩
  obtain ⟨⟨q,n,f,hm,-⟩,-⟩ := h 1 _ .secrecyP 5 rfl rfl (by decide)
  simp [selfGrant] at hm

/-- Task 1 mints tag 7 and then holds it in `secrecy_p`, which the origin law traces back. -/
theorem mint_privilege_origin :
    ∃ c, (ifcRun sampleHeader bootSys [.readTag 1 8 7 false]).tasks 1=some c ∧
      (7 : Tag) ∈ (c.label .secrecyP).tags ∧
      ((∃ c₀, bootSys.tasks 1=some c₀ ∧ (7 : Tag) ∈ (c₀.label .secrecyP).tags) ∨
        ∃ i, ∃ h : i<[IfcReq.readTag 1 8 7 false].length, Grants sampleHeader
          (ifcRun sampleHeader bootSys ([IfcReq.readTag 1 8 7 false].take i))
          [IfcReq.readTag 1 8 7 false][i] 1 .secrecyP 7) :=
  ⟨_,rfl,by decide,privilege_origin sampleHeader bootSys _ 1 _ .secrecyP 7 rfl (by decide)⟩

theorem bootSys_fits (cap : Nat) : TasksFit cap bootSys.tasks := fun p c h => by
  dsimp only [bootSys] at h
  split at h
  · cases h; exact IfcContext.empty_fits
  · cases h

/-- Over every run of control-plane requests that starts with every set fitting, as at boot, no
set of any task ever holds more than `LABEL_MAX_SIZE` tags or the invalid tag 0. -/
theorem labels_stay_bounded_and_valid (H : IfcHeader) (s₀ : IfcSys) (reqs : List IfcReq)
    (h₀ : TasksFit H.labelMaxSize s₀.tasks) (p : Pid) (c : IfcContext) (k : TagType)
    (hc : (ifcRun H s₀ reqs).tasks p=some c) :
    (c.label k).tags.length ≤ H.labelMaxSize ∧ ∀ t ∈ (c.label k).tags, ifcTagValid t=true :=
  h₀.run H reqs p c hc k

/-- After task 1 mints tag 7 from boot, its `secrecy_p` set fits. -/
theorem minted_tag_fits :
    ∃ c, (ifcRun sampleHeader bootSys [.readTag 1 8 7 false]).tasks 1=some c ∧
      (c.label .secrecyP).tags.length ≤ sampleHeader.labelMaxSize ∧
      ∀ t ∈ (c.label .secrecyP).tags, ifcTagValid t=true :=
  ⟨_,rfl,labels_stay_bounded_and_valid sampleHeader bootSys [.readTag 1 8 7 false] (bootSys_fits _) 1 _
    .secrecyP rfl⟩

/-- Task 1 mints tag 7: it writes nothing to `self`, so its context only grows. -/
theorem mint_keeps_context :
    bootSys.tasks 1=some .empty ∧ (∀ n m, IfcReq.writeSelf 1 n m ∉ [IfcReq.readTag 1 8 7 false]) ∧
      ∃ c, (ifcRun sampleHeader bootSys [.readTag 1 8 7 false]).tasks 1=some c ∧
        IfcContext.empty.Grows c :=
  ⟨rfl,by simp,context_only_grows_without_self_writes sampleHeader bootSys _ rfl (by simp)⟩

end CamFlow.Ifc
