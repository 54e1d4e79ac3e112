import CamFlow.Ifc.Fs

namespace CamFlow.Ifc

/-- Whether the set takes the tag: it holds it already or has room for it. -/
def IfcLabel.takes (cap : Nat) (l : IfcLabel) (t : Tag) : Bool :=
  decide (t ∈ l.tags) || decide (l.tags.length<cap)

theorem IfcLabel.add_snd_eq (cap : Nat) (l : IfcLabel) (t : Tag) :
    (l.add cap t).2=if l.takes cap t then 0 else -ENOMEM := by
  unfold IfcLabel.add IfcLabel.takes
  by_cases h : t ∈ l.tags
  · simp [h]
  · rcases Nat.lt_or_ge l.tags.length cap with hc | hc
    · simp [h,hc,Nat.not_le.2 hc]
    · simp [h,hc,Nat.not_lt.2 hc]

theorem cOr_zero_code (b : Bool) : cOr 0 (if b then 0 else -ENOMEM)=if b then 0 else -ENOMEM := by
  cases b <;> decide

theorem cOr_codes (a b : Bool) :
    cOr (if a then 0 else -ENOMEM) (if b then 0 else -ENOMEM)=if a && b then 0 else -ENOMEM := by
  cases a <;> cases b <;> decide

theorem cOr_einval : cOr (cOr (cOr (cOr 0 (-EINVAL)) (-EINVAL)) (-EINVAL)) (-EINVAL)=-EINVAL := by
  decide

theorem TagType.mem_privileges {k : TagType} (hk : k.isPrivilege=true) :
    k ∈ [TagType.secrecyP,.integrityP,.secrecyN,.integrityN] := by
  cases k <;> simp_all [TagType.isPrivilege]

section

variable (H : IfcHeader)

/-- A short buffer is refused before a tag is minted. -/
theorem ifcReadTag_short (cifc : IfcContext) (count : Nat) (tag : Tag) (copyFails : Bool)
    (hc : count<tagSize) : ifcReadTag H cifc count tag copyFails=(cifc,-ENOMEM) := if_pos hc

/-- The sentinel is refused by each of the four insertions alike. -/
theorem ifcReadTag_invalid (cifc : IfcContext) (count : Nat) (tag : Tag) (copyFails : Bool)
    (hc : tagSize ≤ count) (hv : ifcTagValid tag=false) :
    ifcReadTag H cifc count tag copyFails=(cifc,-EINVAL) := by
  have hadd (c : IfcContext) (k : TagType) : ifcContextAdd H.labelMaxSize c k tag=(c,-EINVAL) := by
    simp [ifcContextAdd,hv]
  simp only [ifcReadTag,if_neg (Nat.not_lt.2 hc),ifcAddPrivilege,hadd,cOr_einval]
  simp [EINVAL]

/-- Past the size check each privilege set takes the tag when it can, whatever the others did. -/
theorem ifcReadTag_label (cifc : IfcContext) (count : Nat) (tag : Tag) (copyFails : Bool)
    (hc : tagSize ≤ count) (k : TagType) :
    (ifcReadTag H cifc count tag copyFails).1.label k=
      if k.isPrivilege ∧ ifcTagValid tag then ((cifc.label k).add H.labelMaxSize tag).1
      else cifc.label k := by
  unfold ifcReadTag
  simp only [if_neg (Nat.not_lt.2 hc),apply_ite Prod.fst,ite_self,ifcAddPrivilege,
    ifcContextAdd_label]
  cases k <;> simp [TagType.isPrivilege]

/-- Past the size check a valid tag gives `-ENOMEM` when some privilege set is full, else
`-EAGAIN` when the copy fails, else `sizeof(tag_t)`. -/
theorem ifcReadTag_snd (cifc : IfcContext) (count : Nat) (tag : Tag) (copyFails : Bool)
    (hc : tagSize ≤ count) (hv : ifcTagValid tag=true) :
    (ifcReadTag H cifc count tag copyFails).2=
      if [TagType.secrecyP,.integrityP,.secrecyN,.integrityN].all
          fun k => (cifc.label k).takes H.labelMaxSize tag then
        (if copyFails then -EAGAIN else tagSize)
      else -ENOMEM := by
  unfold ifcReadTag
  simp only [if_neg (Nat.not_lt.2 hc),apply_ite Prod.snd,ifcAddPrivilege,
    ifcContextAdd_of_valid _ _ _ _ hv,IfcContext.label_setLabel,IfcLabel.add_snd_eq,cOr_zero_code,
    cOr_codes,List.all_cons,List.all_nil,Bool.and_true,Bool.and_assoc,reduceCtorEq,if_false]
  generalize (_ && _)=b
  cases b <;> simp [ENOMEM]

/-- `ifc_read_tag` undoes nothing: when a privilege set is full or the copy fails it returns a
negative value, yet every set that had room keeps the minted tag. -/
theorem read_tag_failure_keeps_grant (cifc : IfcContext) (count : Nat) (tag : Tag)
    (copyFails : Bool) (k : TagType) (hc : tagSize ≤ count) (hv : ifcTagValid tag=true)
    (hk : k.isPrivilege=true) (hfresh : tag ∉ (cifc.label k).tags)
    (hroom : (cifc.label k).tags.length<H.labelMaxSize)
    (hfail : copyFails=true ∨ ∃ j, j.isPrivilege=true ∧ tag ∉ (cifc.label j).tags ∧
      H.labelMaxSize ≤ (cifc.label j).tags.length) :
    (ifcReadTag H cifc count tag copyFails).2<0 ∧ (ifcReadTag H cifc count tag copyFails).1≠cifc ∧
      tag ∈ ((ifcReadTag H cifc count tag copyFails).1.label k).tags := by
  have hmem : tag ∈ ((ifcReadTag H cifc count tag copyFails).1.label k).tags := by
    rw [ifcReadTag_label H cifc count tag copyFails hc,if_pos ⟨hk,hv⟩,IfcLabel.mem_add]
    exact .inr ⟨rfl,hroom⟩
  refine ⟨?_,fun he => hfresh (he ▸ hmem),hmem⟩
  rw [ifcReadTag_snd H cifc count tag copyFails hc hv]
  split_ifs with hall hcf
  · simp [EAGAIN]
  · exfalso
    obtain hcf' | ⟨j,hj,hn,hl⟩ := hfail
    · exact hcf hcf'
    have := List.all_eq_true.1 hall j (TagType.mem_privileges hj)
    simp only [IfcLabel.takes,hn,decide_False,Bool.false_or,decide_eq_true_eq] at this
    omega
  · simp [ENOMEM]

end

/-- The caller's context after boot, with no tag. -/
def emptyCaller : IfcContext := .empty

/-- The constants of `sampleHeader` but sets of capacity one. -/
def smallHeader : IfcHeader := { sampleHeader with labelMaxSize := 1 }

/-- A caller whose `integrity_p` set of capacity one is full. -/
def fullIntegrityP : IfcContext := { IfcContext.empty with integrityP := ⟨[3],List.nodup_singleton 3⟩ }

/-- Two failing reads of tag 7, a failed copy and a full `integrity_p` set: each returns a
negative value and leaves the tag in a privilege set. -/
theorem read_tag_failures_keep_grant :
    ((ifcReadTag sampleHeader emptyCaller 8 7 true).2<0 ∧
      (ifcReadTag sampleHeader emptyCaller 8 7 true).1≠emptyCaller ∧
      (7 : Tag) ∈ ((ifcReadTag sampleHeader emptyCaller 8 7 true).1.label .integrityN).tags) ∧
    ((ifcReadTag smallHeader fullIntegrityP 8 7 false).2<0 ∧
      (ifcReadTag smallHeader fullIntegrityP 8 7 false).1≠fullIntegrityP ∧
      (7 : Tag) ∈ ((ifcReadTag smallHeader fullIntegrityP 8 7 false).1.label .secrecyP).tags) :=
  ⟨read_tag_failure_keeps_grant sampleHeader emptyCaller 8 7 true .integrityN (by decide)
      (by decide) rfl (by decide) (by decide) (.inl rfl),
    read_tag_failure_keeps_grant smallHeader fullIntegrityP 8 7 false .secrecyP (by decide)
      (by decide) rfl (by decide) (by decide) (.inr ⟨.integrityP,rfl,by decide,by decide⟩)⟩

section

variable (H : IfcHeader)

/-- A short message, the sentinel, or a tag type that names no kind: the context is left as it
was and a negative value returned. -/
theorem ifcWriteSelf_refused (cifc : IfcContext) (count : Nat) (msg : IfcTagMsg)
    (h : count<H.tagMsgSize ∨ ifcTagValid msg.tag=false ∨ H.tagType? msg.tagType=none) :
    (ifcWriteSelf H cifc count msg).1=cifc ∧ (ifcWriteSelf H cifc count msg).2<0 := by
  rw [ifcWriteSelf_eq]
  rcases h with h | h | h
  · simp [h,ENOMEM]
  · by_cases hc : count<H.tagMsgSize <;> simp [hc,h,ENOMEM,EINVAL]
  · by_cases hc : count<H.tagMsgSize <;> by_cases hv : ifcTagValid msg.tag <;>
      simp [hc,hv,h,ENOMEM,EINVAL]

/-- A whole message with a valid tag and a known kind: an `IFC_ADD_TAG` goes through the
insertion, any other operation code through the removal, which always succeeds. -/
theorem ifcWriteSelf_of_code (cifc : IfcContext) (count : Nat) (msg : IfcTagMsg) (k : TagType)
    (hc : H.tagMsgSize ≤ count) (hv : ifcTagValid msg.tag=true) (hk : msg.tagType=H.code k) :
    ifcWriteSelf H cifc count msg=
      if msg.op=H.addTag then
        (if (ifcContextAdd H.labelMaxSize cifc k msg.tag).2=0 then
          ((ifcContextAdd H.labelMaxSize cifc k msg.tag).1,(H.tagMsgSize : Int))
        else ifcContextAdd H.labelMaxSize cifc k msg.tag)
      else (cifc.setLabel k ((cifc.label k).remove msg.tag),(H.tagMsgSize : Int)) := by
  rw [ifcWriteSelf_eq]
  simp only [if_neg (Nat.not_lt.2 hc),hv,Bool.not_true,Bool.false_eq_true,if_false,hk,
    IfcHeader.tagType?_code]
  split_ifs <;> simp_all [ifcContextRemove]

/-- Outside `(k, t)` an `IFC_ADD_TAG` write of `t` to the set of kind `k` changes no membership,
whether or not it succeeds. -/
theorem mem_ifcWriteSelf_add (cifc : IfcContext) (count : Nat) (k : TagType) (t : Tag) (p : Pid)
    (j : TagType) (u : Tag) (h : j≠k ∨ u≠t) :
    u ∈ ((ifcWriteSelf H cifc count ⟨H.addTag,H.code k,t,p⟩).1.label j).tags ↔
      u ∈ (cifc.label j).tags := by
  by_cases hc : count<H.tagMsgSize
  · rw [(ifcWriteSelf_refused H cifc count _ (.inl hc)).1]
  cases hv : ifcTagValid t
  · rw [(ifcWriteSelf_refused H cifc count _ (.inr (.inl hv))).1]
  rw [ifcWriteSelf_of_code H cifc count _ k (Nat.not_lt.1 hc) hv rfl,if_pos rfl]
  simp only [apply_ite Prod.fst,ite_self,ifcContextAdd_label,hv,and_true]
  split_ifs with hj
  · subst hj
    rw [IfcLabel.mem_add]
    have hu : u≠t := h.resolve_left (not_not.2 rfl)
    exact ⟨fun h' => h'.resolve_right fun h'' => hu h''.1,.inl⟩
  · rfl

/-- The removal a non-`IFC_ADD_TAG` write of a whole message makes, set by set. -/
theorem ifcWriteSelf_remove_label (cifc : IfcContext) (count : Nat) (op : Nat) (k : TagType)
    (t : Tag) (p : Pid) (hc : H.tagMsgSize ≤ count) (hv : ifcTagValid t=true) (hop : op≠H.addTag)
    (j : TagType) :
    (ifcWriteSelf H cifc count ⟨op,H.code k,t,p⟩).1.label j=
      if j=k then (cifc.label k).remove t else cifc.label j := by
  rw [ifcWriteSelf_of_code H cifc count _ k hc hv rfl,if_neg hop,IfcContext.label_setLabel]

/-- Adding a valid tag `t` to the set of kind `k`, then removing it (any operation but
`IFC_ADD_TAG`), leaves `t` out of that set and every other membership as it was. -/
theorem write_self_add_then_remove (cifc : IfcContext) (k : TagType) (t : Tag)
    (hv : ifcTagValid t=true) (count₁ count₂ : Nat) (h₂ : H.tagMsgSize ≤ count₂) (op : Nat)
    (hop : op≠H.addTag) (pid₁ pid₂ : Pid) :
    let c := (ifcWriteSelf H (ifcWriteSelf H cifc count₁ ⟨H.addTag,H.code k,t,pid₁⟩).1 count₂
      ⟨op,H.code k,t,pid₂⟩).1
    t ∉ (c.label k).tags ∧ ∀ j u, j≠k ∨ u≠t → (u ∈ (c.label j).tags ↔ u ∈ (cifc.label j).tags) := by
  dsimp only
  refine ⟨?_,fun j u h => ?_⟩ <;> rw [ifcWriteSelf_remove_label H _ count₂ op k t pid₂ h₂ hv hop]
  · rw [if_pos rfl,IfcLabel.mem_remove]
    exact fun h' => h'.1 rfl
  · rw [← mem_ifcWriteSelf_add H cifc count₁ k t pid₁ j u h]
    split_ifs with hj
    · subst hj
      rw [IfcLabel.mem_remove]
      exact ⟨fun h' => h'.2,fun h' => ⟨h.resolve_left (not_not.2 rfl),h'⟩⟩
    · rfl

/-- Tag 5 added to, then removed from, the secrecy set of an empty caller. -/
theorem add_then_remove_five :
    let c := (ifcWriteSelf sampleHeader (ifcWriteSelf sampleHeader emptyCaller 24
      ⟨sampleHeader.addTag,sampleHeader.code .secrecy,5,0⟩).1 24 ⟨2,sampleHeader.code .secrecy,5,0⟩).1
    (5 : Tag) ∉ (c.label .secrecy).tags ∧ ∀ j u, j≠.secrecy ∨ u≠5 →
      (u ∈ (c.label j).tags ↔ u ∈ (emptyCaller.label j).tags) :=
  write_self_add_then_remove sampleHeader emptyCaller .secrecy 5 (by decide) 24 24 (by decide) 2
    (by decide) 0 0

/-- `ifc_write_self` never checks the operation: on a whole message with a valid tag of a known
kind, every operation code but `IFC_ADD_TAG` removes the tag and reports success. -/
theorem write_self_removes_on_any_other_op (cifc : IfcContext) (count : Nat) (msg : IfcTagMsg)
    (k : TagType) (hc : H.tagMsgSize ≤ count) (hv : ifcTagValid msg.tag=true)
    (hk : msg.tagType=H.code k) (hop : msg.op≠H.addTag) :
    ifcWriteSelf H cifc count msg=
      (cifc.setLabel k ((cifc.label k).remove msg.tag),(H.tagMsgSize : Int)) := by
  rw [ifcWriteSelf_of_code H cifc count msg k hc hv hk,if_neg hop]

end

/-- A caller holding tag 5 in its secrecy set. -/
def secrecyFive : IfcContext := { IfcContext.empty with secrecy := ⟨[5],List.nodup_singleton 5⟩ }

/-- Operation codes 2 and 3: neither is `IFC_ADD_TAG`, and at most one can be `IFC_REMOVE_TAG`.
Each strips tag 5 from the caller's secrecy set and reports success. -/
theorem unknown_ops_remove_tag :
    ifcWriteSelf sampleHeader secrecyFive 24 ⟨2,1,5,0⟩=(emptyCaller,24) ∧
    ifcWriteSelf sampleHeader secrecyFive 24 ⟨3,1,5,0⟩=(emptyCaller,24) :=
  ⟨(write_self_removes_on_any_other_op sampleHeader secrecyFive 24 _ .secrecy (by decide)
      (by decide) rfl (by decide)).trans (by decide),
    (write_self_removes_on_any_other_op sampleHeader secrecyFive 24 _ .secrecy (by decide)
      (by decide) rfl (by decide)).trans (by decide)⟩

end CamFlow.Ifc
