import CamFlow.Ifc.Label

namespace CamFlow.Ifc

/-- The IFC context of each pid's credential, one credential per pid: `none` when
`find_task_by_vpid` finds no task or the credential carries no context. -/
abbrev Tasks := Pid → Option IfcContext

def contextFromPid (tasks : Tasks) (pid : Pid) : Option IfcContext := tasks pid

/-- Every task's context fits. -/
def TasksFit (cap : Nat) (tasks : Tasks) : Prop := ∀ p c, tasks p=some c → c.Fits cap

theorem TasksFit.update {cap : Nat} {tasks : Tasks} (ht : TasksFit cap tasks) (p : Pid)
    {c : IfcContext} (hc : c.Fits cap) : TasksFit cap (Function.update tasks p (some c)) := by
  intro q c' hq
  by_cases e : q=p
  · subst e; rw [Function.update_same,Option.some.injEq] at hq; exact hq ▸ hc
  · rw [Function.update_noteq e] at hq; exact ht q c' hq

/-- `rv |= e` on a C `int`. -/
def cOr (a b : Int) : Int := (BitVec.ofInt 32 a ||| BitVec.ofInt 32 b).toInt

/-- Modelled from the spec: `sizeof(tag_t)`, with `tag_t` a 64-bit integer. -/
def tagSize : Nat := 8

section

variable (H : IfcHeader)

/-- `ifc_write_self`: one `switch` on the tag type for `IFC_ADD_TAG` and one for every other
operation; a tag type that matches no case leaves `rv` at `-EINVAL`. -/
def ifcWriteSelf (cifc : IfcContext) (count : Nat) (msg : IfcTagMsg) : IfcContext × Int :=
  if count<H.tagMsgSize then (cifc,-ENOMEM)
  else if !ifcTagValid msg.tag then (cifc,-EINVAL)
  else
    let r : IfcContext × Int :=
      if msg.op=H.addTag then
        match H.tagType? msg.tagType with
        | some .secrecy => ifcAddTag H.labelMaxSize cifc .secrecy msg.tag
        | some .integrity => ifcAddTag H.labelMaxSize cifc .integrity msg.tag
        | some .secrecyP => ifcAddPrivilege H.labelMaxSize cifc .secrecyP msg.tag
        | some .integrityP => ifcAddPrivilege H.labelMaxSize cifc .integrityP msg.tag
        | some .secrecyN => ifcAddPrivilege H.labelMaxSize cifc .secrecyN msg.tag
        | some .integrityN => ifcAddPrivilege H.labelMaxSize cifc .integrityN msg.tag
        | none => (cifc,-EINVAL)
      else
        match H.tagType? msg.tagType with
        | some .secrecy => ifcRemoveTag cifc .secrecy msg.tag
        | some .integrity => ifcRemoveTag cifc .integrity msg.tag
        | some .secrecyP => ifcRemovePrivilege cifc .secrecyP msg.tag
        | some .integrityP => ifcRemovePrivilege cifc .integrityP msg.tag
        | some .secrecyN => ifcRemovePrivilege cifc .secrecyN msg.tag
        | some .integrityN => ifcRemovePrivilege cifc .integrityN msg.tag
        | none => (cifc,-EINVAL)
    if r.2=0 then (r.1,H.tagMsgSize) else r

/-- `ifc_read_self`: the value returned and the context `copy_to_user` hands to the caller. -/
def ifcReadSelf (cifc : IfcContext) (count : Nat) (copyFails : Bool) : Int × Option IfcContext :=
  if count<H.contextSize then (-ENOMEM,none)
  else if copyFails then (-EAGAIN,none)
  else (H.contextSize,some cifc)

def ifcWriteTag : Int := -EPERM

/-- `ifc_read_tag`, given the tag `ifc_create_tag` returns and whether `copy_to_user` fails.
The four insertions run whatever the earlier ones returned and their results are or-ed. -/
def ifcReadTag (cifc : IfcContext) (count : Nat) (tag : Tag) (copyFails : Bool) : IfcContext × Int :=
  if count<tagSize then (cifc,-ENOMEM)
  else
    let r1 := ifcAddPrivilege H.labelMaxSize cifc .secrecyP tag
    let r2 := ifcAddPrivilege H.labelMaxSize r1.1 .integrityP tag
    let r3 := ifcAddPrivilege H.labelMaxSize r2.1 .secrecyN tag
    let r4 := ifcAddPrivilege H.labelMaxSize r3.1 .integrityN tag
    let rv := cOr (cOr (cOr (cOr 0 r1.2) r2.2) r3.2) r4.2
    if rv<0 then (r4.1,rv)
    else if copyFails then (r4.1,-EAGAIN)
    else (r4.1,tagSize)

/-- One `case` of the `switch` in `ifc_write_process`: the actor must hold the tag in `held`,
its own set of kind `k`, before the tag is added to the target's set of kind `k`. -/
def ifcGrant (tasks : Tasks) (msg : IfcTagMsg) (oifc : IfcContext) (k : TagType)
    (held : IfcLabel) : Tasks × Int :=
  if !ifcContainsValue held msg.tag then (tasks,-EPERM)
  else
    let r := ifcAddPrivilege H.labelMaxSize oifc k msg.tag
    (Function.update tasks msg.pid (some r.1),if r.2=0 then H.tagMsgSize else r.2)

/-- `ifc_write_process`: the actor `cifc` grants a privilege tag to the task `msg->pid`. -/
def ifcWriteProcess (cifc : IfcContext) (tasks : Tasks) (count : Nat) (msg : IfcTagMsg) :
    Tasks × Int :=
  if count<H.tagMsgSize then (tasks,-ENOMEM)
  else if !ifcTagValid msg.tag then (tasks,-EINVAL)
  else
    match contextFromPid tasks msg.pid with
    | none => (tasks,-EINVAL)
    | some oifc =>
      if msg.op=H.addTag then
        match H.tagType? msg.tagType with
        | some .secrecyP => ifcGrant H tasks msg oifc .secrecyP cifc.secrecyP
        | some .integrityP => ifcGrant H tasks msg oifc .integrityP cifc.integrityP
        | some .secrecyN => ifcGrant H tasks msg oifc .secrecyN cifc.secrecyN
        | some .integrityN => ifcGrant H tasks msg oifc .integrityN cifc.integrityN
        | _ => (tasks,-EINVAL)
      else (tasks,-EINVAL)

/-- `ifc_read_process`: the value returned and the context copied into `msg->context`. -/
def ifcReadProcess (tasks : Tasks) (count : Nat) (pid : Pid) (copyFails : Bool) :
    Int × Option IfcContext :=
  if count<H.contextMsgSize then (-ENOMEM,none)
  else
    match contextFromPid tasks pid with
    | none => (-EINVAL,none)
    | some oifc => if copyFails then (-EAGAIN,none) else (H.contextMsgSize,some oifc)

/-- The twelve `case`s of `ifc_write_self` are one: each adds to or removes from the set of the
kind it names. -/
theorem ifcWriteSelf_eq (cifc : IfcContext) (count : Nat) (msg : IfcTagMsg) :
    ifcWriteSelf H cifc count msg=
      if count<H.tagMsgSize then (cifc,-ENOMEM)
      else if !ifcTagValid msg.tag then (cifc,-EINVAL)
      else
        let r : IfcContext × Int :=
          match H.tagType? msg.tagType with
          | some k => if msg.op=H.addTag then ifcContextAdd H.labelMaxSize cifc k msg.tag
              else ifcContextRemove cifc k msg.tag
          | none => (cifc,-EINVAL)
        if r.2=0 then (r.1,H.tagMsgSize) else r := by
  unfold ifcWriteSelf
  split_ifs <;> try rfl
  all_goals rcases H.tagType? msg.tagType with _ | k
  all_goals try rfl
  all_goals cases k <;> simp [*,ifcAddTag,ifcAddPrivilege,ifcRemoveTag,ifcRemovePrivilege]

/-- A tag enters a set of the caller's context through `ifc_write_self` only by an
`IFC_ADD_TAG` request for that set and that tag. -/
theorem mem_ifcWriteSelf (cifc : IfcContext) (count : Nat) (msg : IfcTagMsg) (k : TagType)
    (t : Tag) (ht : t ∈ ((ifcWriteSelf H cifc count msg).1.label k).tags) :
    t ∈ (cifc.label k).tags ∨ (msg.op=H.addTag ∧ H.tagType? msg.tagType=some k ∧ msg.tag=t) := by
  rw [ifcWriteSelf_eq] at ht
  split_ifs at ht with h1 h2 ho
  · exact .inl ht
  · exact .inl ht
  all_goals simp only [apply_ite Prod.fst,ite_self] at ht
  all_goals rcases hk : H.tagType? msg.tagType with _ | j <;> simp only [hk] at ht
  · exact .inl ht
  · rcases mem_ifcContextAdd _ _ _ _ _ _ ht with h | ⟨rfl,rfl⟩
    · exact .inl h
    · exact .inr ⟨ho,rfl,rfl⟩
  · exact .inl ht
  · simp only [ifcContextRemove,IfcContext.label_setLabel] at ht
    split_ifs at ht with hj
    · subst hj; exact .inl ((IfcLabel.mem_remove _ _ _).mp ht).2
    · exact .inl ht

/-- `ifc_read_tag` adds only the minted tag, and only to the four privilege sets. -/
theorem mem_ifcReadTag (cifc : IfcContext) (count : Nat) (tag : Tag) (copyFails : Bool)
    (k : TagType) (t : Tag) (ht : t ∈ ((ifcReadTag H cifc count tag copyFails).1.label k).tags) :
    t ∈ (cifc.label k).tags ∨ (t=tag ∧ tagSize≤count ∧ k.isPrivilege) := by
  unfold ifcReadTag at ht
  by_cases hc : count<tagSize
  · rw [if_pos hc] at ht; exact .inl ht
  have hc' : tagSize≤count := Nat.not_lt.mp hc
  simp only [if_neg hc,apply_ite Prod.fst,ite_self,ifcAddPrivilege] at ht
  rcases mem_ifcContextAdd _ _ _ _ _ _ ht with h | ⟨rfl,rfl⟩
  · rcases mem_ifcContextAdd _ _ _ _ _ _ h with h | ⟨rfl,rfl⟩
    · rcases mem_ifcContextAdd _ _ _ _ _ _ h with h | ⟨rfl,rfl⟩
      · rcases mem_ifcContextAdd _ _ _ _ _ _ h with h | ⟨rfl,rfl⟩
        · exact .inl h
        · exact .inr ⟨rfl,hc',rfl⟩
      · exact .inr ⟨rfl,hc',rfl⟩
    · exact .inr ⟨rfl,hc',rfl⟩
  · exact .inr ⟨rfl,hc',rfl⟩

/-- The kind an `IFC_ADD_TAG` message asks `ifc_write_process` to grant, if it is one of the
four privilege kinds the `switch` handles. -/
def grantKind (msg : IfcTagMsg) : Option TagType :=
  if msg.op=H.addTag then (H.tagType? msg.tagType).filter TagType.isPrivilege else none

/-- The four `case`s of `ifc_write_process` are one: each checks the actor's set of the kind it
grants. -/
theorem ifcWriteProcess_eq (cifc : IfcContext) (tasks : Tasks) (count : Nat) (msg : IfcTagMsg) :
    ifcWriteProcess H cifc tasks count msg=
      if count<H.tagMsgSize then (tasks,-ENOMEM)
      else if !ifcTagValid msg.tag then (tasks,-EINVAL)
      else
        match contextFromPid tasks msg.pid,grantKind H msg with
        | some oifc,some k => ifcGrant H tasks msg oifc k (cifc.label k)
        | _,_ => (tasks,-EINVAL) := by
  unfold ifcWriteProcess grantKind
  split_ifs <;> try rfl
  all_goals rcases contextFromPid tasks msg.pid with _ | oifc <;> dsimp only
  rcases H.tagType? msg.tagType with _ | k
  · rfl
  · cases k <;> rfl

theorem grantKind_eq_some (msg : IfcTagMsg) (k : TagType) :
    grantKind H msg=some k ↔ msg.op=H.addTag ∧ H.tagType? msg.tagType=some k ∧ k.isPrivilege := by
  unfold grantKind
  split_ifs with h <;> simp [h,and_comm]

/-- The three ways `ifc_write_process` ends: refused before the privilege check, refused by it
with `-EPERM`, or past it, with the target's set of the granted kind updated. -/
theorem ifcWriteProcess_cases (cifc : IfcContext) (tasks : Tasks) (count : Nat) (msg : IfcTagMsg) :
    ((ifcWriteProcess H cifc tasks count msg).1=tasks ∧ (ifcWriteProcess H cifc tasks count msg).2<0 ∧
      (ifcWriteProcess H cifc tasks count msg).2≠-EPERM ∧
      ¬(H.tagMsgSize≤count ∧ ifcTagValid msg.tag ∧ (contextFromPid tasks msg.pid).isSome ∧
        (grantKind H msg).isSome)) ∨
    (ifcWriteProcess H cifc tasks count msg=(tasks,-EPERM) ∧ H.tagMsgSize≤count ∧
      ifcTagValid msg.tag ∧ (contextFromPid tasks msg.pid).isSome ∧
      ∃ k, grantKind H msg=some k ∧ msg.tag ∉ (cifc.label k).tags) ∨
    (∃ oifc k, H.tagMsgSize≤count ∧ ifcTagValid msg.tag ∧ contextFromPid tasks msg.pid=some oifc ∧
      grantKind H msg=some k ∧ msg.tag ∈ (cifc.label k).tags ∧
      (ifcWriteProcess H cifc tasks count msg).1=Function.update tasks msg.pid
        (some (oifc.setLabel k ((oifc.label k).add H.labelMaxSize msg.tag).1)) ∧
      (ifcWriteProcess H cifc tasks count msg).2≠-EPERM) := by
  rw [ifcWriteProcess_eq]
  by_cases hc : count<H.tagMsgSize
  · simp [hc,Nat.not_le.mpr hc,ENOMEM,EPERM]
  have hs : H.tagMsgSize≤count := Nat.not_lt.mp hc
  by_cases hv : ifcTagValid msg.tag
  swap
  · simp [hc,hv,EINVAL,EPERM]
  rcases hctx : contextFromPid tasks msg.pid with _ | oifc
  · simp [hc,hv,EINVAL,EPERM]
  rcases hg : grantKind H msg with _ | k
  · simp [hc,hv,EINVAL,EPERM]
  rw [if_neg hc,if_neg (by simp [hv])]
  simp only [ifcGrant]
  by_cases hm : msg.tag ∈ (cifc.label k).tags
  · refine .inr (.inr ⟨oifc,k,hs,hv,rfl,rfl,hm,?_⟩)
    have hadd := IfcLabel.add_snd H.labelMaxSize (oifc.label k) msg.tag
    rcases hadd with h | ⟨h,-⟩ <;>
      simp [ifcContainsValue,hm,ifcAddPrivilege,ifcContextAdd_of_valid _ _ _ _ hv,h,ENOMEM,EPERM]
  · exact .inr (.inl ⟨by simp [ifcContainsValue,hm],hs,hv,rfl,k,rfl,hm⟩)

/-- When `ifc_write_process` may change a context: a whole message, a valid tag, a known pid,
`IFC_ADD_TAG` of a privilege kind, and the actor holding the tag in its set of that kind. -/
def WriteProcessAllowed (cifc : IfcContext) (tasks : Tasks) (count : Nat) (msg : IfcTagMsg) :
    Prop :=
  H.tagMsgSize≤count ∧ ifcTagValid msg.tag ∧ (contextFromPid tasks msg.pid).isSome ∧
    msg.op=H.addTag ∧ ∃ k, H.tagType? msg.tagType=some k ∧ k.isPrivilege ∧ msg.tag ∈ (cifc.label k).tags

theorem ifcWriteProcess_fst (cifc : IfcContext) (tasks : Tasks) (count : Nat) (msg : IfcTagMsg) :
    (ifcWriteProcess H cifc tasks count msg).1=tasks ∨
      (WriteProcessAllowed H cifc tasks count msg ∧ ∃ oifc k,
        contextFromPid tasks msg.pid=some oifc ∧ H.tagType? msg.tagType=some k ∧
        (ifcWriteProcess H cifc tasks count msg).1=Function.update tasks msg.pid
          (some (oifc.setLabel k ((oifc.label k).add H.labelMaxSize msg.tag).1))) := by
  rcases ifcWriteProcess_cases H cifc tasks count msg with ⟨h,-⟩ | ⟨h,-⟩ | ⟨oifc,k,hs,hv,hc,hg,hm,h,-⟩
  · exact .inl h
  · exact .inl (by rw [h])
  · obtain ⟨ho,hk,hp⟩ := (grantKind_eq_some H msg k).mp hg
    exact .inr ⟨⟨hs,hv,by simp [hc],ho,k,hk,hp,hm⟩,oifc,k,hc,hk,h⟩

/-- A tag enters a task's set through `ifc_write_process` only when that task is the target
and the actor holds the tag in its own set of the same kind. -/
theorem mem_ifcWriteProcess (cifc : IfcContext) (tasks : Tasks) (count : Nat) (msg : IfcTagMsg)
    (p : Pid) (c : IfcContext) (k : TagType) (t : Tag)
    (hp : (ifcWriteProcess H cifc tasks count msg).1 p=some c) (ht : t ∈ (c.label k).tags) :
    (∃ c₀, tasks p=some c₀ ∧ t ∈ (c₀.label k).tags) ∨
      (msg.pid=p ∧ msg.op=H.addTag ∧ H.tagType? msg.tagType=some k ∧ msg.tag=t ∧
        t ∈ (cifc.label k).tags) := by
  rcases ifcWriteProcess_fst H cifc tasks count msg with h | ⟨⟨-,-,-,ho,j,hj,-,hm⟩,oifc,j',hc,hj',h⟩
  · exact .inl ⟨c,h ▸ hp,ht⟩
  rw [hj] at hj'; cases hj'
  rw [h] at hp
  by_cases hpid : p=msg.pid
  · subst hpid
    simp only [Function.update_same,Option.some.injEq] at hp
    subst hp
    rw [IfcContext.label_setLabel] at ht
    split_ifs at ht with hk
    · subst hk
      rcases (IfcLabel.mem_add _ _ _ _).mp ht with h | ⟨rfl,-⟩
      · exact .inl ⟨oifc,hc,h⟩
      · exact .inr ⟨rfl,ho,hj,rfl,hm⟩
    · exact .inl ⟨oifc,hc,ht⟩
  · rw [Function.update_noteq hpid] at hp
    exact .inl ⟨c,hp,ht⟩

/-- An allowed request adds the tag to the target's set of the granted kind and returns
`sizeof(struct ifc_tag_msg)`, or `-ENOMEM` when that set is full. -/
theorem ifcWriteProcess_of_allowed {cifc : IfcContext} {tasks : Tasks} {count : Nat}
    {msg : IfcTagMsg} (h : WriteProcessAllowed H cifc tasks count msg) :
    ∃ oifc k, contextFromPid tasks msg.pid=some oifc ∧ H.tagType? msg.tagType=some k ∧
      ifcWriteProcess H cifc tasks count msg=(Function.update tasks msg.pid
          (some (oifc.setLabel k ((oifc.label k).add H.labelMaxSize msg.tag).1)),
        if ((oifc.label k).add H.labelMaxSize msg.tag).2=0 then (H.tagMsgSize : Int) else -ENOMEM) := by
  obtain ⟨hs,hv,hc,ho,k,hk,hp,hm⟩ := h
  obtain ⟨oifc,hoifc⟩ := Option.isSome_iff_exists.1 hc
  refine ⟨oifc,k,hoifc,hk,?_⟩
  have hg : grantKind H msg=some k := (grantKind_eq_some H msg k).2 ⟨ho,hk,hp⟩
  rw [ifcWriteProcess_eq,if_neg (Nat.not_lt.2 hs),if_neg (by simp [hv]),hoifc,hg]
  rcases IfcLabel.add_snd H.labelMaxSize (oifc.label k) msg.tag with h0 | ⟨h0,-⟩ <;>
    simp [ifcGrant,ifcContainsValue,hm,ifcAddPrivilege,ifcContextAdd_of_valid _ _ _ _ hv,h0]

/-- An allowed `ifc_write_process` adds the tag to the target's set, or returns `-ENOMEM` on a full
set; any other request fails and changes nothing, with `-EPERM` when only the privilege is missing. -/
theorem ifcWriteProcess_spec (cifc : IfcContext) (tasks : Tasks) (count : Nat) (msg : IfcTagMsg) :
    ((ifcWriteProcess H cifc tasks count msg).1=tasks ∨
      (WriteProcessAllowed H cifc tasks count msg ∧ ∃ oifc k,
        contextFromPid tasks msg.pid=some oifc ∧ H.tagType? msg.tagType=some k ∧
        (ifcWriteProcess H cifc tasks count msg).1=Function.update tasks msg.pid
          (some (oifc.setLabel k ((oifc.label k).add H.labelMaxSize msg.tag).1)))) ∧
    (¬WriteProcessAllowed H cifc tasks count msg →
      (ifcWriteProcess H cifc tasks count msg).2<0 ∧
        (ifcWriteProcess H cifc tasks count msg).1=tasks) ∧
    ((ifcWriteProcess H cifc tasks count msg).2=-EPERM ↔
      H.tagMsgSize≤count ∧ ifcTagValid msg.tag ∧ (contextFromPid tasks msg.pid).isSome ∧
        msg.op=H.addTag ∧ ∃ k, H.tagType? msg.tagType=some k ∧ k.isPrivilege ∧
          msg.tag ∉ (cifc.label k).tags) ∧
    (WriteProcessAllowed H cifc tasks count msg → ∃ oifc k,
      contextFromPid tasks msg.pid=some oifc ∧ H.tagType? msg.tagType=some k ∧
      ifcWriteProcess H cifc tasks count msg=(Function.update tasks msg.pid
          (some (oifc.setLabel k ((oifc.label k).add H.labelMaxSize msg.tag).1)),
        if ((oifc.label k).add H.labelMaxSize msg.tag).2=0 then (H.tagMsgSize : Int) else -ENOMEM)) := by
  refine ⟨ifcWriteProcess_fst H cifc tasks count msg,?_,?_,ifcWriteProcess_of_allowed H⟩
  · intro hn
    rcases ifcWriteProcess_cases H cifc tasks count msg with ⟨h1,h2,-⟩ | ⟨h,-⟩ | ⟨oifc,k,hs,hv,hc,hg,hm,-⟩
    · exact ⟨h2,h1⟩
    · simp [h,EPERM]
    · obtain ⟨ho,hk,hp⟩ := (grantKind_eq_some H msg k).mp hg
      exact absurd ⟨hs,hv,by simp [hc],ho,k,hk,hp,hm⟩ hn
  · have hg : ∀ k, (msg.op=H.addTag ∧ H.tagType? msg.tagType=some k ∧ k.isPrivilege) ↔
        grantKind H msg=some k := fun k => (grantKind_eq_some H msg k).symm
    rcases ifcWriteProcess_cases H cifc tasks count msg with ⟨-,-,he,hn⟩ | ⟨h,hs,hv,hc,k,hk,hm⟩ |
      ⟨oifc,k,-,-,-,hk,hm,-,he⟩
    · simp only [he,false_iff]
      rintro ⟨hs,hv,hc,ho,k,hk,hp,-⟩
      exact hn ⟨hs,hv,hc,by simp [(hg k).mp ⟨ho,hk,hp⟩]⟩
    · obtain ⟨ho,hk',hp⟩ := (hg k).mpr hk
      simp only [h,true_iff]
      exact ⟨hs,hv,hc,ho,k,hk',hp,hm⟩
    · simp only [he,false_iff]
      rintro ⟨-,-,-,ho,x,hx,hp,hx'⟩
      cases (hg x).mp ⟨ho,hx,hp⟩ ▸ hk
      exact hx' hm

theorem IfcContext.Fits.writeSelf {cifc : IfcContext} (hc : cifc.Fits H.labelMaxSize)
    (count : Nat) (msg : IfcTagMsg) : (ifcWriteSelf H cifc count msg).1.Fits H.labelMaxSize := by
  rw [ifcWriteSelf_eq]
  split_ifs
  · exact hc
  · exact hc
  all_goals simp only [apply_ite Prod.fst,ite_self]; rcases H.tagType? msg.tagType with _ | k
  · exact hc
  · exact hc.contextAdd k msg.tag
  · exact hc
  · exact hc.contextRemove k msg.tag

theorem IfcContext.Fits.readTag {cifc : IfcContext} (hc : cifc.Fits H.labelMaxSize)
    (count : Nat) (tag : Tag) (copyFails : Bool) :
    (ifcReadTag H cifc count tag copyFails).1.Fits H.labelMaxSize := by
  unfold ifcReadTag
  by_cases hn : count<tagSize
  · rw [if_pos hn]; exact hc
  simp only [if_neg hn,apply_ite Prod.fst,ite_self,ifcAddPrivilege]
  exact (((hc.contextAdd _ _).contextAdd _ _).contextAdd _ _).contextAdd _ _

/-- `ifc_write_process` adds only a valid tag, to the target's set, through the insertion. -/
theorem TasksFit.writeProcess {tasks : Tasks} (ht : TasksFit H.labelMaxSize tasks)
    (cifc : IfcContext) (count : Nat) (msg : IfcTagMsg) :
    TasksFit H.labelMaxSize (ifcWriteProcess H cifc tasks count msg).1 := by
  rcases ifcWriteProcess_fst H cifc tasks count msg with h | ⟨⟨-,hv,-⟩,oifc,k,ho,-,h⟩
  · rwa [h]
  · have hf := ht _ _ ho
    rw [h]
    exact ht.update _ (hf.setLabel k ((hf k).add hv))

end

end CamFlow.Ifc
