import Mathlib.Data.List.Nodup
import Mathlib.Logic.Function.Basic

namespace CamFlow.Ifc

/-- Modelled from the spec: `tag_t` is declared in `ifc.h`, which is not under src. The spec
calls a tag an opaque fixed-width identifier whose value 0 is the invalid sentinel. -/
abbrev Tag := UInt64

/-- `pid_t`. -/
abbrev Pid := Int

def EPERM : Int := 1
def EAGAIN : Int := 11
def ENOMEM : Int := 12
def EINVAL : Int := 22

/-- Modelled from the spec: `ifc_tag_valid` rejects exactly the sentinel. -/
def ifcTagValid (t : Tag) : Bool := t != 0

/-- The six tag sets of a context: `IFC_SECRECY`, `IFC_INTEGRITY` and the privileges
`IFC_SECRECY_P`, `IFC_INTEGRITY_P`, `IFC_SECRECY_N`, `IFC_INTEGRITY_N`. -/
inductive TagType
  | secrecy | integrity | secrecyP | integrityP | secrecyN | integrityN
  deriving DecidableEq, Repr

namespace TagType

def all : List TagType := [secrecy,integrity,secrecyP,integrityP,secrecyN,integrityN]

theorem mem_all (k : TagType) : k ∈ all := by cases k <;> simp [all]

/-- The four kinds `ifc_write_process` may grant. -/
def isPrivilege : TagType → Bool
  | secrecy | integrity => false
  | _ => true

end TagType

/-- Modelled from the spec: `struct ifc_label`, a set of tags that never holds a duplicate. -/
structure IfcLabel where
  tags : List Tag
  nodup : tags.Nodup
  deriving DecidableEq

namespace IfcLabel

def empty : IfcLabel := ⟨[],List.nodup_nil⟩

/-- Modelled from the spec: insert-if-absent into a label of capacity `cap`; a full label is
left as it is and the insertion fails with `-ENOMEM`. -/
def add (cap : Nat) (l : IfcLabel) (t : Tag) : IfcLabel × Int :=
  if h : t ∈ l.tags then (l,0)
  else if cap ≤ l.tags.length then (l,-ENOMEM)
  else (⟨l.tags++[t],l.nodup.append (List.nodup_singleton t) (by simpa using h)⟩,0)

/-- Modelled from the spec: remove-if-present, a no-op when the tag is absent. -/
def remove (l : IfcLabel) (t : Tag) : IfcLabel := ⟨l.tags.erase t,l.nodup.erase t⟩

theorem mem_add (cap : Nat) (l : IfcLabel) (t u : Tag) :
    u ∈ (l.add cap t).1.tags ↔ u ∈ l.tags ∨ (u=t ∧ l.tags.length<cap) := by
  unfold add
  split_ifs with h hc
  · exact ⟨Or.inl,by rintro (h' | ⟨rfl,-⟩) <;> assumption⟩
  · exact ⟨Or.inl,by rintro (h' | ⟨-,hlt⟩) <;> first | assumption | omega⟩
  · have hlt : l.tags.length<cap := by omega
    simp [hlt]

theorem add_snd (cap : Nat) (l : IfcLabel) (t : Tag) :
    (l.add cap t).2=0 ∨ ((l.add cap t).2=-ENOMEM ∧ (l.add cap t).1=l) := by
  unfold add; split_ifs <;> simp

theorem add_eq_self_of_ne_zero (cap : Nat) (l : IfcLabel) (t : Tag) (h : (l.add cap t).2≠0) :
    (l.add cap t).1=l := by
  rcases add_snd cap l t with h0 | ⟨-,he⟩
  · exact absurd h0 h
  · exact he

theorem mem_remove (l : IfcLabel) (t u : Tag) : u ∈ (l.remove t).tags ↔ u≠t ∧ u ∈ l.tags :=
  l.nodup.mem_erase_iff

end IfcLabel

/-- Modelled from the spec: `struct ifc_context`, the six tag sets of one credential. -/
structure IfcContext where
  secrecy : IfcLabel
  integrity : IfcLabel
  secrecyP : IfcLabel
  integrityP : IfcLabel
  secrecyN : IfcLabel
  integrityN : IfcLabel
  deriving DecidableEq

namespace IfcContext

def empty : IfcContext := ⟨.empty,.empty,.empty,.empty,.empty,.empty⟩

def label (c : IfcContext) : TagType → IfcLabel
  | .secrecy => c.secrecy
  | .integrity => c.integrity
  | .secrecyP => c.secrecyP
  | .integrityP => c.integrityP
  | .secrecyN => c.secrecyN
  | .integrityN => c.integrityN

def setLabel (c : IfcContext) : TagType → IfcLabel → IfcContext
  | .secrecy, l => { c with secrecy := l }
  | .integrity, l => { c with integrity := l }
  | .secrecyP, l => { c with secrecyP := l }
  | .integrityP, l => { c with integrityP := l }
  | .secrecyN, l => { c with secrecyN := l }
  | .integrityN, l => { c with integrityN := l }

@[simp] theorem label_setLabel (c : IfcContext) (k j : TagType) (l : IfcLabel) :
    (c.setLabel k l).label j=if j=k then l else c.label j := by
  cases k <;> cases j <;> rfl

@[simp] theorem setLabel_label (c : IfcContext) (k : TagType) : c.setLabel k (c.label k)=c := by
  cases k <;> rfl

@[ext] theorem ext_label {c d : IfcContext} (h : ∀ k, c.label k=d.label k) : c=d := by
  cases c; cases d
  have := h .secrecy; have := h .integrity; have := h .secrecyP
  have := h .integrityP; have := h .secrecyN; have := h .integrityN
  simp_all [label]

@[simp] theorem empty_label (k : TagType) : empty.label k=.empty := by cases k <;> rfl

end IfcContext

/-- Modelled from the spec: the insertion behind `ifc_add_tag` and `ifc_add_privilege`. An
invalid tag is refused with `-EINVAL`; otherwise the tag goes into the named set. -/
def ifcContextAdd (cap : Nat) (c : IfcContext) (k : TagType) (t : Tag) : IfcContext × Int :=
  if !ifcTagValid t then (c,-EINVAL)
  else
    let r := (c.label k).add cap t
    (c.setLabel k r.1,r.2)

def ifcAddTag (cap : Nat) (c : IfcContext) (k : TagType) (t : Tag) : IfcContext × Int :=
  ifcContextAdd cap c k t

def ifcAddPrivilege (cap : Nat) (c : IfcContext) (k : TagType) (t : Tag) : IfcContext × Int :=
  ifcContextAdd cap c k t

/-- Modelled from the spec: the removal behind `ifc_remove_tag` and `ifc_remove_privilege`,
idempotent and always successful. -/
def ifcContextRemove (c : IfcContext) (k : TagType) (t : Tag) : IfcContext × Int :=
  (c.setLabel k ((c.label k).remove t),0)

def ifcRemoveTag (c : IfcContext) (k : TagType) (t : Tag) : IfcContext × Int :=
  ifcContextRemove c k t

def ifcRemovePrivilege (c : IfcContext) (k : TagType) (t : Tag) : IfcContext × Int :=
  ifcContextRemove c k t

/-- Modelled from the spec: `ifc_contains_value`. -/
def ifcContainsValue (l : IfcLabel) (t : Tag) : Bool := decide (t ∈ l.tags)

/-- Modelled from the spec: `ifc_is_labelled` holds when any of the six sets is non-empty. -/
def ifcIsLabelled (c : IfcContext) : Bool := TagType.all.any fun k => !(c.label k).tags.isEmpty

theorem ifcContextAdd_of_valid (cap : Nat) (c : IfcContext) (k : TagType) (t : Tag)
    (h : ifcTagValid t) :
    ifcContextAdd cap c k t=(c.setLabel k ((c.label k).add cap t).1,((c.label k).add cap t).2) := by
  simp [ifcContextAdd,h]

theorem ifcContextAdd_label (cap : Nat) (c : IfcContext) (k j : TagType) (t : Tag) :
    (ifcContextAdd cap c k t).1.label j=
      if j=k ∧ ifcTagValid t then ((c.label k).add cap t).1 else c.label j := by
  unfold ifcContextAdd
  cases hv : ifcTagValid t <;> by_cases hj : j=k <;> simp [hj]

/-- An insertion adds at most the inserted tag, and only to the named set. -/
theorem mem_ifcContextAdd (cap : Nat) (c : IfcContext) (k j : TagType) (t u : Tag)
    (h : u ∈ ((ifcContextAdd cap c k t).1.label j).tags) : u ∈ (c.label j).tags ∨ (j=k ∧ u=t) := by
  rw [ifcContextAdd_label] at h
  split_ifs at h with hj
  · obtain ⟨rfl,-⟩ := hj
    rcases (IfcLabel.mem_add _ _ _ _).mp h with h | ⟨rfl,-⟩
    · exact .inl h
    · exact .inr ⟨rfl,rfl⟩
  · exact .inl h

/-- A failed insertion leaves the context as it was. -/
theorem ifcContextAdd_eq_self_of_ne_zero (cap : Nat) (c : IfcContext) (k : TagType) (t : Tag)
    (h : (ifcContextAdd cap c k t).2≠0) : (ifcContextAdd cap c k t).1=c := by
  unfold ifcContextAdd at h ⊢
  cases hv : ifcTagValid t
  · rfl
  · simp only [hv,Bool.not_true,Bool.false_eq_true,if_false] at h ⊢
    rw [IfcLabel.add_eq_self_of_ne_zero cap _ t h,IfcContext.setLabel_label]

theorem ifcContextAdd_snd (cap : Nat) (c : IfcContext) (k : TagType) (t : Tag) :
    (ifcContextAdd cap c k t).2=0 ∨ (ifcContextAdd cap c k t).2=-ENOMEM ∨
      (ifcContextAdd cap c k t).2=-EINVAL := by
  unfold ifcContextAdd
  cases ifcTagValid t
  · simp
  · rcases IfcLabel.add_snd cap (c.label k) t with h | ⟨h,-⟩ <;> simp [h]

/-- A set as `struct ifc_label` can hold it: at most `cap` tags, none of them the sentinel. -/
def IfcLabel.Fits (cap : Nat) (l : IfcLabel) : Prop :=
  l.tags.length ≤ cap ∧ ∀ t ∈ l.tags, ifcTagValid t=true

/-- Every set of the context fits. -/
def IfcContext.Fits (cap : Nat) (c : IfcContext) : Prop := ∀ k, (c.label k).Fits cap

section Fits

variable {cap : Nat}

theorem IfcLabel.Fits.add {l : IfcLabel} (hl : l.Fits cap) {t : Tag} (ht : ifcTagValid t=true) :
    (l.add cap t).1.Fits cap := by
  unfold IfcLabel.add
  split_ifs with h hc
  · exact hl
  · exact hl
  · refine ⟨by simp only [List.length_append,List.length_singleton]; omega,fun u hu => ?_⟩
    rcases List.mem_append.1 hu with hu | hu
    · exact hl.2 u hu
    · rw [List.mem_singleton.1 hu]; exact ht

theorem IfcLabel.Fits.remove {l : IfcLabel} (hl : l.Fits cap) (t : Tag) : (l.remove t).Fits cap :=
  ⟨(List.length_erase_le _ _).trans hl.1,fun _ hu => hl.2 _ (List.mem_of_mem_erase hu)⟩

theorem IfcContext.empty_fits : IfcContext.empty.Fits cap := fun k => by
  simp [IfcContext.Fits,IfcLabel.Fits,IfcLabel.empty]

theorem IfcContext.Fits.setLabel {c : IfcContext} (hc : c.Fits cap) (k : TagType) {l : IfcLabel}
    (hl : l.Fits cap) : (c.setLabel k l).Fits cap := fun j => by
  rw [IfcContext.label_setLabel]
  split_ifs
  · exact hl
  · exact hc j

/-- The validity check comes before the insertion, so the sentinel never enters a set. -/
theorem IfcContext.Fits.contextAdd {c : IfcContext} (hc : c.Fits cap) (k : TagType) (t : Tag) :
    (ifcContextAdd cap c k t).1.Fits cap := fun j => by
  rw [ifcContextAdd_label]
  split_ifs with h
  · exact (hc k).add h.2
  · exact hc j

theorem IfcContext.Fits.contextRemove {c : IfcContext} (hc : c.Fits cap) (k : TagType)
    (t : Tag) : (ifcContextRemove c k t).1.Fits cap :=
  hc.setLabel k ((hc k).remove t)

end Fits

/-- The constants of `ifc.h` that the control plane reads. -/
structure IfcHeader where
  /-- The `IFC_SECRECY` .. `IFC_INTEGRITY_N` codes: the labels of one C `switch`, so distinct. -/
  code : TagType → Nat
  code_injective : Function.Injective code
  /-- `IFC_ADD_TAG`. -/
  addTag : Nat
  /-- The capacity of one `struct ifc_label`. -/
  labelMaxSize : Nat
  /-- `sizeof(struct ifc_tag_msg)`, `sizeof(struct ifc_context)`, `sizeof(struct ifc_context_msg)`. -/
  tagMsgSize : Nat
  contextSize : Nat
  contextMsgSize : Nat

namespace IfcHeader

/-- The case of a `switch(msg->tag_type)` that a code selects, if any. -/
def tagType? (H : IfcHeader) (n : Nat) : Option TagType := TagType.all.find? fun k => H.code k=n

theorem tagType?_eq_some (H : IfcHeader) (n : Nat) (k : TagType) :
    H.tagType? n=some k ↔ H.code k=n := by
  constructor
  · intro h; simpa using List.find?_some h
  · rintro rfl
    obtain ⟨j,hj⟩ := Option.isSome_iff_exists.mp
      (List.find?_isSome.mpr ⟨k,TagType.mem_all k,by simp⟩ :
        (TagType.all.find? fun j => H.code j=H.code k).isSome)
    have hc : H.code j=H.code k := by simpa using List.find?_some hj
    rw [tagType?,hj,H.code_injective hc]

@[simp] theorem tagType?_code (H : IfcHeader) (k : TagType) : H.tagType? (H.code k)=some k :=
  (H.tagType?_eq_some _ k).mpr rfl

end IfcHeader

/-- Modelled from the spec: one choice of the `ifc.h` constants, under which the model is run
on concrete requests. -/
def sampleHeader : IfcHeader where
  code
    | .secrecy => 1 | .integrity => 2 | .secrecyP => 3
    | .integrityP => 4 | .secrecyN => 5 | .integrityN => 6
  code_injective := by intro a b h; cases a <;> cases b <;> simp_all
  addTag := 1
  labelMaxSize := 32
  tagMsgSize := 24
  contextSize := 6*(8+32*8)
  contextMsgSize := 8+6*(8+32*8)

/-- Modelled from the spec: `struct ifc_tag_msg`, the request written to the `self` and
`process` control files. -/
structure IfcTagMsg where
  op : Nat
  tagType : Nat
  tag : Tag
  pid : Pid
  deriving DecidableEq, Repr

end CamFlow.Ifc
