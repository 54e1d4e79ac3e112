import CamFlow.Provenance.Capture

namespace CamFlow.Provenance

section RecordFileName

variable {s : Kernel} {file : Nat} {f : File} {p : Nat} {m : ProvMsg}

/-- The name of a tracked, unnamed file is about to be recorded; when the path buffer is not
allocated, or the long record is not while the path fits, a null pointer is dereferenced. -/
theorem recordFileName_null (hf : s.host.files file=some f) (hl : s.host.Live (.inode f.inode)=true)
    (hp : s.sec (.inode f.inode)=some p) (hm : s.heap p=some m) (ht : m.tracked=true)
    (hn : m.nameRecorded=false)
    (hfail : s.allocOk s.allocs=false ∨ (s.allocOk (s.allocs+1)=false ∧ f.path.length < PATH_MAX)) :
    provenanceRecordFileName file s=.error .nullDeref := by
  simp only [provenanceRecordFileName,getFile,getObj_bind,hf,provOf_bind,hl,hp,if_true,node_bind,
    hm,ht,hn,Bool.not_false,Bool.and_self,kzalloc,bind_assoc,allocAttempt_bind,
    allocLongProvenance_bind]
  rcases hfail with hk | ⟨hlong,hpath⟩
  · split <;> simp [dentryPathRaw_bind,hk]
  · cases hk : s.allocOk s.allocs
    · split <;> simp [dentryPathRaw_bind,hk]
    · simp only [hlong,Bool.false_eq_true,if_false,dentryPathRaw_bind,hk,Bool.not_true]
      rw [if_neg (by omega)]; rfl

/-- On a tracked, unnamed inode whose path fits, a failed long record allocation makes
`provenance_file_permission` dereference a null pointer. -/
theorem filePermission_null_long_record {cur : Nat} {mask : UInt32}
    (hf : s.host.files file=some f) (hl : s.host.Live (.inode f.inode)=true)
    (hp : s.sec (.inode f.inode)=some p) (hm : s.heap p=some m) (ht : m.tracked=true)
    (hn : m.nameRecorded=false) (hlong : s.allocOk (s.allocs+1)=false)
    (hpath : f.path.length < PATH_MAX) :
    provenanceFilePermission cur file mask s=.error .nullDeref := by
  simp only [provenanceFilePermission,getFile,getObj_bind,hf]
  rw [bind_apply,recordFileName_null hf hl hp hm ht hn (.inr ⟨hlong,hpath⟩)]

/-- On a tracked, unnamed inode, a failed `kzalloc` of the path buffer makes
`provenance_mmap_file` fault in `dentry_path_raw`. -/
theorem mmapFile_null_buffer {cur : Nat} {prot : UInt64} (hc : s.host.Live (.cred cur)=true)
    (hf : s.host.files file=some f) (hl : s.host.Live (.inode f.inode)=true)
    (hp : s.sec (.inode f.inode)=some p) (hm : s.heap p=some m) (ht : m.tracked=true)
    (hn : m.nameRecorded=false) (hk : s.allocOk s.allocs=false) :
    provenanceMmapFile cur (some file) prot s=.error .nullDeref := by
  simp only [provenanceMmapFile,currentProvenance,provOf_bind,hc,if_true]
  rw [bind_apply,recordFileName_null hf hl hp hm ht hn (.inl hk)]

end RecordFileName

/-- The events that make file `0`, of a labelled inode, ready to be named. -/
def labelledFileRun : List Event :=
  [.sbAllocSecurity 0 zeroSb,.inodeAllocSecurity 0 0 labelledInode,.fileCreate 0 ⟨0,[47]⟩]

/-- What `provenance_record_file_name` reads of file `0`, with the next two allocations. -/
structure FileView where
  file : Option File
  inodeLive : Bool
  iprov : Option Nat
  flags : Option (Bool × Bool)
  buffer : Bool
  long : Bool
  deriving DecidableEq

def fileView (k : Kernel) : FileView :=
  ⟨k.host.files 0,k.host.Live (.inode 0),k.sec (.inode 0),
    (k.heap 2).map (fun m => (m.tracked,m.nameRecorded)),k.allocOk k.allocs,k.allocOk (k.allocs+1)⟩

/-- The fifth allocation (the long record of the file name) fails: `file_permission` faults. -/
theorem file_permission_long_record_fails :
    ∃ k, bootRun (fun n => n≠4) rootCred labelledFileRun=.ok k ∧
      hostStep (.filePermission 0 0 MAY_READ) k=.error .nullDeref := by
  obtain ⟨k,hk,hv⟩ := ok_of_map (show (bootRun (fun n => n≠4) rootCred labelledFileRun).map
      fileView=.ok ⟨some ⟨0,[47]⟩,true,some 2,some (true,false),true,false⟩ by decide)
  simp only [fileView,FileView.mk.injEq,Option.map_eq_some'] at hv
  obtain ⟨hf,hl,hp,⟨m,hm,ht⟩,-,hk4⟩ := hv
  simp only [Prod.mk.injEq] at ht
  exact ⟨k,hk,filePermission_null_long_record hf hl hp hm ht.1 ht.2 hk4 (by decide)⟩

/-- The fourth allocation (the path buffer) fails: `mmap_file` faults. -/
theorem mmap_file_buffer_fails :
    ∃ k, bootRun (fun n => n≠3) rootCred labelledFileRun=.ok k ∧
      hostStep (.mmapFile 0 (some 0) PROT_READ) k=.error .nullDeref := by
  obtain ⟨k,hk,hv⟩ := ok_of_map (show (bootRun (fun n => n≠3) rootCred labelledFileRun).map
      (fun k => (k.host.Live (.cred 0),fileView k))=
      .ok (true,⟨some ⟨0,[47]⟩,true,some 2,some (true,false),false,true⟩) by decide)
  simp only [fileView,Prod.mk.injEq,FileView.mk.injEq,Option.map_eq_some'] at hv
  obtain ⟨hc,hf,hl,hp,⟨m,hm,ht⟩,hk3,-⟩ := hv
  exact ⟨k,hk,mmapFile_null_buffer hc hf hl hp hm ht.1 ht.2 hk3⟩

end CamFlow.Provenance
