namespace ReplicaPlacement

inductive ProviderKind where
  | diskless
  | lvm
  | lvmThin
  | zfs
  | zfsThin
  | file
  | fileThin
  | spdk
  deriving DecidableEq, Repr, Inhabited

namespace ProviderKind

def name : ProviderKind → String
  | .diskless => "diskless"
  | .lvm => "lvm"
  | .lvmThin => "lvm_thin"
  | .zfs => "zfs"
  | .zfsThin => "zfs_thin"
  | .file => "file"
  | .fileThin => "file_thin"
  | .spdk => "spdk"

def all : List ProviderKind :=
  [.diskless, .lvm, .lvmThin, .zfs, .zfsThin, .file, .fileThin, .spdk]

def ofName? (s : String) : Option ProviderKind := all.find? (·.name == s)

@[simp] theorem ofName?_name (k : ProviderKind) : ofName? k.name = some k := by
  cases k <;> decide

def isDiskless (k : ProviderKind) : Bool := k == .diskless

inductive Family where
  | diskless
  | lvm
  | zfs
  | file
  | spdk
  deriving DecidableEq, Repr

def family : ProviderKind → Family
  | .diskless => .diskless
  | .lvm | .lvmThin => .lvm
  | .zfs | .zfsThin => .zfs
  | .file | .fileThin => .file
  | .spdk => .spdk

end ProviderKind

/-- Whether the first kind may stand beside the second in one resource. Policies judge ordered
pairs and need not be symmetric. -/
abbrev MixingPolicy := ProviderKind → ProviderKind → Bool

namespace MixingPolicy

def standard : MixingPolicy := fun a b =>
  a.isDiskless || b.isDiskless || a.family == b.family

end MixingPolicy

end ReplicaPlacement
