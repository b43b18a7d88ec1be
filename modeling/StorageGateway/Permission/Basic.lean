/-!
# Permissions

A `Permission` is one thing that a role can allow. A `PermissionSet` is a mask of 32 bits in which
each permission has a fixed position; masks are stored as numbers, so the positions never change,
and bits that stand for no permission are kept.
-/

namespace StorageGateway

/-- One thing that a role can allow. -/
inductive Permission where
  /-- See entries that hide patterns match. -/
  | seeHides
  /-- Pass a password gate without its password. -/
  | accessWithoutPassword
  /-- Queue downloads that the server carries out. -/
  | addOfflineDownload
  /-- Create and upload. -/
  | write
  | rename
  | move
  | copy
  | remove
  /-- Read over WebDAV. -/
  | webdavRead
  /-- Change something over WebDAV, together with the operation's own permission. -/
  | webdavManage
  /-- Log in over FTP. -/
  | ftpAccess
  /-- Change something over FTP, together with the operation's own permission. -/
  | ftpManage
  | readArchives
  | decompress
  /-- Not an allowance: keeps the user to paths that a scope of their roles covers. -/
  | pathLimit
deriving DecidableEq, Repr

namespace Permission

/-- Every permission, in the order of the bits. -/
def all : List Permission :=
  [seeHides, accessWithoutPassword, addOfflineDownload, write, rename, move, copy, remove,
    webdavRead, webdavManage, ftpAccess, ftpManage, readArchives, decompress, pathLimit]

/-- The position of the permission's bit in a mask. -/
def position : Permission → Nat
  | seeHides => 0
  | accessWithoutPassword => 1
  | addOfflineDownload => 2
  | write => 3
  | rename => 4
  | move => 5
  | copy => 6
  | remove => 7
  | webdavRead => 8
  | webdavManage => 9
  | ftpAccess => 10
  | ftpManage => 11
  | readArchives => 12
  | decompress => 13
  | pathLimit => 14

/-- The name used in settings. -/
def name : Permission → String
  | seeHides => "see_hides"
  | accessWithoutPassword => "access_without_password"
  | addOfflineDownload => "add_offline_download"
  | write => "write"
  | rename => "rename"
  | move => "move"
  | copy => "copy"
  | remove => "remove"
  | webdavRead => "webdav_read"
  | webdavManage => "webdav_manage"
  | ftpAccess => "ftp_access"
  | ftpManage => "ftp_manage"
  | readArchives => "read_archives"
  | decompress => "decompress"
  | pathLimit => "path_limit"

/-- The permission of a name. -/
def ofName? (name : String) : Option Permission := all.find? (·.name == name)

end Permission

/-- A mask of permissions. -/
structure PermissionSet where
  bits : BitVec 32
deriving DecidableEq, Repr

namespace PermissionSet

/-- The mask without a bit. -/
def none : PermissionSet := ⟨0⟩

/-- The mask of a number below 2^32. -/
def ofNat (n : Nat) : PermissionSet := ⟨BitVec.ofNat 32 n⟩

/-- The number of a mask. -/
def toNat (s : PermissionSet) : Nat := s.bits.toNat

/-- The mask with the permission's bit alone. -/
def single (p : Permission) : PermissionSet := ⟨1#32 <<< p.position⟩

/-- The bits of both masks. -/
def union (s t : PermissionSet) : PermissionSet := ⟨s.bits ||| t.bits⟩

/-- The mask with the permission's bit set. -/
def insert (s : PermissionSet) (p : Permission) : PermissionSet := s.union (single p)

/-- Whether the permission's bit is set. -/
def contains (s : PermissionSet) (p : Permission) : Bool := s.bits.getLsbD p.position

/-- Whether no bit is set. -/
def isEmpty (s : PermissionSet) : Bool := s.bits == 0

/-- The permissions whose bits are set, in the order of the bits. -/
def toList (s : PermissionSet) : List Permission := Permission.all.filter s.contains

/-- The mask of a list of permissions. -/
def ofList (perms : List Permission) : PermissionSet := perms.foldl insert none

/-- The union of a list of masks. -/
def unions (sets : List PermissionSet) : PermissionSet := sets.foldl union none

/-- The mask for a log: its number in at least four hexadecimal digits. -/
def describe (s : PermissionSet) : String :=
  let digits := Nat.toDigits 16 s.toNat
  "PermSet(0x" ++ String.ofList (List.replicate (4 - digits.length) '0' ++ digits) ++ ")"

@[simp] theorem contains_none (p : Permission) : none.contains p = false := by simp [contains, none]

end PermissionSet

end StorageGateway
