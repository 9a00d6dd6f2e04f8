import LinePipe.Files.Path
import LinePipe.Text.Quoted

/-!
# File access errors

Why a file cannot be opened. The causes are those of the operating system, each with its number and
its text.

## Main definitions

- `AccessCause`: the causes
- `AccessError`: an attempt to open a path that failed
- `AccessError.message`: the wording
-/

namespace LinePipe

/-- Why the operating system refuses an operation on files. -/
structure AccessCause where
  number : Nat
  text : Text
  deriving Repr, DecidableEq

namespace AccessCause

def notPermitted : AccessCause := ⟨1, "Operation not permitted".toList⟩

def missing : AccessCause := ⟨2, "No such file or directory".toList⟩

def denied : AccessCause := ⟨13, "Permission denied".toList⟩

def notDirectory : AccessCause := ⟨20, "Not a directory".toList⟩

def isDirectory : AccessCause := ⟨21, "Is a directory".toList⟩

/-- A name or the whole path is too long. -/
def nameTooLong : AccessCause := ⟨36, "File name too long".toList⟩

def table : List (Text × AccessCause) :=
  [("EPERM".toList, notPermitted), ("ENOENT".toList, missing),
   ("EINTR".toList, ⟨4, "Interrupted system call".toList⟩),
   ("EIO".toList, ⟨5, "Input/output error".toList⟩),
   ("ENXIO".toList, ⟨6, "No such device or address".toList⟩),
   ("EBADF".toList, ⟨9, "Bad file descriptor".toList⟩),
   ("EAGAIN".toList, ⟨11, "Resource temporarily unavailable".toList⟩),
   ("ENOMEM".toList, ⟨12, "Cannot allocate memory".toList⟩),
   ("EACCES".toList, denied),
   ("EBUSY".toList, ⟨16, "Device or resource busy".toList⟩),
   ("EEXIST".toList, ⟨17, "File exists".toList⟩),
   ("EXDEV".toList, ⟨18, "Invalid cross-device link".toList⟩),
   ("ENODEV".toList, ⟨19, "No such device".toList⟩),
   ("ENOTDIR".toList, notDirectory), ("EISDIR".toList, isDirectory),
   ("EINVAL".toList, ⟨22, "Invalid argument".toList⟩),
   ("ENFILE".toList, ⟨23, "Too many open files in system".toList⟩),
   ("EMFILE".toList, ⟨24, "Too many open files".toList⟩),
   ("ENOTTY".toList, ⟨25, "Inappropriate ioctl for device".toList⟩),
   ("ETXTBSY".toList, ⟨26, "Text file busy".toList⟩),
   ("EFBIG".toList, ⟨27, "File too large".toList⟩),
   ("ENOSPC".toList, ⟨28, "No space left on device".toList⟩),
   ("ESPIPE".toList, ⟨29, "Illegal seek".toList⟩),
   ("EROFS".toList, ⟨30, "Read-only file system".toList⟩),
   ("EMLINK".toList, ⟨31, "Too many links".toList⟩),
   ("EPIPE".toList, ⟨32, "Broken pipe".toList⟩),
   ("EDEADLK".toList, ⟨35, "Resource deadlock avoided".toList⟩),
   ("ENAMETOOLONG".toList, nameTooLong),
   ("ENOSYS".toList, ⟨38, "Function not implemented".toList⟩),
   ("ELOOP".toList, ⟨40, "Too many levels of symbolic links".toList⟩),
   ("EOVERFLOW".toList, ⟨75, "Value too large for defined data type".toList⟩),
   ("EOPNOTSUPP".toList, ⟨95, "Operation not supported".toList⟩),
   ("ETIMEDOUT".toList, ⟨110, "Connection timed out".toList⟩),
   ("ESTALE".toList, ⟨116, "Stale file handle".toList⟩),
   ("EDQUOT".toList, ⟨122, "Disk quota exceeded".toList⟩)]

def isPermission (c : AccessCause) : Bool :=
  c == denied || c == notPermitted

/-- Whether the cause is that no file is there: nothing is, or a directory. -/
def isAbsence (c : AccessCause) : Bool :=
  c == missing || c == isDirectory

end AccessCause

/-- An attempt to open a path that failed. -/
inductive AccessError where
  | refused (cause : AccessCause) (path : Path)
  /-- The path holds a null character, so it cannot be given to the operating system. -/
  | nullInPath
  deriving Repr, DecidableEq

/-- What the operating system tells about an operation that it refused. -/
def AccessCause.describe (c : AccessCause) (path : Path) : Text :=
  "[Errno ".toList ++ Text.ofNat c.number ++ [']', ' '] ++ c.text ++ [':', ' '] ++
    Text.quoted path.toText

def AccessError.message : AccessError → Text
  | .refused cause path => cause.describe path
  | .nullInPath => "embedded null byte".toList

end LinePipe
