import TracedPipe.Text.Basic

/-!
# What calls give back

Error codes with their categories and texts, descriptor numbers, and the errors that reading a
descriptor as a stream can end with.
-/

namespace TracedPipe

/-!
## Kinds of error

The platform-independent category of an error, with the name it is shown under in debug forms and
the words that describe it. Codes of the operating system that fall into no category are
`uncategorized`.
-/

/-- The category of an error. -/
inductive ErrorKind where
  | addrInUse
  | addrNotAvailable
  | alreadyExists
  | argumentListTooLong
  | brokenPipe
  | connectionAborted
  | connectionRefused
  | connectionReset
  | crossesDevices
  | deadlock
  | directoryNotEmpty
  | executableFileBusy
  | fileTooLarge
  | filesystemLoop
  | hostUnreachable
  | inProgress
  | inputOutputError
  | interrupted
  | invalidData
  | invalidFilename
  | invalidInput
  | isADirectory
  | networkDown
  | networkUnreachable
  | notADirectory
  | notConnected
  | notFound
  | notSeekable
  | other
  | outOfMemory
  | permissionDenied
  | quotaExceeded
  | readOnlyFilesystem
  | resourceBusy
  | staleNetworkFileHandle
  | storageFull
  | timedOut
  | tooManyLinks
  | tooManyOpenFiles
  | uncategorized
  | unexpectedEof
  | unsupported
  | wouldBlock
  | writeZero
deriving DecidableEq, Repr

namespace ErrorKind

/-- The name a category is shown under. -/
def name : ErrorKind → String
  | .addrInUse => "AddrInUse"
  | .addrNotAvailable => "AddrNotAvailable"
  | .alreadyExists => "AlreadyExists"
  | .argumentListTooLong => "ArgumentListTooLong"
  | .brokenPipe => "BrokenPipe"
  | .connectionAborted => "ConnectionAborted"
  | .connectionRefused => "ConnectionRefused"
  | .connectionReset => "ConnectionReset"
  | .crossesDevices => "CrossesDevices"
  | .deadlock => "Deadlock"
  | .directoryNotEmpty => "DirectoryNotEmpty"
  | .executableFileBusy => "ExecutableFileBusy"
  | .fileTooLarge => "FileTooLarge"
  | .filesystemLoop => "FilesystemLoop"
  | .hostUnreachable => "HostUnreachable"
  | .inProgress => "InProgress"
  | .inputOutputError => "InputOutputError"
  | .interrupted => "Interrupted"
  | .invalidData => "InvalidData"
  | .invalidFilename => "InvalidFilename"
  | .invalidInput => "InvalidInput"
  | .isADirectory => "IsADirectory"
  | .networkDown => "NetworkDown"
  | .networkUnreachable => "NetworkUnreachable"
  | .notADirectory => "NotADirectory"
  | .notConnected => "NotConnected"
  | .notFound => "NotFound"
  | .notSeekable => "NotSeekable"
  | .other => "Other"
  | .outOfMemory => "OutOfMemory"
  | .permissionDenied => "PermissionDenied"
  | .quotaExceeded => "QuotaExceeded"
  | .readOnlyFilesystem => "ReadOnlyFilesystem"
  | .resourceBusy => "ResourceBusy"
  | .staleNetworkFileHandle => "StaleNetworkFileHandle"
  | .storageFull => "StorageFull"
  | .timedOut => "TimedOut"
  | .tooManyLinks => "TooManyLinks"
  | .tooManyOpenFiles => "TooManyOpenFiles"
  | .uncategorized => "Uncategorized"
  | .unexpectedEof => "UnexpectedEof"
  | .unsupported => "Unsupported"
  | .wouldBlock => "WouldBlock"
  | .writeZero => "WriteZero"

/-- What a category stands for, in a few words. -/
def description : ErrorKind → String
  | .addrInUse => "address in use"
  | .addrNotAvailable => "address not available"
  | .alreadyExists => "entity already exists"
  | .argumentListTooLong => "argument list too long"
  | .brokenPipe => "broken pipe"
  | .connectionAborted => "connection aborted"
  | .connectionRefused => "connection refused"
  | .connectionReset => "connection reset"
  | .crossesDevices => "cross-device link or rename"
  | .deadlock => "deadlock"
  | .directoryNotEmpty => "directory not empty"
  | .executableFileBusy => "executable file busy"
  | .fileTooLarge => "file too large"
  | .filesystemLoop => "filesystem loop or indirection limit (e.g. symlink loop)"
  | .hostUnreachable => "host unreachable"
  | .inProgress => "in progress"
  | .inputOutputError => "input/output error"
  | .interrupted => "operation interrupted"
  | .invalidData => "invalid data"
  | .invalidFilename => "invalid filename"
  | .invalidInput => "invalid input parameter"
  | .isADirectory => "is a directory"
  | .networkDown => "network down"
  | .networkUnreachable => "network unreachable"
  | .notADirectory => "not a directory"
  | .notConnected => "not connected"
  | .notFound => "entity not found"
  | .notSeekable => "seek on unseekable file"
  | .other => "other error"
  | .outOfMemory => "out of memory"
  | .permissionDenied => "permission denied"
  | .quotaExceeded => "quota exceeded"
  | .readOnlyFilesystem => "read-only filesystem or storage medium"
  | .resourceBusy => "resource busy"
  | .staleNetworkFileHandle => "stale network file handle"
  | .storageFull => "no storage space"
  | .timedOut => "timed out"
  | .tooManyLinks => "too many links"
  | .tooManyOpenFiles => "too many open files"
  | .uncategorized => "uncategorized error"
  | .unexpectedEof => "unexpected end of file"
  | .unsupported => "unsupported"
  | .wouldBlock => "operation would block"
  | .writeZero => "write zero"

/-- Every category. -/
def all : List ErrorKind :=
  [
    .addrInUse, .addrNotAvailable, .alreadyExists, .argumentListTooLong, .brokenPipe,
    .connectionAborted, .connectionRefused, .connectionReset, .crossesDevices, .deadlock,
    .directoryNotEmpty, .executableFileBusy, .fileTooLarge, .filesystemLoop, .hostUnreachable,
    .inProgress, .inputOutputError, .interrupted, .invalidData, .invalidFilename, .invalidInput,
    .isADirectory, .networkDown, .networkUnreachable, .notADirectory, .notConnected, .notFound,
    .notSeekable, .other, .outOfMemory, .permissionDenied, .quotaExceeded, .readOnlyFilesystem,
    .resourceBusy, .staleNetworkFileHandle, .storageFull, .timedOut, .tooManyLinks,
    .tooManyOpenFiles, .uncategorized, .unexpectedEof, .unsupported, .wouldBlock, .writeZero
  ]

/-- The category with a given name. -/
def ofName? (name : String) : Option ErrorKind :=
  all.find? fun kind => kind.name = name

/-- The category of a code of the operating system. -/
def ofCode : Int → ErrorKind
  | 1 => .permissionDenied
  | 2 => .notFound
  | 4 => .interrupted
  | 5 => .inputOutputError
  | 7 => .argumentListTooLong
  | 11 => .wouldBlock
  | 12 => .outOfMemory
  | 13 => .permissionDenied
  | 16 => .resourceBusy
  | 17 => .alreadyExists
  | 18 => .crossesDevices
  | 20 => .notADirectory
  | 21 => .isADirectory
  | 22 => .invalidInput
  | 23 => .tooManyOpenFiles
  | 24 => .tooManyOpenFiles
  | 26 => .executableFileBusy
  | 27 => .fileTooLarge
  | 28 => .storageFull
  | 29 => .notSeekable
  | 30 => .readOnlyFilesystem
  | 31 => .tooManyLinks
  | 32 => .brokenPipe
  | 35 => .deadlock
  | 36 => .invalidFilename
  | 38 => .unsupported
  | 39 => .directoryNotEmpty
  | 40 => .filesystemLoop
  | 95 => .unsupported
  | 98 => .addrInUse
  | 99 => .addrNotAvailable
  | 100 => .networkDown
  | 101 => .networkUnreachable
  | 103 => .connectionAborted
  | 104 => .connectionReset
  | 107 => .notConnected
  | 110 => .timedOut
  | 111 => .connectionRefused
  | 113 => .hostUnreachable
  | 115 => .inProgress
  | 116 => .staleNetworkFileHandle
  | 122 => .quotaExceeded
  | _ => .uncategorized

end ErrorKind

/-!
## Texts of error codes

The text the operating system gives for each of its error codes. A code without a text has none
here.
-/

namespace Errno

/-- The text of an error code, if it has one. -/
def knownText? : Int → Option String
  | 0 => some "Success"
  | 1 => some "Operation not permitted"
  | 2 => some "No such file or directory"
  | 3 => some "No such process"
  | 4 => some "Interrupted system call"
  | 5 => some "Input/output error"
  | 6 => some "No such device or address"
  | 7 => some "Argument list too long"
  | 8 => some "Exec format error"
  | 9 => some "Bad file descriptor"
  | 10 => some "No child processes"
  | 11 => some "Resource temporarily unavailable"
  | 12 => some "Cannot allocate memory"
  | 13 => some "Permission denied"
  | 14 => some "Bad address"
  | 15 => some "Block device required"
  | 16 => some "Device or resource busy"
  | 17 => some "File exists"
  | 18 => some "Invalid cross-device link"
  | 19 => some "No such device"
  | 20 => some "Not a directory"
  | 21 => some "Is a directory"
  | 22 => some "Invalid argument"
  | 23 => some "Too many open files in system"
  | 24 => some "Too many open files"
  | 25 => some "Inappropriate ioctl for device"
  | 26 => some "Text file busy"
  | 27 => some "File too large"
  | 28 => some "No space left on device"
  | 29 => some "Illegal seek"
  | 30 => some "Read-only file system"
  | 31 => some "Too many links"
  | 32 => some "Broken pipe"
  | 33 => some "Numerical argument out of domain"
  | 34 => some "Numerical result out of range"
  | 35 => some "Resource deadlock avoided"
  | 36 => some "File name too long"
  | 37 => some "No locks available"
  | 38 => some "Function not implemented"
  | 39 => some "Directory not empty"
  | 40 => some "Too many levels of symbolic links"
  | 42 => some "No message of desired type"
  | 43 => some "Identifier removed"
  | 44 => some "Channel number out of range"
  | 45 => some "Level 2 not synchronized"
  | 46 => some "Level 3 halted"
  | 47 => some "Level 3 reset"
  | 48 => some "Link number out of range"
  | 49 => some "Protocol driver not attached"
  | 50 => some "No CSI structure available"
  | 51 => some "Level 2 halted"
  | 52 => some "Invalid exchange"
  | 53 => some "Invalid request descriptor"
  | 54 => some "Exchange full"
  | 55 => some "No anode"
  | 56 => some "Invalid request code"
  | 57 => some "Invalid slot"
  | 59 => some "Bad font file format"
  | 60 => some "Device not a stream"
  | 61 => some "No data available"
  | 62 => some "Timer expired"
  | 63 => some "Out of streams resources"
  | 64 => some "Machine is not on the network"
  | 65 => some "Package not installed"
  | 66 => some "Object is remote"
  | 67 => some "Link has been severed"
  | 68 => some "Advertise error"
  | 69 => some "Srmount error"
  | 70 => some "Communication error on send"
  | 71 => some "Protocol error"
  | 72 => some "Multihop attempted"
  | 73 => some "RFS specific error"
  | 74 => some "Bad message"
  | 75 => some "Value too large for defined data type"
  | 76 => some "Name not unique on network"
  | 77 => some "File descriptor in bad state"
  | 78 => some "Remote address changed"
  | 79 => some "Can not access a needed shared library"
  | 80 => some "Accessing a corrupted shared library"
  | 81 => some ".lib section in a.out corrupted"
  | 82 => some "Attempting to link in too many shared libraries"
  | 83 => some "Cannot exec a shared library directly"
  | 84 => some "Invalid or incomplete multibyte or wide character"
  | 85 => some "Interrupted system call should be restarted"
  | 86 => some "Streams pipe error"
  | 87 => some "Too many users"
  | 88 => some "Socket operation on non-socket"
  | 89 => some "Destination address required"
  | 90 => some "Message too long"
  | 91 => some "Protocol wrong type for socket"
  | 92 => some "Protocol not available"
  | 93 => some "Protocol not supported"
  | 94 => some "Socket type not supported"
  | 95 => some "Operation not supported"
  | 96 => some "Protocol family not supported"
  | 97 => some "Address family not supported by protocol"
  | 98 => some "Address already in use"
  | 99 => some "Cannot assign requested address"
  | 100 => some "Network is down"
  | 101 => some "Network is unreachable"
  | 102 => some "Network dropped connection on reset"
  | 103 => some "Software caused connection abort"
  | 104 => some "Connection reset by peer"
  | 105 => some "No buffer space available"
  | 106 => some "Transport endpoint is already connected"
  | 107 => some "Transport endpoint is not connected"
  | 108 => some "Cannot send after transport endpoint shutdown"
  | 109 => some "Too many references: cannot splice"
  | 110 => some "Connection timed out"
  | 111 => some "Connection refused"
  | 112 => some "Host is down"
  | 113 => some "No route to host"
  | 114 => some "Operation already in progress"
  | 115 => some "Operation now in progress"
  | 116 => some "Stale file handle"
  | 117 => some "Structure needs cleaning"
  | 118 => some "Not a XENIX named type file"
  | 119 => some "No XENIX semaphores available"
  | 120 => some "Is a named type file"
  | 121 => some "Remote I/O error"
  | 122 => some "Disk quota exceeded"
  | 123 => some "No medium found"
  | 124 => some "Wrong medium type"
  | 125 => some "Operation canceled"
  | 126 => some "Required key not available"
  | 127 => some "Key has expired"
  | 128 => some "Key has been revoked"
  | 129 => some "Key was rejected by service"
  | 130 => some "Owner died"
  | 131 => some "State not recoverable"
  | 132 => some "Operation not possible due to RF-kill"
  | 133 => some "Memory page has hardware error"
  | _ => none

end Errno

/-!
## Error codes

An error as the operating system reports it: a signed code. Its category and its texts are read off
the code alone, and every text ends in the code, so two errors that look alike are the same error.
-/

/-- Outcomes can be compared if their errors and their values can. -/
instance decidableEqExcept {ε α : Type} [DecidableEq ε] [DecidableEq α] :
    DecidableEq (Except ε α)
  | .ok a, .ok b =>
    if h : a = b then .isTrue (congrArg _ h) else .isFalse fun e => h (Except.ok.inj e)
  | .error a, .error b =>
    if h : a = b then .isTrue (congrArg _ h) else .isFalse fun e => h (Except.error.inj e)
  | .ok _, .error _ => .isFalse nofun
  | .error _, .ok _ => .isFalse nofun

/-- An error code of the operating system; also the content of a thread's errno. -/
structure Errno where
  code : Int
deriving DecidableEq, Repr

namespace Errno

/-! ### The codes that this library's calls give -/

/-- No error; what errno holds before any call failed. -/
def success : Errno := ⟨0⟩
/-- A path names nothing. -/
def noEntry : Errno := ⟨2⟩
/-- A wait was ended by a signal. -/
def interrupted : Errno := ⟨4⟩
/-- A file that cannot be opened by its path. -/
def noDevice : Errno := ⟨6⟩
/-- A descriptor is not open. -/
def badDescriptor : Errno := ⟨9⟩
/-- A null pointer where memory is needed. -/
def badAddress : Errno := ⟨14⟩
/-- A path goes through something that is not a directory. -/
def notDirectory : Errno := ⟨20⟩
/-- A directory is read like a file. -/
def isDirectory : Errno := ⟨21⟩
/-- A name or a path is too long. -/
def nameTooLong : Errno := ⟨36⟩
/-- A path goes through too many links. -/
def tooManyLinks : Errno := ⟨40⟩

/-- The code of an error that the operating system gave no code for. -/
def unknown : Errno := ⟨0⟩

/-! ### Views -/

/-- The category of an error. -/
def kind (e : Errno) : ErrorKind := .ofCode e.code

/-- The text of an error without its code. -/
def text (e : Errno) : Bytes :=
  match knownText? e.code with
  | some text => ascii text
  | none => ascii "Unknown error " ++ Decimal.ofInt e.code

/-- **The message of an error:** its text, and its code in parentheses. -/
def message (e : Errno) : Bytes :=
  e.text ++ ascii " (os error " ++ Decimal.ofInt e.code ++ ascii ")"

/-- The debug form of an error: its code and its category. -/
def debug (e : Errno) : Bytes :=
  ascii "OsError(" ++ Decimal.ofInt e.code ++ ascii ", " ++ ascii e.kind.name ++ ascii ")"

/-- **The outcome of a system call** by its result: a result that is not negative is passed on, a
negative one stands for the error that errno holds. -/
def check (e : Errno) (result : Int) : Except Errno Nat :=
  match result with
  | .ofNat n => .ok n
  | .negSucc _ => .error e

@[simp] theorem check_ofNat (e : Errno) (n : Nat) : e.check n = .ok n := rfl

theorem check_of_neg (e : Errno) {result : Int} (h : result < 0) : e.check result = .error e := by
  match result with
  | .ofNat n => exact absurd h (Int.not_lt.2 (Int.natCast_nonneg n))
  | .negSucc _ => rfl

end Errno

/-!
## Descriptors

The number that stands for an open file. A descriptor is a plain value: it is neither closed by
itself nor known to be open. A negative number never stands for an open file, and
`Descriptor.invalid` is the one that a failed open gives.
-/

/-- A descriptor number. -/
structure Descriptor where
  number : Int
deriving DecidableEq, Repr

namespace Descriptor

/-- What an open gives that failed. -/
def invalid : Descriptor := ⟨-1⟩

/-- Whether the number could stand for an open file. -/
def isValid (d : Descriptor) : Bool := 0 ≤ d.number

/-- The descriptor if it is valid, else the error that errno holds. -/
def check (e : Errno) (d : Descriptor) : Except Errno Descriptor :=
  if d.isValid then .ok d else .error e

theorem check_of_neg (e : Errno) {d : Descriptor} (h : d.number < 0) : d.check e = .error e :=
  if_neg fun hvalid => absurd h (Int.not_lt.mpr (of_decide_eq_true hvalid))

/-- The debug form of a descriptor. -/
def debug (d : Descriptor) : Bytes := ascii "Handle(" ++ Decimal.ofInt d.number ++ ascii ")"

/-- Descriptors are ordered by number. -/
def compare (d other : Descriptor) : Ordering := Ord.compare d.number other.number

/-- The greater of two descriptors. -/
def max (d other : Descriptor) : Descriptor := if d.number ≤ other.number then other else d

/-- Descriptors in ascending order. -/
def sorted (ds : List Descriptor) : List Descriptor := ds.mergeSort fun a b => a.number ≤ b.number

end Descriptor

/-!
## Errors of byte streams

Reading a descriptor as a stream fails with the error of a system call, or with an error that the
stream finds itself: the stream ended too early, or it was not text. Only the former has a code;
`StreamError.toErrno` gives the others the unknown code.
-/

/-- An error of a byte stream. -/
inductive StreamError where
  /-- A system call failed. -/
  | system (e : Errno)
  /-- An error of some category, without a text of its own: the category describes it. -/
  | bare (kind : ErrorKind)
  /-- An error of some category with a text. -/
  | described (kind : ErrorKind) (text : Bytes)
deriving DecidableEq, Repr

namespace StreamError

/-- The stream ended before the buffer was full. -/
def unexpectedEnd : StreamError := .described .unexpectedEof (ascii "failed to fill whole buffer")

/-- The stream is not well-formed UTF-8. -/
def notText : StreamError :=
  .described .invalidData (ascii "stream did not contain valid UTF-8")

/-- The category of an error. -/
def kind : StreamError → ErrorKind
  | .system e => e.kind
  | .bare kind => kind
  | .described kind _ => kind

/-- The code of the system call that failed, if there is one. -/
def code? : StreamError → Option Int
  | .system e => some e.code
  | _ => none

/-- The message of an error. -/
def message : StreamError → Bytes
  | .system e => e.message
  | .bare kind => ascii kind.description
  | .described _ text => text

/-- The error code of a stream error, unknown if it has none. -/
def toErrno : StreamError → Errno
  | .system e => e
  | _ => .unknown

/-- An error code survives being a stream error. -/
@[simp] theorem toErrno_system (e : Errno) : (system e).toErrno = e := rfl

end StreamError

end TracedPipe
