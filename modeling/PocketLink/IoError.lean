/-!
# Failures of the operating system

Streams, sockets and files fail for reasons that the operating system reports by number, and for a
few that are found before it is asked. Each cause is a constructor; the text that a user sees is
made in one place.
-/

namespace PocketLink

/-- Why an operation on a stream, a socket or a file failed. -/
inductive IoError where
  /-- A stream ended before all requested bytes had come. -/
  | endOfStream
  /-- Data ended where more was expected, without a count being asked for. -/
  | unexpectedEnd
  /-- A writer took no more bytes. -/
  | writeRefused
  /-- Nothing arrived within the deadline. -/
  | wouldBlock
  /-- The other side no longer reads, or this side was shut down. -/
  | brokenPipe
  /-- No route leads to the address. -/
  | networkUnreachable
  /-- Nobody listens at the address. -/
  | connectionRefused
  /-- A descriptor that is no socket was used as one. -/
  | notASocket
  /-- A socket of a family that carries no device connections. -/
  | unsupportedFamily (family : String)
  /-- A socket address path holds a zero byte. -/
  | zeroByteInAddress
  /-- A socket address path does not fit the address. -/
  | addressTooLong
  /-- A deadline of no time at all. -/
  | zeroTimeout
  /-- An argument that the operating system does not take. -/
  | invalidArgument
  /-- No room for what was received. -/
  | noBufferSpace
  /-- No such file or directory. -/
  | notFound
  /-- The file exists already. -/
  | alreadyExists
  /-- A file stands where a directory is needed. -/
  | notADirectory
  /-- A directory stands where a file is needed. -/
  | isADirectory
  /-- A file name or a path exceeds the length limit of the file system. -/
  | nameTooLong
  /-- A file name holds a zero byte. -/
  | zeroByteInName
  /-- A text file that is not UTF-8. -/
  | invalidUtf8
  /-- A socket was opened like a file. -/
  | noSuchDevice
  deriving DecidableEq, Repr

/-- The short name of the kind of a cause. -/
def IoError.kind : IoError → String
  | .endOfStream | .unexpectedEnd => "UnexpectedEof"
  | .writeRefused => "WriteZero"
  | .wouldBlock => "WouldBlock"
  | .brokenPipe => "BrokenPipe"
  | .networkUnreachable => "NetworkUnreachable"
  | .connectionRefused => "ConnectionRefused"
  | .notASocket | .noBufferSpace | .noSuchDevice => "Uncategorized"
  | .unsupportedFamily _ | .zeroByteInAddress | .addressTooLong | .zeroTimeout | .invalidArgument
  | .zeroByteInName => "InvalidInput"
  | .notFound => "NotFound"
  | .alreadyExists => "AlreadyExists"
  | .notADirectory => "NotADirectory"
  | .isADirectory => "IsADirectory"
  | .nameTooLong => "InvalidFilename"
  | .invalidUtf8 => "InvalidData"

/-- The text of an error that the operating system reports by number. -/
def IoError.numbered (text : String) (number : Nat) : String :=
  text ++ " (os error " ++ Nat.repr number ++ ")"

/-- The text shown for a cause. -/
def IoError.message : IoError → String
  | .endOfStream => "failed to fill whole buffer"
  | .unexpectedEnd => "unexpected end of file"
  | .writeRefused => "failed to write whole buffer"
  | .wouldBlock => numbered "Resource temporarily unavailable" 11
  | .brokenPipe => numbered "Broken pipe" 32
  | .networkUnreachable => numbered "Network is unreachable" 101
  | .connectionRefused => numbered "Connection refused" 111
  | .notASocket => numbered "Socket operation on non-socket" 88
  | .unsupportedFamily family => "unsupported socket family Some(" ++ family ++ ")"
  | .zeroByteInAddress => "paths must not contain interior null bytes"
  | .addressTooLong => "path must be shorter than SUN_LEN"
  | .zeroTimeout => "cannot set a 0 duration timeout"
  | .invalidArgument => numbered "Invalid argument" 22
  | .noBufferSpace => numbered "No buffer space available" 105
  | .notFound => numbered "No such file or directory" 2
  | .alreadyExists => numbered "File exists" 17
  | .notADirectory => numbered "Not a directory" 20
  | .isADirectory => numbered "Is a directory" 21
  | .nameTooLong => numbered "File name too long" 36
  | .zeroByteInName => "file name contained an unexpected NUL byte"
  | .noSuchDevice => numbered "No such device or address" 6
  | .invalidUtf8 => "stream did not contain valid UTF-8"

end PocketLink
