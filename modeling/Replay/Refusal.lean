/-! Refusals: why an operating system does not do what it is asked for. -/
namespace Replay

inductive Refusal where
  | notPermitted
  | notFound
  | noProcess
  | interrupted
  | ioFault
  | noDevice
  | notExecutable
  | badDescriptor
  | noChild
  | notAllowed
  | occupied
  | notDirectory
  | isDirectory
  | invalid
  | noSpace
  | illegalSeek
  | brokenPipe
  | nameTooLong
  | notEmpty
  | tooManyLinks
  deriving DecidableEq, Repr

namespace Refusal

def number : Refusal → Nat
  | notPermitted => 1
  | notFound => 2
  | noProcess => 3
  | interrupted => 4
  | ioFault => 5
  | noDevice => 6
  | notExecutable => 8
  | badDescriptor => 9
  | noChild => 10
  | notAllowed => 13
  | occupied => 17
  | notDirectory => 20
  | isDirectory => 21
  | invalid => 22
  | noSpace => 28
  | illegalSeek => 29
  | brokenPipe => 32
  | nameTooLong => 36
  | notEmpty => 39
  | tooManyLinks => 40

def text : Refusal → String
  | notPermitted => "Operation not permitted"
  | notFound => "No such file or directory"
  | noProcess => "No such process"
  | interrupted => "Interrupted system call"
  | ioFault => "Input/output error"
  | noDevice => "No such device or address"
  | notExecutable => "Exec format error"
  | badDescriptor => "Bad file descriptor"
  | noChild => "No child processes"
  | notAllowed => "Permission denied"
  | occupied => "File exists"
  | notDirectory => "Not a directory"
  | isDirectory => "Is a directory"
  | invalid => "Invalid argument"
  | noSpace => "No space left on device"
  | illegalSeek => "Illegal seek"
  | brokenPipe => "Broken pipe"
  | nameTooLong => "File name too long"
  | notEmpty => "Directory not empty"
  | tooManyLinks => "Too many levels of symbolic links"

def message (r : Refusal) : String :=
  r.text ++ " (os error " ++ String.ofList (Nat.toDigits 10 r.number) ++ ")"

end Refusal

end Replay
