import Failsafe.Named

/-!
# Failures

What a failed call hands back: a `Failure`, with the kind the classifier looks at first (`Failure.kind`), the
name recorded for it (`Failure.kindName`) and its text (`Failure.message`).

A failure of a remote call puts its kind in front of its text; a system fault without a text of its own has
a fixed one.
-/

namespace Failsafe

/-- What sort of thing went wrong, whatever the text says. -/
inductive FailureKind where
  | connection
  | timeout
  /-- Raised by an outside library. -/
  | sdk
  /-- A submitted transaction was rejected or reverted. -/
  | transaction
  | other
deriving DecidableEq, Repr

namespace FailureKind

def all : List FailureKind := [connection, timeout, sdk, transaction, other]

def name : FailureKind → String
  | connection => "Connection"
  | timeout => "Timeout"
  | sdk => "Sdk"
  | transaction => "Transaction"
  | other => "Other"

/-- What a remote call's failure of this kind says before its own text. -/
def callLabel : FailureKind → String
  | connection => "connection error: "
  | timeout => "timeout: "
  | sdk => "sdk error: "
  | transaction => "transaction failed: "
  | other => ""

end FailureKind

instance : Named FailureKind := ⟨FailureKind.all, FailureKind.name, fun a => by cases a <;> rfl⟩

/-- Faults of the operating system. -/
inductive SystemFault where
  | notFound
  | permissionDenied
  | connectionRefused
  | connectionReset
  | connectionAborted
  | notConnected
  | addrInUse
  | addrNotAvailable
  | brokenPipe
  | alreadyExists
  | wouldBlock
  | invalidInput
  | invalidData
  | timedOut
  | writeZero
  | interrupted
  | unsupported
  | unexpectedEof
  | outOfMemory
  | other
  | hostUnreachable
  | networkUnreachable
  | networkDown
deriving DecidableEq, Repr

namespace SystemFault

def all : List SystemFault :=
  [notFound, permissionDenied, connectionRefused, connectionReset, connectionAborted, notConnected,
   addrInUse, addrNotAvailable, brokenPipe, alreadyExists, wouldBlock, invalidInput, invalidData,
   timedOut, writeZero, interrupted, unsupported, unexpectedEof, outOfMemory, other, hostUnreachable,
   networkUnreachable, networkDown]

def name : SystemFault → String
  | notFound => "NotFound"
  | permissionDenied => "PermissionDenied"
  | connectionRefused => "ConnectionRefused"
  | connectionReset => "ConnectionReset"
  | connectionAborted => "ConnectionAborted"
  | notConnected => "NotConnected"
  | addrInUse => "AddrInUse"
  | addrNotAvailable => "AddrNotAvailable"
  | brokenPipe => "BrokenPipe"
  | alreadyExists => "AlreadyExists"
  | wouldBlock => "WouldBlock"
  | invalidInput => "InvalidInput"
  | invalidData => "InvalidData"
  | timedOut => "TimedOut"
  | writeZero => "WriteZero"
  | interrupted => "Interrupted"
  | unsupported => "Unsupported"
  | unexpectedEof => "UnexpectedEof"
  | outOfMemory => "OutOfMemory"
  | other => "Other"
  | hostUnreachable => "HostUnreachable"
  | networkUnreachable => "NetworkUnreachable"
  | networkDown => "NetworkDown"

/-- The text of a fault that brings none of its own. -/
def text : SystemFault → String
  | notFound => "entity not found"
  | permissionDenied => "permission denied"
  | connectionRefused => "connection refused"
  | connectionReset => "connection reset"
  | connectionAborted => "connection aborted"
  | notConnected => "not connected"
  | addrInUse => "address in use"
  | addrNotAvailable => "address not available"
  | brokenPipe => "broken pipe"
  | alreadyExists => "entity already exists"
  | wouldBlock => "operation would block"
  | invalidInput => "invalid input parameter"
  | invalidData => "invalid data"
  | timedOut => "timed out"
  | writeZero => "write zero"
  | interrupted => "operation interrupted"
  | unsupported => "unsupported"
  | unexpectedEof => "unexpected end of file"
  | outOfMemory => "out of memory"
  | other => "other error"
  | hostUnreachable => "host unreachable"
  | networkUnreachable => "network unreachable"
  | networkDown => "network down"

/-- Faults of a connection count as such, a fault that timed out as a timeout, and no other fault has a kind
of its own. -/
def kind : SystemFault → FailureKind
  | connectionRefused | connectionReset | connectionAborted | notConnected | addrNotAvailable
  | brokenPipe => .connection
  | timedOut => .timeout
  | _ => .other

end SystemFault

instance : Named SystemFault := ⟨SystemFault.all, SystemFault.name, fun a => by cases a <;> rfl⟩

/-- The error value of a failed call. -/
inductive Failure where
  /-- A remote call's failure; its kind is part of its text. -/
  | call (kind : FailureKind) (text : String)
  /-- A fault of the operating system, with a text of its own or the fault's. -/
  | system (fault : SystemFault) (text : Option String)
  /-- A deadline passed. -/
  | deadline
  /-- An error that says nothing about its kind. -/
  | plain (text : String)
  /-- An error that names its kind and keeps its text bare. -/
  | tagged (kind : FailureKind) (text : String)
deriving DecidableEq, Repr

namespace Failure

def kind : Failure → FailureKind
  | call kind _ => kind
  | system fault _ => fault.kind
  | deadline => .timeout
  | plain _ => .other
  | tagged kind _ => kind

/-- The short name recorded for a failure. -/
def kindName : Failure → String
  | call kind _ => kind.name
  | system fault _ => "io::" ++ fault.name
  | deadline => "Elapsed"
  | plain _ => FailureKind.other.name
  | tagged kind _ => kind.name

def message : Failure → String
  | call kind text => kind.callLabel ++ text
  | system fault text => text.getD fault.text
  | deadline => "deadline has elapsed"
  | plain text => text
  | tagged _ text => text

end Failure

end Failsafe
