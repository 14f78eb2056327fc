import AsyncFrame.Registrations

/-!
# From socket() to Connection

`BuilderServer` and `async_connect`, with the builders they call, inside the
program.  Until a `Connection` owns it a socket is a bare `int`, which only
the call knows that opened it.  The environment chooses what the system calls
answer; the calls made on a socket are recorded, oldest first.
-/

namespace AsyncFrame

/-! ## connecting.h -/

/-- `IPV4` and `IPV6`. -/
inductive Family where
  | ipv4
  | ipv6
  deriving DecidableEq, Repr

/-- `TCP` and `UDP`. -/
inductive Protocal where
  | tcp
  | udp
  deriving DecidableEq, Repr

/-- The bytes of an `in_addr` or `in6_addr`. -/
abbrev InAddr := List UInt8

/-- `INADDR_ANY` or `IN6ADDR_ANY_INIT`. -/
def Family.anyAddr : Family → InAddr
  | .ipv4 => List.replicate 4 0
  | .ipv6 => List.replicate 16 0

/-- `sockaddr_in` or `sockaddr_in6`; the port is what `htons` takes. -/
structure SockAddr where
  family : Family
  port : BitVec 16
  addr : InAddr
  deriving DecidableEq, Repr

/-- What `inet_pton` returns: one, zero, or minus one with `errno`. -/
inductive PtonOutcome where
  | converted (addr : InAddr)
  | notAnAddress
  | failed (errno : Errno)
  deriving DecidableEq, Repr

/-- What is thrown.  The text of `strerror(errno)` follows `what` where there
is an `errno`. -/
inductive Exception where
  | invalidArgument (what : String)
  | runtimeError (what : String) (errno : Option Errno)
  deriving DecidableEq, Repr

def ipToInAddr : PtonOutcome → Except Exception InAddr
  | .converted addr => .ok addr
  | .notAnAddress => .error (.invalidArgument "invalid ip address")
  | .failed errno => .error (.runtimeError "inet_pton() : " (some errno))

/-- `FamilyTraits<FAMILY>::parse`.  A null pointer and an empty string stand
for any address, and `inet_pton` is not asked. -/
def FamilyTraits.parse (family : Family) (port : Int)
    (ip : Option (List Char)) (pton : PtonOutcome) :
    Except Exception SockAddr :=
  let port := BitVec.ofInt 16 port
  match ip with
  | none => .ok ⟨family, port, family.anyAddr⟩
  | some [] => .ok ⟨family, port, family.anyAddr⟩
  | some (_ :: _) =>
      (ipToInAddr pton).map fun addr => ⟨family, port, addr⟩

/-- A call on a socket; `socket` that gave a descriptor. -/
inductive Syscall where
  | socket (family : Family) (protocal : Protocal) (fd : Fd)
  | bind (fd : Fd) (addr : SockAddr)
  | listen (fd : Fd) (backlog : Nat)
  | connect (fd : Fd) (addr : SockAddr)
  | close (fd : Fd)
  deriving DecidableEq, Repr

def Syscall.opened? : Syscall → Option Fd
  | .socket _ _ fd => some fd
  | _ => none

def Syscall.closed? : Syscall → Option Fd
  | .close fd => some fd
  | _ => none

/-- What the system calls of one call answer: `connect` gives zero or `errno`.
A builder converts its address twice. -/
structure Kernel where
  socket : Except Errno Fd
  inetPton : PtonOutcome := .notAnAddress
  inetPtonAgain : PtonOutcome := .notAnAddress
  bind : Option Errno := none
  listen : Option Errno := none
  connect : Errno := 0
  deriving DecidableEq

/-- A builder may throw; the calls that it made stay made. -/
abbrev Builder := ExceptT Exception (StateM (List Syscall))

namespace Builder

def call (made : Syscall) : Builder Unit :=
  modify fun calls => calls ++ [made]

/-- The outcome of a builder, and its calls. -/
def outcome {α : Type} (builder : Builder α) :
    Except Exception α × List Syscall :=
  builder.run.run []

end Builder

def MAX_LISTEN_SOCKET : Nat := 1024

section Builders

variable (family : Family) (protocal : Protocal) (port : Int)
variable (ip : Option (List Char)) (kernel : Kernel)

def createSock : Builder Fd :=
  match kernel.socket with
  | .error _ => throw (.runtimeError "socket() failed" none)
  | .ok fd => do
      Builder.call (.socket family protocal fd)
      let _ ← MonadExcept.ofExcept
        (FamilyTraits.parse family port ip kernel.inetPton)
      return fd

/-- `ConnectionBuilder<FAMILY, PROTOCAL, SERVER_ROLE>::build`. -/
def buildListener : Builder Fd := do
  let fd ← createSock family protocal port ip kernel
  let addr ← MonadExcept.ofExcept
    (FamilyTraits.parse family port ip kernel.inetPtonAgain)
  Builder.call (.bind fd addr)
  match kernel.bind with
  | some errno => throw (.runtimeError "bind() : " (some errno))
  | none => pure ()
  Builder.call (.listen fd MAX_LISTEN_SOCKET)
  match kernel.listen with
  | some errno => throw (.runtimeError "listen() : " (some errno))
  | none => return fd

/-- `ConnectionBuilder<FAMILY, PROTOCAL, CLENT_ROLE>::build`. -/
def buildClient : Builder (Fd × SockAddr) := do
  let fd ← createSock family protocal port ip kernel
  let addr ← MonadExcept.ofExcept
    (FamilyTraits.parse family port ip kernel.inetPtonAgain)
  return (fd, addr)

/-- The descriptor of the `Connection` that `BuilderServer` returns. -/
def BuilderServer : Builder Fd :=
  buildListener family protocal port ip kernel

def BuilderClient : Builder (Fd × SockAddr) :=
  buildClient family protocal port ip kernel

end Builders

/-! ## async_connect.h -/

/-- `connect_error`: what `getsockopt` gives, `errno` or the value of
`SO_ERROR`. -/
def connectError : Except Errno Errno → ErrorCode
  | .error errno => errno
  | .ok err => if err ≠ 0 then err else 0

/-- How a call ends: with a `Connection`, `none` for one without a socket, and
an error code, or with an exception.  `BuilderServer` returns no code, which
stands here as the empty one. -/
inductive Ending where
  | returned (ec : ErrorCode) (connection : Option Fd)
  | thrown (exception : Exception)
  deriving DecidableEq, Repr

/-- A call that has ended, with its calls on sockets. -/
structure Ended where
  calls : List Syscall
  ending : Ending
  deriving DecidableEq, Repr

namespace Ended

def opened (call : Ended) : List Fd :=
  call.calls.filterMap Syscall.opened?

def closed (call : Ended) : List Fd :=
  call.calls.filterMap Syscall.closed?

end Ended

/-- `connect_await`, with the calls made so far. -/
structure ConnectAwait where
  conn : Fd
  addr : SockAddr
  calls : List Syscall
  deriving DecidableEq, Repr

/-- `connect_await::await_resume`: the last calls, and what it returns. -/
def ConnectAwait.awaitResume (this : ConnectAwait) (ec : ErrorCode) :
    List Syscall × Ending :=
  if ec ≠ 0 then ([.close this.conn], .returned ec none)
  else ([], .returned 0 (some this.conn))

/-! ## The program with its sockets -/

/-- The socket that an operation connects. -/
def Operation.connects? : Operation → Option Fd
  | .asyncConnect conn => some conn
  | _ => none

/-- What `connect_error` finds when an action resumes a connect. -/
def Action.answering (ec : ErrorCode) : Action → Action
  | .dispatch io => .dispatch { io with soError := ec }
  | .dispatchWrite io => .dispatchWrite { io with soError := ec }
  | action => action

namespace System

variable {queues : TimerQueue}

/-- The kernel's part of a call. -/
def serve (s : System queues) : Syscall → System queues
  | .socket _ _ fd => s.perform (.openFd fd .socket)
  | .close fd => s.perform (.closeFd fd)
  | _ => s

/-- The result that an awaiting coroutine has just been resumed with. -/
def resumedWith (s : System queues) : Option OpResult :=
  match s.trace with
  | .resumed _ result :: _ => some result
  | _ => none

end System

/-- The program; `connecting` are the `connect_await` objects of the
suspended connects, by the frames of their coroutines, and `ended` is the call
that the last step ended. -/
structure Sockets (queues : TimerQueue) where
  system : System queues
  connecting : Finmap fun _ : Addr => ConnectAwait
  ended : Option Ended

namespace Sockets

/-- What happens next: the program calls `BuilderServer`, it calls
`async_connect` and awaits that, or anything else. -/
inductive Action where
  | builderServer (family : Family) (protocal : Protocal) (port : Int)
      (ip : Option (List Char)) (kernel : Kernel)
  | asyncConnect (frame : Addr) (family : Family) (protocal : Protocal)
      (ip : Option (List Char)) (port : Int) (kernel : Kernel)
  | program (action : AsyncFrame.Action) (getsockopt : Except Errno Errno)
  deriving DecidableEq

variable {queues : TimerQueue}

def initial (queues : TimerQueue) (timerFd : Fd) (uptime : Nat)
    (buffers : BufferRef → Buffer) : Sockets queues where
  system := System.initial queues timerFd uptime buffers
  connecting := ∅
  ended := none

/-- `socket` gives a descriptor that is not in use. -/
def allots (s : Sockets queues) (kernel : Kernel) : Bool :=
  match kernel.socket with
  | .error _ => true
  | .ok fd => s.system.rt.files fd = .closed

/-- The program connects through `async_connect` only, and has not got the
socket of a connect that is suspended. -/
def discreet (s : Sockets queues) (action : AsyncFrame.Action) : Bool :=
  action.starts?.all fun operation =>
    operation.connects?.isNone &&
      !s.system.anyPending fun op =>
        op.operation.connects?.any operation.touches

/-- The action may be taken in this state. -/
def enabled (s : Sockets queues) : Action → Bool
  | .builderServer _ _ _ _ kernel => s.system.acts && s.allots kernel
  | .asyncConnect frame _ _ _ _ kernel =>
      s.system.runningFrame.isSome &&
        s.system.frames.lookup frame = none && s.allots kernel
  | .program action _ => s.system.enabled action && s.discreet action

/-- The call ends with these last calls. -/
def conclude (s : Sockets queues) (before : List Syscall)
    (last : List Syscall × Ending) : Sockets queues :=
  { s with
    system := last.1.foldl System.serve s.system
    ended := some ⟨before ++ last.1, last.2⟩ }

/-- The suspended connect that an action of the program resumes. -/
def resumes (s : Sockets queues) (action : AsyncFrame.Action) :
    Option (Addr × ConnectAwait) :=
  (s.system.completes action).bind fun pointer =>
    (s.connecting.lookup pointer.frame).map fun this =>
      (pointer.frame, this)

def builderServer (s : Sockets queues) (family : Family)
    (protocal : Protocal) (port : Int) (ip : Option (List Char))
    (kernel : Kernel) : Sockets queues :=
  match (BuilderServer family protocal port ip kernel).outcome with
  | (.ok fd, calls) => s.conclude [] (calls, .returned 0 (some fd))
  | (.error exception, calls) => s.conclude [] (calls, .thrown exception)

/-- `co_await async_connect(s, ip, port)` by the running coroutine. -/
def asyncConnect (s : Sockets queues) (frame : Addr) (family : Family)
    (protocal : Protocal) (ip : Option (List Char)) (port : Int)
    (kernel : Kernel) : Sockets queues :=
  match (BuilderClient family protocal port ip kernel).outcome with
  | (.error exception, calls) => s.conclude [] (calls, .thrown exception)
  | (.ok (conn, addr), calls) =>
      let built := calls.foldl System.serve s.system
      let io : Io := { connect := kernel.connect }
      let this : ConnectAwait :=
        ⟨conn, addr, calls ++ [.connect conn addr]⟩
      let s : Sockets queues :=
        { s with system := built.await frame (.asyncConnect conn) io }
      match (Operation.start frame io built.rt
          (.asyncConnect conn)).returned with
      | some result => s.conclude this.calls (this.awaitResume result.ec)
      | none =>
          { s with
            connecting := s.connecting.insert frame this
            ended := none }

/-- An action of the program; the coroutine that awaits a connect is resumed
in its `await_resume`. -/
def program (s : Sockets queues) (action : AsyncFrame.Action) :
    Sockets queues :=
  let system := s.system.perform action
  match s.resumes action, system.resumedWith with
  | some (frame, this), some result =>
      { s with
        system := system
        connecting := s.connecting.erase frame }.conclude this.calls
          (this.awaitResume result.ec)
  | _, _ => { s with system := system, ended := none }

def perform (s : Sockets queues) : Action → Sockets queues
  | .builderServer family protocal port ip kernel =>
      s.builderServer family protocal port ip kernel
  | .asyncConnect frame family protocal ip port kernel =>
      s.asyncConnect frame family protocal ip port kernel
  | .program action getsockopt =>
      s.program (action.answering (connectError getsockopt))

/-- One step.  After a fault there is none. -/
def step (s : Sockets queues) (action : Action) : Option (Sockets queues) :=
  if s.system.rt.fault = none ∧ s.enabled action = true then
    some (s.perform action)
  else
    none

/-- No operation is suspended inside a frame that the action destroys. -/
def keepsPending (s : Sockets queues) : Action → Bool
  | .program action _ => s.system.keepsPending action
  | _ => true

end Sockets

end AsyncFrame
