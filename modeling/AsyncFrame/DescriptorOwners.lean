import AsyncFrame.Events
import AsyncFrame.Lib.Ownership
import AsyncFrame.Lib.Runs

/-!
# The owning types

`fdo`, `Epoll_Manager`, `Connection`, `MakeSocket<TCP_PROTOCAL>`, `Acceptor`
and `BuildServer` each keep one descriptor in an `int`.  Their constructors,
assignments, swaps and destructors are given as they change these fields and
call `close`, together with the kernel's table of open descriptors, which may
give a closed number out again.  An object is known by the number of its
construction; functions take the numbers of the objects they work on.
-/

namespace AsyncFrame

open Lib

/-- A descriptor as the kernel gave it once. -/
abbrev Descriptor := Ticket Fd

inductive OwnerKind where
  | fdo
  | epollManager
  | connection
  | makeSocket
  | acceptor
  | buildServer
  deriving DecidableEq, Repr

/-- The kernel's table with the descriptors passed to `close` so far, and the
objects: their kinds while they live, and their `int` fields, in which `none`
is `-1`.  `spent` is the descriptor on which an object has called
`fdo::close_fd`, which leaves the field as it is.  `undefined` is set when the
behaviour of the program is. -/
structure Owners where
  table : Fd → Option Nat
  nextSerial : Nat
  closes : List Descriptor
  kind : Nat → Option OwnerKind
  fd : Nat → Option Descriptor
  spent : Nat → Option Descriptor
  nextObject : Nat
  undefined : Bool

namespace Owners

def initial : Owners where
  table := fun _ => none
  nextSerial := 0
  closes := []
  kind := fun _ => none
  fd := fun _ => none
  spent := fun _ => none
  nextObject := 0
  undefined := false

/-! ## Kernel and fields -/

/-- `::close`, unless the field is `-1`. -/
def close (s : Owners) (fd : Option Descriptor) : Owners :=
  match fd with
  | none => s
  | some descriptor =>
      { s with
        table := Function.update s.table descriptor.number none
        closes := descriptor :: s.closes }

/-- A call that gives a new descriptor, or fails. -/
def grant (s : Owners) (number : Option Fd) : Owners × Option Descriptor :=
  match number with
  | none => (s, none)
  | some number =>
      ({ s with
          table := Function.update s.table number (some s.nextSerial)
          nextSerial := s.nextSerial + 1 },
        some ⟨number, s.nextSerial⟩)

def write (s : Owners) (this : Nat) (fd : Option Descriptor) : Owners :=
  { s with fd := Function.update s.fd this fd }

/-- A new object with this field. -/
def create (s : Owners) (kind : OwnerKind) (fd : Option Descriptor) :
    Owners :=
  { s with
    kind := Function.update s.kind s.nextObject (some kind)
    fd := Function.update s.fd s.nextObject fd
    nextObject := s.nextObject + 1 }

/-- The storage of an object is gone. -/
def erase (s : Owners) (this : Nat) : Owners :=
  { s with
    kind := Function.update s.kind this none
    fd := Function.update s.fd this none
    spent := Function.update s.spent this none }

/-- `std::swap` of two `int` fields. -/
def swapFields (s : Owners) (lhs rhs : Nat) : Owners :=
  (s.write lhs (s.fd rhs)).write rhs (s.fd lhs)

/-- `std::swap` of two objects: a move construction, two move assignments and
a destruction. -/
def stdSwap (moveConstruct : Owners → Nat → Owners)
    (moveAssign : Owners → Nat → Nat → Owners)
    (destroy : Owners → Nat → Owners) (s : Owners) (lhs rhs : Nat) :
    Owners :=
  let temporary := s.nextObject
  let s := moveConstruct s lhs
  let s := moveAssign s lhs rhs
  let s := moveAssign s rhs temporary
  destroy s temporary

/-! ## fd_object.h -/

namespace Fdo

def closeFd (s : Owners) (this : Nat) : Owners :=
  match s.fd this with
  | none => s
  | some descriptor =>
      { s.close (some descriptor) with
        spent := Function.update s.spent this (some descriptor) }

def moveConstruct (s : Owners) (other : Nat) : Owners :=
  (s.create .fdo (s.fd other)).write other none

def moveAssign (s : Owners) (this other : Nat) : Owners :=
  s.swapFields other this

def destroy (s : Owners) (this : Nat) : Owners :=
  (closeFd s this).erase this

def swap : Owners → Nat → Nat → Owners :=
  stdSwap moveConstruct moveAssign destroy

end Fdo

/-! ## epoll_manager.h -/

namespace EpollManager

/-- The field is that of `epfd`.  The constructor throws if there is no
descriptor. -/
def construct (s : Owners) (number : Option Fd) : Owners :=
  match s.grant number with
  | (s, none) => s
  | (s, some epfd) => s.create .epollManager (some epfd)

def moveConstruct (s : Owners) (other : Nat) : Owners :=
  Fdo.closeFd (s.create .epollManager (s.fd other)) other

/-- `swap(lhs, rhs)`: the members are swapped. -/
def swap (s : Owners) (lhs rhs : Nat) : Owners :=
  Fdo.swap s lhs rhs

/-- After the swap the end of the function is reached without a `return`. -/
def moveAssign (s : Owners) (this other : Nat) : Owners :=
  if this = other then s
  else { swap s this other with undefined := true }

def destroy (s : Owners) (this : Nat) : Owners :=
  Fdo.destroy s this

end EpollManager

/-! ## connection.h -/

namespace Connection

def closeFd (s : Owners) (this : Nat) : Owners :=
  match s.fd this with
  | none => s
  | some descriptor => (s.close (some descriptor)).write this none

def moveConstruct (s : Owners) (other : Nat) : Owners :=
  (s.create .connection (s.fd other)).write other none

def moveAssign (s : Owners) (this other : Nat) : Owners :=
  if this = other then s
  else
    let s := closeFd s this
    (s.write this (s.fd other)).write other none

def swap (s : Owners) (lhs rhs : Nat) : Owners :=
  s.swapFields lhs rhs

def destroy (s : Owners) (this : Nat) : Owners :=
  (closeFd s this).erase this

end Connection

/-! ## connector.hpp

`MakeSocket<TCP_PROTOCAL>` declares a destructor and no copy or move: both are
the implicit copy.  Of `Acceptor` the copy constructor is deleted and the copy
assignment is implicit.  `BuildServer` has no destructor, and its copies are
implicit. -/

namespace MakeSocket

def construct (s : Owners) (number : Option Fd) : Owners :=
  match s.grant number with
  | (s, none) => s
  | (s, some socket) => s.create .makeSocket (some socket)

def copyConstruct (s : Owners) (other : Nat) : Owners :=
  s.create .makeSocket (s.fd other)

def copyAssign (s : Owners) (this other : Nat) : Owners :=
  s.write this (s.fd other)

def destroy (s : Owners) (this : Nat) : Owners :=
  (s.close (s.fd this)).erase this

def swap : Owners → Nat → Nat → Owners :=
  stdSwap copyConstruct copyAssign destroy

end MakeSocket

namespace Acceptor

/-- `listens`: `bind` and `listen` succeed; otherwise the constructor
throws. -/
def construct (s : Owners) (sock : Nat) (listens : Bool) : Owners :=
  if listens then (s.create .acceptor (s.fd sock)).write sock none else s

def copyAssign (s : Owners) (this other : Nat) : Owners :=
  s.write this (s.fd other)

def acceptNow (s : Owners) (number : Option Fd) : Owners :=
  match s.grant number with
  | (s, none) => s
  | (s, some client) => s.create .connection (some client)

def closeFd (s : Owners) (this : Nat) : Owners :=
  (s.close (s.fd this)).write this none

def destroy (s : Owners) (this : Nat) : Owners :=
  (closeFd s this).erase this

end Acceptor

namespace BuildServer

/-- The constructor with its parameter in place, which is destroyed in the
end whether it throws or not. -/
def construct (s : Owners) (parameter : Nat) (listens : Bool) : Owners :=
  let s := if listens then s.create .buildServer (s.fd parameter) else s
  MakeSocket.destroy s parameter

/-- `BuildServer(sock, port)`: the parameter is a copy. -/
def constructFrom (s : Owners) (sock : Nat) (listens : Bool) : Owners :=
  construct (MakeSocket.copyConstruct s sock) s.nextObject listens

/-- `BuildServer(MakeSocket<TCP_PROTOCAL>{}, port)`: the parameter is the new
object itself. -/
def constructFresh (s : Owners) (number : Option Fd) (listens : Bool) :
    Owners :=
  match s.grant number with
  | (s, none) => s
  | (s, some socket) =>
      construct (s.create .makeSocket (some socket)) s.nextObject listens

def copyConstruct (s : Owners) (other : Nat) : Owners :=
  s.create .buildServer (s.fd other)

def copyAssign (s : Owners) (this other : Nat) : Owners :=
  s.write this (s.fd other)

def destroy (s : Owners) (this : Nat) : Owners :=
  s.erase this

def swap : Owners → Nat → Nat → Owners :=
  stdSwap copyConstruct copyAssign destroy

end BuildServer

/-- `Connector::ConnectingNow`, when it returns normally. -/
def connectingNow (s : Owners) (sock : Nat) : Owners :=
  s.create .connection (s.fd sock)

/-! ## Programs -/

/-- What a program does with the owning types.  A number is what the kernel
answers; `none` is a failed call. -/
inductive Action where
  | construct (kind : OwnerKind) (number : Option Fd)
  | moveConstruct (other : Nat)
  | moveAssign (this other : Nat)
  | swap (lhs rhs : Nat)
  | closeFd (this : Nat)
  | destroy (this : Nat)
  | acceptor (sock : Nat) (listens : Bool)
  | buildServer (sock : Nat) (listens : Bool)
  | buildServerFresh (number : Option Fd) (listens : Bool)
  | acceptNow (acceptor : Nat) (number : Option Fd)
  | connectingNow (sock : Nat)
  deriving DecidableEq, Repr

/-- The kernel may give this number out. -/
def free (s : Owners) (number : Option Fd) : Bool :=
  number.all fun number => s.table number = none

/-- The action compiles for its objects, and the system calls may answer
so. -/
def enabled (s : Owners) : Action → Bool
  | .construct kind number =>
      kind ≠ .acceptor && kind ≠ .buildServer && s.free number
  | .moveConstruct other =>
      (s.kind other).any fun kind => kind ≠ .acceptor
  | .moveAssign this other =>
      (s.kind this).isSome && s.kind other = s.kind this
  | .swap lhs rhs =>
      (s.kind lhs).any (fun kind => kind ≠ .acceptor) &&
        s.kind rhs = s.kind lhs
  | .closeFd this =>
      s.kind this = some .fdo || s.kind this = some .connection ||
        s.kind this = some .acceptor
  | .destroy this => (s.kind this).isSome
  | .acceptor sock listens =>
      s.kind sock = some .makeSocket && (!listens || (s.fd sock).isSome)
  | .buildServer sock listens =>
      s.kind sock = some .makeSocket && (!listens || (s.fd sock).isSome)
  | .buildServerFresh number _ => s.free number
  | .acceptNow acceptor number =>
      s.kind acceptor = some .acceptor && s.free number
  | .connectingNow sock =>
      s.kind sock = some .makeSocket && (s.fd sock).isSome

def perform (s : Owners) : Action → Owners
  | .construct kind number =>
      match kind with
      | .epollManager => EpollManager.construct s number
      | .makeSocket => MakeSocket.construct s number
      | kind => (s.grant number).1.create kind (s.grant number).2
  | .moveConstruct other =>
      match s.kind other with
      | some .fdo => Fdo.moveConstruct s other
      | some .epollManager => EpollManager.moveConstruct s other
      | some .connection => Connection.moveConstruct s other
      | some .makeSocket => MakeSocket.copyConstruct s other
      | some .buildServer => BuildServer.copyConstruct s other
      | _ => s
  | .moveAssign this other =>
      match s.kind this with
      | some .fdo => Fdo.moveAssign s this other
      | some .epollManager => EpollManager.moveAssign s this other
      | some .connection => Connection.moveAssign s this other
      | some .makeSocket => MakeSocket.copyAssign s this other
      | some .acceptor => Acceptor.copyAssign s this other
      | some .buildServer => BuildServer.copyAssign s this other
      | none => s
  | .swap lhs rhs =>
      match s.kind lhs with
      | some .fdo => Fdo.swap s lhs rhs
      | some .epollManager => EpollManager.swap s lhs rhs
      | some .connection => Connection.swap s lhs rhs
      | some .makeSocket => MakeSocket.swap s lhs rhs
      | some .buildServer => BuildServer.swap s lhs rhs
      | _ => s
  | .closeFd this =>
      match s.kind this with
      | some .fdo => Fdo.closeFd s this
      | some .connection => Connection.closeFd s this
      | some .acceptor => Acceptor.closeFd s this
      | _ => s
  | .destroy this =>
      match s.kind this with
      | some .fdo => Fdo.destroy s this
      | some .epollManager => EpollManager.destroy s this
      | some .connection => Connection.destroy s this
      | some .makeSocket => MakeSocket.destroy s this
      | some .acceptor => Acceptor.destroy s this
      | some .buildServer => BuildServer.destroy s this
      | none => s
  | .acceptor sock listens => Acceptor.construct s sock listens
  | .buildServer sock listens => BuildServer.constructFrom s sock listens
  | .buildServerFresh number listens =>
      BuildServer.constructFresh s number listens
  | .acceptNow _ number => Acceptor.acceptNow s number
  | .connectingNow sock => connectingNow s sock

def step (s : Owners) (action : Action) : Option Owners :=
  if s.enabled action = true then some (s.perform action) else none

end Owners

end AsyncFrame
