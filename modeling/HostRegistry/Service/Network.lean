import HostRegistry.SocketAddress

/-!
# Addresses to listen at

A program may listen at an address at which nobody listens yet. The number zero behind the colon
asks for any that is free; the others below 1024 are reserved. Every IPv4 address will do, also when
it is written as an IPv6 address. Of the other IPv6 addresses the host has none of its own, so only
the one that stands for all of them will do.
-/

namespace HostRegistry

structure Network where
  /-- The addresses at which somebody listens. -/
  taken : List SocketAddress
  /-- The number given out when any will do. -/
  freePortNumber : Nat

inductive BindError
  | permissionDenied
  | noSuchDevice
  | invalidArgument
  | addressInUse
  | addressNotAvailable
deriving DecidableEq, Repr

def BindError.message : BindError → String
  | .permissionDenied => "Permission denied (os error 13)"
  | .noSuchDevice => "No such device (os error 19)"
  | .invalidArgument => "Invalid argument (os error 22)"
  | .addressInUse => "Address already in use (os error 98)"
  | .addressNotAvailable => "Cannot assign requested address (os error 99)"

namespace SocketAddress

def portNumber : SocketAddress → Nat
  | v4 _ n => n
  | v6 _ _ n => n

def withPortNumber (address : SocketAddress) (n : Nat) : SocketAddress :=
  match address with
  | v4 octets _ => v4 octets n
  | v6 groups scope _ => v6 groups scope n

def unscoped : SocketAddress → SocketAddress
  | v6 groups _ n => v6 groups 0 n
  | address => address

/-- The address without a scope, and an IPv4 address in its own form. -/
def canonical : SocketAddress → SocketAddress
  | v6 [0, 0, 0, 0, 0, 0xFFFF, a, b] _ n => v4 [a / 256, a % 256, b / 256, b % 256] n
  | address => address.unscoped

/-- Whether the address stands for all addresses of its kind. -/
def isWildcard : SocketAddress → Bool
  | v4 octets _ => octets.all (· = 0)
  | v6 groups _ _ => groups.all (· = 0)

/-- Whether listening at both addresses is impossible. -/
def collides (a b : SocketAddress) : Bool :=
  a.portNumber = b.portNumber &&
    (a.canonical = b.canonical || a.canonical.isWildcard || b.canonical.isWildcard)

end SocketAddress

namespace Network

def isReserved (portNumber : Nat) : Bool := 0 < portNumber && portNumber < 1024

/-- What keeps the host from using an IPv6 address that is not a written IPv4 address. The scope of
an address of one link is the number of a device, and the host has only the first. -/
def obstacle? (groups : List Nat) (scope : Nat) : Option BindError :=
  if groups.all (· = 0) then none
  else if (groups.headD 0) / 0x40 = 0xFE80 / 0x40 then
    some (if scope = 0 then .invalidArgument
      else if scope = 1 then .addressNotAvailable else .noSuchDevice)
  else some .addressNotAvailable

/-- Why the address cannot be used at all, whoever else uses it. -/
def refusal? (address : SocketAddress) : Option BindError :=
  match address with
  | .v6 groups scope n =>
    if (groups.headD 0) / 0x100 = 0xFF then some .invalidArgument
    else if isReserved n then some .permissionDenied
    else
      match address.canonical with
      | .v4 _ _ => none
      | .v6 _ _ _ => obstacle? groups scope
  | .v4 _ n => if isReserved n then some .permissionDenied else none

/-- Starts to listen; gives the address listened at and the network after that. -/
def bind (n : Network) (address : SocketAddress) : Except BindError (SocketAddress × Network) :=
  match refusal? address with
  | some e => .error e
  | none =>
    if address.portNumber = 0 then .ok (address.unscoped.withPortNumber n.freePortNumber, n)
    else if n.taken.any address.collides then .error .addressInUse
    else .ok (address.unscoped, { n with taken := address :: n.taken })

end Network

end HostRegistry
