import Udpcap.AddressText
import Udpcap.Pcpp

/-!
# The kickstart socket

`kickstartLoopbackMulticast` opens a socket of the operating system, joins the groups of
the udpcap socket with it, and sends an empty packet to each of them.

## Main definitions

* `Asio` — the answers of asio, which is not part of the repository.
* `kickstartLoopbackMulticast` — the calls that are made, and how the function ends.
-/

namespace Udpcap

/-- A call of the kickstart socket. -/
inductive KickstartCall
  | open
  | reuseAddress (on : Bool)
  | bind (address : UInt32) (port : UInt16)
  | enableLoopback (on : Bool)
  | hops (n : ℕ)
  | joinGroup (group : UInt32)
  | sendTo (data : Bytes) (address : UInt32) (port : UInt16)
  | close
  deriving DecidableEq, Repr

/-- The answers of asio to one kickstart.  A failure to allocate memory is not among them. -/
structure Asio where
  /-- Whether `asio::io_context` and the socket can be constructed; `false` when it throws. -/
  constructs : Bool
  /-- `make_address`; `none` when it throws. -/
  makeAddress : List Char → Option UInt32
  /-- Whether a call succeeds after the calls before it. -/
  succeeds : List KickstartCall → KickstartCall → Bool

/-- An asio that reads dotted notation, and on which everything succeeds. -/
def Asio.working : Asio := ⟨true, inetPton, fun _ _ => true⟩

/-- An asio on which everything succeeds but `close`. -/
def Asio.withoutClose : Asio := ⟨true, inetPton, fun _ c => decide (c ≠ .close)⟩

namespace Asio

variable (asio : Asio)

/-- The blocks that set up the socket one after the other.  The first error ends them. -/
def setUp (done : List KickstartCall) : List KickstartCall → List KickstartCall × Bool
  | [] => (done, true)
  | c :: cs => if asio.succeeds done c then setUp (done ++ [c]) cs else (done ++ [c], false)

/-- A loop over the groups.  Errors are ignored, but `make_address` may throw. -/
def forEachGroup (call : UInt32 → KickstartCall) (done : List KickstartCall) :
    List HostAddress → List KickstartCall × Bool
  | [] => (done, true)
  | g :: groups =>
    match asio.makeAddress g.toString with
    | none => (done, false)
    | some group => forEachGroup call (done ++ [call group]) groups

end Asio

/-- `kickstart_port` -/
def kickstartPort : UInt16 := 62000

/-- What is done before the groups are joined. -/
def kickstartSetUp (anyAddress : UInt32) : List KickstartCall :=
  [.open, .reuseAddress true, .bind anyAddress kickstartPort, .enableLoopback true, .hops 0]

/-- The calls of a kickstart, and whether it ends with an exception. -/
structure Kickstarted where
  calls : List KickstartCall
  threw : Bool
  deriving DecidableEq, Repr

/-- `kickstartLoopbackMulticast`.  The error code that is tested after `close` is not
passed to it, so `close` throws when it fails. -/
def kickstartLoopbackMulticast (asio : Asio) (multicastGroups : List HostAddress) : Kickstarted :=
  if !asio.constructs then ⟨[], true⟩
  else
    match asio.makeAddress "0.0.0.0".toList with
    | none => ⟨[], true⟩
    | some anyAddress =>
      let ready := asio.setUp [] (kickstartSetUp anyAddress)
      if !ready.2 then ⟨ready.1, false⟩
      else
        let joined := asio.forEachGroup .joinGroup ready.1 multicastGroups
        if !joined.2 then ⟨joined.1, true⟩
        else
          let sent := asio.forEachGroup (fun group => .sendTo [] group kickstartPort) joined.1
            multicastGroups
          if !sent.2 then ⟨sent.1, true⟩
          else ⟨sent.1 ++ [.close], !asio.succeeds sent.1 .close⟩

end Udpcap
