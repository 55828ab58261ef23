import KvsWebrtc.Sctp.Assoc
import Mathlib.Logic.Function.Basic

/-!
# Two endpoints

A pair of associations and everything each of them has sent.  An event calls the public API on one
side, or hands it any packet the other side has ever sent; so packets are lost, duplicated and
reordered at will.
-/

namespace KvsWebrtc.Sctp

inductive Side where
  | left
  | right
  deriving DecidableEq, Repr

def Side.other : Side → Side
  | left => right
  | right => left

@[simp] theorem Side.other_other (s : Side) : s.other.other = s := by cases s <;> rfl

theorem Side.other_ne (s : Side) : s.other ≠ s := by cases s <;> decide

theorem Side.eq_or_other (s t : Side) : t = s ∨ t = s.other := by cases s <;> cases t <;> decide

/-- The endpoint is past the exchange of INIT and INIT-ACK. -/
def InSession (h : Host) : Prop :=
  h.assoc.state = .COOKIE_ECHOED ∨ h.assoc.state = .ESTABLISHED

instance (h : Host) : Decidable (InSession h) := inferInstanceAs (Decidable (_ ∨ _))

/-- An endpoint, with what the run has seen of it. -/
structure Endpoint where
  host : Host
  /-- It was once in COOKIE_ECHOED or ESTABLISHED. -/
  reached : Bool
  /-- It was closed because T1 ran out. -/
  t1Closed : Bool
  /-- `sctpAssocConnect` was called after it was `reached`. -/
  reconnected : Bool

/-- T1 runs out in this call. -/
def t1RunsOut (h : Host) : Op → Bool
  | .checkTimers nowMs => (checkT1 h nowMs).2
  | _ => false

def Op.isConnect : Op → Bool
  | .connect => true
  | _ => false

def Endpoint.step (e : Endpoint) (op : Op) : Endpoint where
  host := e.host.step op
  reached := e.reached || InSession (e.host.step op)
  t1Closed := e.t1Closed || t1RunsOut e.host op
  reconnected := e.reconnected || (op.isConnect && e.reached)

abbrev Net := Side → Endpoint

def Net.act (n : Net) (s : Side) (op : Op) : Net := Function.update n s ((n s).step op)

@[simp] theorem Net.act_self (n : Net) (s : Side) (op : Op) : n.act s op s = (n s).step op :=
  Function.update_self s _ n

@[simp] theorem Net.act_other (n : Net) (s : Side) (op : Op) : n.act s op s.other = n s.other :=
  Function.update_of_ne s.other_ne _ n

/-- What can happen: a call on one side, or the delivery of any packet the other side has sent. -/
inductive NetEvent where
  | connect (s : Side)
  | send (s : Side) (m : SctpMessage)
  | checkTimers (s : Side) (nowMs : UINT64)
  | deliver (s : Side) (messageFn : Bool) (k : Nat)

def Net.step (n : Net) : NetEvent → Net
  | .connect s => n.act s .connect
  | .send s m => n.act s (.send m)
  | .checkTimers s nowMs => n.act s (.checkTimers nowMs)
  | .deliver s messageFn k =>
    match (n s.other).host.outbound[k]? with
    | none => n
    | some p => n.act s (.handlePacket messageFn p.bytes)

def Net.run (n : Net) (evs : List NetEvent) : Net := evs.foldl Net.step n

def Net.init (clock : Side → Nat → UINT64) (localPort remotePort mtu : Side → UINT16) : Net :=
  fun s => ⟨sctpAssocInit (clock s) (localPort s) (remotePort s) (mtu s), false, false, false⟩

/-! ## A fixed pair for the examples -/

/-- Two associations whose tags and initial TSNs are 7 and 9. -/
def sampleNet : Net :=
  Net.init (fun s _ => if s = .left then 7 else 9) (fun _ => 5000) (fun _ => 5000) (fun _ => 1150)

/-- The handshake, opened by the left side, without loss. -/
def sampleHandshake : List NetEvent :=
  [.connect .left, .deliver .right true 0, .deliver .left true 0, .deliver .right true 1,
    .deliver .left true 1]

end KvsWebrtc.Sctp
