import LiveTemplate.Keyed

/-!
# The broadcast display

Events are sent to any number of receivers through one buffer of bounded size. Every receiver takes
the events that are sent after it has subscribed, in order and at its own pace. A receiver that
falls behind the oldest event in the buffer is told once how many events it has missed, and goes on
with the oldest one. The size of the buffer is the requested capacity, raised to a power of two.
-/

namespace LiveTemplate.Display

structure RenderEvent where
  element : Nat
  text : String
  deriving DecidableEq, Repr

/-- A reason for which there can be no buffer of a capacity. -/
inductive CapacityError where
  | zero
  | tooLarge
  deriving DecidableEq, Repr

def CapacityError.message : CapacityError → String
  | .zero => "broadcast channel capacity cannot be zero"
  | .tooLarge => "broadcast channel capacity exceeded `usize::MAX / 2`"

inductive Received where
  | event (e : RenderEvent)
  /-- There is nothing to take. -/
  | empty
  /-- So many events have been missed. -/
  | lagged (missed : Nat)
  deriving DecidableEq, Repr

/-- A buffer, the number of events sent through it, and the number of the next event of each
receiver that is subscribed. -/
structure Broadcast where
  size : Nat
  sent : Nat := 0
  /-- The latest events, the oldest first. -/
  kept : List RenderEvent := []
  subscribed : Nat := 0
  receivers : Keyed Nat Nat := []

namespace Broadcast

def defaultCapacity : Nat := 256

/-- The least power of two that is not below a number. -/
def powerAbove (n : Nat) : Nat := if n ≤ 1 then 1 else Nat.pow 2 (Nat.log2 (n - 1) + 1)

def new (capacity : Nat) : Except CapacityError Broadcast :=
  if capacity = 0 then .error .zero
  else if Nat.pow 2 63 ≤ capacity then .error .tooLarge
  else .ok { size := powerAbove capacity }

def subscribe (b : Broadcast) : Nat × Broadcast :=
  (b.subscribed,
    { b with subscribed := b.subscribed + 1, receivers := b.receivers.put b.subscribed b.sent })

def isSubscribed (b : Broadcast) (receiver : Nat) : Bool := (b.receivers.get? receiver).isSome

def unsubscribe (b : Broadcast) (receiver : Nat) : Broadcast :=
  { b with receivers := b.receivers.filter fun entry ↦ entry.1 ≠ receiver }

def send (b : Broadcast) (event : RenderEvent) : Broadcast :=
  let kept := b.kept ++ [event]
  { b with sent := b.sent + 1, kept := kept.drop (kept.length - b.size) }

/-- The number of the oldest event in the buffer. -/
def oldest (b : Broadcast) : Nat := b.sent - b.kept.length

def receive (b : Broadcast) (receiver : Nat) : Option (Received × Broadcast) :=
  (b.receivers.get? receiver).map fun next ↦
    if next < b.oldest then
      (.lagged (b.oldest - next), { b with receivers := b.receivers.put receiver b.oldest })
    else
      match b.kept[next - b.oldest]? with
      | some event => (.event event, { b with receivers := b.receivers.put receiver (next + 1) })
      | none => (.empty, b)

end Broadcast

end LiveTemplate.Display
