import Folio.Bytes

/-!
Destinations of output. A destination may run full, and may take less than it is offered at a
time. What it took is out: it holds nothing back that would have to be flushed at the end. A
destination that does is the subject of `Folio.Document.Tables`.
-/

namespace Folio

structure Sink where
  /-- Bytes that are taken in all, if there is a bound. -/
  room : Option Nat
  /-- The most that each write takes at once, if there is a bound; zero counts as one. -/
  portion : Nat → Option Nat
  writes : Nat

namespace Sink

def unbounded : Sink :=
  ⟨none, fun _ => none, 0⟩

def limited (room : Nat) : Sink :=
  ⟨some room, fun _ => none, 0⟩

/-- How many bytes of an offer of `size` bytes the next write takes. -/
def taken (sink : Sink) (size : Nat) : Nat :=
  let atOnce := match sink.portion sink.writes with
    | none => size
    | some most => min size (max 1 most)
  match sink.room with
  | none => atOnce
  | some room => min atOnce room

/-- The destination after a write of which it took `count` bytes. -/
def afterWrite (sink : Sink) (count : Nat) : Sink :=
  { sink with room := sink.room.map (· - count), writes := sink.writes + 1 }

/-- Offers the bytes again and again until all are taken or a write takes none. -/
def offer : (attempts : Nat) → Sink → Bytes → Bytes × Sink
  | 0, sink, _ => ([], sink)
  | _, sink, [] => ([], sink)
  | attempts + 1, sink, bytes =>
      let count := sink.taken bytes.length
      let sink := sink.afterWrite count
      if count = 0 then ([], sink)
      else
        let (more, sink) := offer attempts sink (bytes.drop count)
        (bytes.take count ++ more, sink)

def writeAll (sink : Sink) (bytes : Bytes) : Bytes × Sink :=
  sink.offer bytes.length bytes

end Sink

end Folio
