import StateRelay.Action
import StateRelay.Sink.Error

/-!
What a dispatcher needs from the outside to get a batch out: a way to post, a way to stream. A
stream is known by the number of the dial that opened it.
-/

namespace StateRelay.Sink

/-- Posts a body to a URL and gives the status of the answer. -/
structure Poster (σ : Type) where
  post : (url : String) → (body : Bytes) → Action σ Error UInt16

structure Connector (σ : Type) where
  /-- Opens the stream of the given number. -/
  connect : (stream : Nat) → (url : String) → Action σ Error Unit
  /-- Writes one text message. -/
  send : (stream : Nat) → (text : String) → Action σ Error Unit
  /-- Closes a stream as well as may be. -/
  close : (stream : Nat) → σ → σ

end StateRelay.Sink
