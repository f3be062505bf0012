import StateRelay.Checked
import StateRelay.Json.Decoder
import StateRelay.Json.Printer

/-!
How often a failed step is repeated and how long to wait before each repetition. The delays grow by
a factor from one to the next, up to a bound; they are computed in double precision and cut to whole
milliseconds.
-/

namespace StateRelay

open Json (encodeRecord)
open Json.Decoder (Record need)

/-- A length of time. -/
structure Span where
  seconds : UInt64
  nanos : UInt32
  deriving DecidableEq, Repr, Inhabited

namespace Span

def nanosPerSecond : Nat := 1000000000

def ofMillis (ms : Nat) : Span :=
  ⟨.ofNat (ms / 1000), .ofNat (ms % 1000 * 1000000)⟩

/-- Whole milliseconds. -/
def millis (s : Span) : Nat :=
  s.seconds.toNat * 1000 + s.nanos.toNat / 1000000

/-- Carries the nanoseconds that make whole seconds; `none` when the seconds do not fit. -/
def normalize? (seconds : UInt64) (nanos : UInt32) : Option Span :=
  let carried := seconds.toNat + nanos.toNat / nanosPerSecond
  if carried < UInt64.size then some ⟨.ofNat carried, .ofNat (nanos.toNat % nanosPerSecond)⟩
  else none

def encode (s : Span) : Bytes :=
  encodeRecord
    [("secs", Ascii.digitsOfNat s.seconds.toNat), ("nanos", Ascii.digitsOfNat s.nanos.toNat)]

structure Draft where
  seconds : Option UInt64 := none
  nanos : Option UInt32 := none

def record : Record Draft Span where
  name := "Duration"
  fields :=
    [.mandatory "secs" (·.seconds) (fun d x => { d with seconds := some x }) Json.Decoder.word64,
      .mandatory "nanos" (·.nanos) (fun d x => { d with nanos := some x }) Json.Decoder.word32]
  empty := {}
  build d := do
    let seconds ← need "secs" d.seconds
    let nanos ← need "nanos" d.nanos
    match normalize? seconds nanos with
    | some s => .ok s
    | none => .error .durationOverflow
  closed := true
  arrayLabel := "struct Duration"

def decoder : Json.Decoder Span :=
  record.decoder

end Span

structure Backoff where
  /-- How many times a step is repeated after its first failure. -/
  maxRetries : UInt32
  /-- The delay before the first repetition. -/
  initial : Span
  /-- The bound on every delay. -/
  cap : Span
  /-- How much longer a delay is than the one before it. -/
  factor : Double
  deriving DecidableEq, Repr, Inhabited

namespace Backoff

/-- Three repetitions, from half a second on, doubling up to half a minute. -/
def standard : Backoff where
  maxRetries := 3
  initial := .ofMillis 500
  cap := .ofMillis 30000
  factor := .ofNat 2

/-- No repetition. -/
def never : Backoff :=
  { standard with maxRetries := 0 }

/-- Repetitions without delay. -/
def immediate (maxRetries : UInt32) : Backoff where
  maxRetries := maxRetries
  initial := .ofMillis 0
  cap := .ofMillis 0
  factor := .ofNat 1

/-- The greatest delay that can be told. -/
def maxDelay : Nat := UInt64.size - 1

/-- How often the delay before a repetition has grown, held in a signed word of 32 bits. -/
def growth (attempt : Nat) : Int :=
  Int.bmod ((attempt : Int) - 1) UInt32.size

/-- The delay in milliseconds before the given repetition; `none` when there is no such one. -/
def delay? (b : Backoff) (attempt : Nat) : Option Nat :=
  if attempt = 0 ∨ b.maxRetries.toNat < attempt then none
  else
    let grown := Double.ofNat b.initial.millis * b.factor.pow (growth attempt)
    some ((grown.min (Double.ofNat b.cap.millis)).clampToNat maxDelay)

/-- How many times a step is tried in all. -/
def maxAttempts (b : Backoff) : Except Overflow UInt32 :=
  Checked.add32 b.maxRetries 1

def encode (b : Backoff) : Bytes :=
  encodeRecord
    [("max_retries", Ascii.digitsOfNat b.maxRetries.toNat),
      ("initial_backoff", b.initial.encode),
      ("max_backoff", b.cap.encode),
      ("multiplier", Json.encodeDouble b.factor)]

structure Draft where
  maxRetries : Option UInt32 := none
  initial : Option Span := none
  cap : Option Span := none
  factor : Option Double := none

def record : Record Draft Backoff where
  name := "RetryConfig"
  fields :=
    [.mandatory "max_retries" (·.maxRetries) (fun d x => { d with maxRetries := some x })
        Json.Decoder.word32,
      .mandatory "initial_backoff" (·.initial) (fun d x => { d with initial := some x })
        Span.decoder,
      .mandatory "max_backoff" (·.cap) (fun d x => { d with cap := some x }) Span.decoder,
      .mandatory "multiplier" (·.factor) (fun d x => { d with factor := some x })
        Json.Decoder.double]
  empty := {}
  build d := do
    let maxRetries ← need "max_retries" d.maxRetries
    let initial ← need "initial_backoff" d.initial
    let cap ← need "max_backoff" d.cap
    let factor ← need "multiplier" d.factor
    .ok { maxRetries, initial, cap, factor }

def decoder : Json.Decoder Backoff :=
  record.decoder

end Backoff

end StateRelay
