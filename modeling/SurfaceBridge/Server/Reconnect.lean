import SurfaceBridge.Json.Decoder

set_option autoImplicit false

/-! # Connecting again

After a failed attempt to connect the next one is made after a delay. The delays grow by a factor
from attempt to attempt up to a bound. The retries since the last connection are counted, and
with a limit on them the attempts end when the count passes it.
-/

namespace SurfaceBridge

namespace Server

/-- How to connect again. Delays are in milliseconds, and without a limit the retries go on. -/
structure ReconnectOptions where
  minDelay : UInt64 := 1000
  maxDelay : UInt64 := 10000
  growthFactor : Float := 1.3
  maxRetries : Option UInt32 := none
  connectionTimeout : UInt64 := 10000

namespace ReconnectOptions

/-- A power of a double by repeated squaring, times `product`. -/
def power (x : Float) (product : Float) (n : Nat) : Float :=
  if n = 0 then product
  else power (x * x) (if n % 2 = 1 then product * x else product) (n / 2)
termination_by n

/-- The greatest exponent that is used. -/
def exponentLimit : Nat := 2147483647

/-- The smaller of two doubles. Of a double and none, it is the double. -/
def lesser (x y : Float) : Float :=
  if x.isNaN then y else if y < x then y else x

/-- The delay before a retry, in milliseconds. Retries count from 1, and nothing is waited for
before the attempt 0. -/
def delay (options : ReconnectOptions) (retry : UInt32) : UInt64 :=
  if retry = 0 then 0
  else
    let exponent := min (retry.toNat - 1) exponentLimit
    let grown := options.minDelay.toFloat * power options.growthFactor 1 exponent
    (lesser grown options.maxDelay.toFloat).toUInt64

/-- The number of the retry after a failed attempt, if there is one. The count stays at its
greatest value. -/
def nextRetry (options : ReconnectOptions) (retries : UInt32) : Option UInt32 :=
  let retry := if retries = UInt32.ofNat (UInt32.size - 1) then retries else retries + 1
  match options.maxRetries with
  | none => some retry
  | some limit => if limit < retry then none else some retry

/-- Whether the attempts end while all of them fail, with at most `n` retries after the last one
and at most `left` milliseconds of waiting. -/
def givesUp (options : ReconnectOptions) : Nat → Nat → UInt32 → Bool
  | 0, _, _ => false
  | n + 1, left, last =>
    match options.nextRetry last with
    | none => true
    | some retry =>
      let delay := (options.delay retry).toNat
      if left < delay then false else givesUp options n (left - delay) retry

/-- Options of which some may be left out. -/
structure Draft where
  minDelay : Option UInt64 := none
  maxDelay : Option UInt64 := none
  growthFactor : Option Float := none
  maxRetries : Option (Option UInt32) := none
  connectionTimeout : Option UInt64 := none

/-- Options with their usual values where they are left out. -/
def ofDraft (d : Draft) : ReconnectOptions :=
  let usual : ReconnectOptions := {}
  { minDelay := d.minDelay.getD usual.minDelay
    maxDelay := d.maxDelay.getD usual.maxDelay
    growthFactor := d.growthFactor.getD usual.growthFactor
    maxRetries := d.maxRetries.getD usual.maxRetries
    connectionTimeout := d.connectionTimeout.getD usual.connectionTimeout }

/-- A duration in milliseconds. -/
def milliseconds : Json.Decoder UInt64 :=
  (Json.Decoder.natural "u64" (UInt64.size - 1)).map UInt64.ofNat

/-- A limit on the retries, or `null`. -/
def retryLimit : Json.Decoder (Option UInt32) :=
  Json.Decoder.optional ((Json.Decoder.natural "u32" (UInt32.size - 1)).map UInt32.ofNat)

/-- How options are decoded. Each of them may be left out. -/
def schema (acceptsMore : Bool) : Json.Schema Draft Draft where
  type := "struct ReconnectOptions"
  fields :=
    [.ofDecoder ["min_delay_ms"] true milliseconds (·.minDelay)
        fun n d => { d with minDelay := some n },
      .ofDecoder ["max_delay_ms"] true milliseconds (·.maxDelay)
        fun n d => { d with maxDelay := some n },
      .ofDecoder ["growth_factor"] true .real (·.growthFactor)
        fun x d => { d with growthFactor := some x },
      .ofDecoder ["max_retries"] true retryLimit (·.maxRetries)
        fun n d => { d with maxRetries := some n },
      .ofDecoder ["connection_timeout_ms"] true milliseconds (·.connectionTimeout)
        fun n d => { d with connectionTimeout := some n }]
  start := {}
  finish := .ok
  acceptsMore := acceptsMore

/-- The decoder of options. -/
def decoder : Json.Decoder ReconnectOptions := (schema false).decoder.map ofDraft

/-- The text of options: an object with all of them in order. -/
def write (options : ReconnectOptions) : List Char :=
  Json.recordText
    [("min_delay_ms", Json.naturalText options.minDelay.toNat),
      ("max_delay_ms", Json.naturalText options.maxDelay.toNat),
      ("growth_factor", (Json.Number.real options.growthFactor).print),
      ("max_retries",
        match options.maxRetries with
        | none => Json.null.print
        | some n => Json.naturalText n.toNat),
      ("connection_timeout_ms", Json.naturalText options.connectionTimeout.toNat)]

end ReconnectOptions

end Server

end SurfaceBridge
