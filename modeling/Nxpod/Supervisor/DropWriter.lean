import Mathlib.Algebra.Order.Floor.Ring
import Mathlib.Data.Rat.Floor
import Mathlib.Tactic.Linarith
import Mathlib.Tactic.Positivity
import Nxpod.Library.Transition

/-!
# The Drop Writer

A writer that drops what exceeds a rate. Its bucket holds tokens for bytes. On each call the tokens
for the time since the last call are added, up to the capacity, and the caller gets as many as there
are.

The tokens of the time that has passed are cut off to a whole number, but the time itself counts as
used up. A call in between, even one that asks for nothing, loses the fraction. A bucket is taken
for a new one as long as the last call was at the zero time.

Seconds are rational numbers. Tokens are counted in 64 bits. What becomes of a number of tokens that
does not fit when it is made an integer depends on the machine, and is a parameter.

## Main definitions

* `Bucket`: Tokens, how many there may be, and when they were counted last.
* `Bucket.adjustTokens`, `Bucket.takeAvailable`, `write`: The bucket and the writer.
* `Call`: When the bucket is asked, and for how much.
* `refilled`: What is in the bucket at a time.
* `Sound`: A bucket that has no more than fits into it.
* `Regular`: A call that the arithmetic and the clock are made for.
* `Event`, `Harmless`: Calls with polls between them, and polls that lose nothing.

## Theorems

* `takeAvailable_eq`: A regular call.
* `sum_granted_le`: What is granted from some calls on.
* `poll_iff`: When a poll loses nothing.
* `granted_bounds`: Windows, grants and polls.
-/

namespace Nxpod

namespace Supervisor

open Transition

/-- Tokens, how many there may be, and when they were counted last. -/
structure Bucket where
  capacity : Int
  refillRate : Int
  availableTokens : Int
  lastTick : ℚ
  deriving DecidableEq

/-- A new bucket has no tokens until it is first asked. -/
def newBucket (capacity refillRatePerSec : Int) : Bucket :=
  ⟨capacity, refillRatePerSec, 0, 0⟩

/-- Tokens are added and taken in 64 bits. -/
def wrap (n : Int) : Int :=
  n.bmod (2 ^ 64)

/-- The longest duration in seconds. -/
def maxDuration : ℚ :=
  9223372036854775807 / 1000000000

/-- The seconds between two times. -/
def sub (now last : ℚ) : ℚ :=
  max (-maxDuration) (min (now - last) maxDuration)

/-- The fraction is cut off, in either direction. -/
def truncate (q : ℚ) : Int :=
  if 0 ≤ q then ⌊q⌋ else ⌈q⌉

variable (outOfRange : ℚ → Int)

/-- A number of tokens as an integer of 64 bits. -/
def toInt64 (q : ℚ) : Int :=
  if -2 ^ 63 ≤ truncate q ∧ truncate q < 2 ^ 63 then truncate q else outOfRange q

namespace Bucket

/-- The tokens for the time since the last call are added. A new bucket is filled. -/
def adjustTokens (b : Bucket) (now : ℚ) : Bucket :=
  -- A clock that shows the zero time leaves the bucket as new as it was.
  if b.lastTick = 0 then { b with availableTokens := b.capacity, lastTick := now }
  else
    let availableTokens :=
      wrap (b.availableTokens + toInt64 outOfRange (sub now b.lastTick * b.refillRate))
    { b with
      availableTokens := if availableTokens > b.capacity then b.capacity else availableTokens
      lastTick := now }

/-- As many tokens as there are, at most those that were asked for. -/
def takeAvailable (b : Bucket) (now : ℚ) (req : Int) : Int × Bucket :=
  let b := b.adjustTokens outOfRange now
  let grant := if req > b.availableTokens then b.availableTokens else req
  (grant, { b with availableTokens := wrap (b.availableTokens - grant) })

end Bucket

/-- The writer passes on as many bytes as it is granted and says it was all of them. A slice with a
negative bound panics. -/
def write {ε : Type*} (b : Bucket) (now : ℚ) (buf : List UInt8)
    (dst : List UInt8 → Nat × Option ε) : Option ((Nat × Option ε) × Bucket) :=
  match b.takeAvailable outOfRange now buf.length with
  | (grant, b) =>
      if grant < 0 then none
      else match dst (buf.take grant.toNat) with
        | (n, some err) => some ((n, some err), b)
        | (_, none) => some ((buf.length, none), b)

/-! ## Calls -/

/-- When the bucket is asked, and for how much. -/
structure Call where
  now : ℚ
  req : Int
  deriving DecidableEq

/-- The bucket after a call. -/
def step (b : Bucket) (c : Call) : Option Bucket :=
  some (b.takeAvailable outOfRange c.now c.req).2

/-- What each of some calls is granted. -/
def granted (b : Bucket) : List Call → List Int
  | [] => []
  | c :: cs => match b.takeAvailable outOfRange c.now c.req with
    | (grant, b) => grant :: granted b cs

/-- The bucket after all calls. -/
def after (b : Bucket) : List Call → Bucket
  | [] => b
  | c :: cs => after (b.takeAvailable outOfRange c.now c.req).2 cs

/-- When the last call was. -/
def lastNow (now : ℚ) : List Call → ℚ
  | [] => now
  | c :: cs => lastNow c.now cs

/-- The time from the first of some calls to the last one. -/
def elapsed : List Call → ℚ
  | [] => 0
  | c :: cs => lastNow c.now cs - c.now

/-- The tokens in the bucket at a time, without any limit on integers. -/
def refilled (b : Bucket) (now : ℚ) : Int :=
  if b.lastTick = 0 then b.capacity
  else min (b.availableTokens + ⌊(now - b.lastTick) * b.refillRate⌋) b.capacity

/-- A bucket that has no more than fits into it. -/
structure Sound (b : Bucket) : Prop where
  capacity : 0 ≤ b.capacity ∧ b.capacity < 2 ^ 63
  refillRate : 0 ≤ b.refillRate
  available : 0 ≤ b.availableTokens ∧ b.availableTokens ≤ b.capacity

/-- The clock does not go back and is not at zero, and the tokens since the last call can be
counted. -/
structure Regular (b : Bucket) (c : Call) : Prop where
  request : 0 ≤ c.req
  now : c.now ≠ 0
  later : b.lastTick ≠ 0 → b.lastTick ≤ c.now ∧ c.now - b.lastTick ≤ maxDuration ∧
    b.availableTokens + ⌊(c.now - b.lastTick) * b.refillRate⌋ < 2 ^ 63

instance (b : Bucket) (c : Call) : Decidable (Regular b c) :=
  decidable_of_iff (0 ≤ c.req ∧ c.now ≠ 0 ∧ (b.lastTick ≠ 0 → b.lastTick ≤ c.now ∧
      c.now - b.lastTick ≤ maxDuration ∧
      b.availableTokens + ⌊(c.now - b.lastTick) * b.refillRate⌋ < 2 ^ 63))
    ⟨fun h => ⟨h.1, h.2.1, h.2.2⟩, fun h => ⟨h.request, h.now, h.later⟩⟩

variable {outOfRange} {b b' : Bucket} {c : Call}

theorem sound_newBucket {capacity refillRate : Int} (hcapacity : 0 ≤ capacity ∧ capacity < 2 ^ 63)
    (hrate : 0 ≤ refillRate) : Sound (newBucket capacity refillRate) :=
  ⟨hcapacity, hrate, le_rfl, hcapacity.1⟩

theorem wrap_eq {n : Int} (h : -2 ^ 63 ≤ n ∧ n < 2 ^ 63) : wrap n = n := by
  refine Int.bmod_eq_of_le_mul_two ?_ ?_
  · omega
  · omega

/-- Tokens for the time that has passed. -/
theorem floor_nonneg_of_later (hs : Sound b) {now : ℚ} (hlater : b.lastTick ≤ now) :
    0 ≤ ⌊(now - b.lastTick) * b.refillRate⌋ := by
  have hrate : (0 : ℚ) ≤ b.refillRate := by exact_mod_cast hs.refillRate
  exact Int.floor_nonneg.mpr (mul_nonneg (sub_nonneg.mpr hlater) hrate)

/-- A refilled bucket has no more than its capacity, and no less than nothing. -/
theorem refilled_bounds (hs : Sound b) {now : ℚ} (hlater : b.lastTick ≠ 0 → b.lastTick ≤ now) :
    0 ≤ refilled b now ∧ refilled b now ≤ b.capacity := by
  unfold refilled
  split
  · exact ⟨hs.capacity.1, le_rfl⟩
  · next hne =>
      have hfloor := floor_nonneg_of_later hs (hlater hne)
      exact ⟨le_min (add_nonneg hs.available.1 hfloor) hs.capacity.1, min_le_right _ _⟩

/-- Without overflow the tokens are those of the time that has passed. -/
theorem adjustTokens_eq (hs : Sound b) (h : Regular b c) :
    b.adjustTokens outOfRange c.now =
      { b with availableTokens := refilled b c.now, lastTick := c.now } := by
  unfold Bucket.adjustTokens refilled
  split
  · rfl
  · next hne =>
      rcases h.later hne with ⟨hlater, hmax, hfits⟩
      have hfloor := floor_nonneg_of_later hs hlater
      -- The time between the ticks fits into a duration.
      have hsub : sub c.now b.lastTick = c.now - b.lastTick := by
        have hnonneg : (0 : ℚ) ≤ maxDuration := by norm_num [maxDuration]
        have hpos : (0 : ℚ) ≤ c.now - b.lastTick := sub_nonneg.mpr hlater
        rw [sub, min_eq_left hmax, max_eq_right]
        linarith
      have htruncate : truncate ((c.now - b.lastTick) * b.refillRate) =
          ⌊(c.now - b.lastTick) * b.refillRate⌋ :=
        if_pos (Int.floor_nonneg.mp hfloor)
      have hint : toInt64 outOfRange ((c.now - b.lastTick) * b.refillRate) =
          ⌊(c.now - b.lastTick) * b.refillRate⌋ := by
        rw [toInt64, htruncate, if_pos]
        have havailable := hs.available.1
        omega
      rw [hsub, hint, wrap_eq]
      · dsimp only
        congr 1
        split
        · next hgt => exact (min_eq_right hgt.le).symm
        · next hle => exact (min_eq_left (not_lt.mp hle)).symm
      · have havailable := hs.available.1
        omega

/-- A regular call gets what it asks for, or what there is. -/
theorem takeAvailable_eq (hs : Sound b) (h : Regular b c) :
    b.takeAvailable outOfRange c.now c.req =
      (min c.req (refilled b c.now),
        { b with
          availableTokens := refilled b c.now - min c.req (refilled b c.now)
          lastTick := c.now }) := by
  have hbounds := refilled_bounds hs fun hne => (h.later hne).1
  have hrequest := h.request
  have hcapacity := hs.capacity
  have hgrant : (if c.req > refilled b c.now then refilled b c.now else c.req) =
      min c.req (refilled b c.now) := by
    split
    · next hgt => exact (min_eq_right hgt.le).symm
    · next hle => exact (min_eq_left (not_lt.mp hle)).symm
  rw [Bucket.takeAvailable, adjustTokens_eq hs h]
  dsimp only
  rw [hgrant, wrap_eq]
  omega

theorem sound_takeAvailable (hs : Sound b) (h : Regular b c) :
    Sound (b.takeAvailable outOfRange c.now c.req).2 := by
  have hbounds := refilled_bounds hs fun hne => (h.later hne).1
  have hrequest := h.request
  rw [takeAvailable_eq hs h]
  refine ⟨hs.capacity, hs.refillRate, ?_⟩
  dsimp only
  omega

/-! ## Windows -/

/-- What the condition says of the first call and of the others. -/
theorem meetsAlong_cons {cs : List Call}
    (h : MeetsAlong (step outOfRange) Regular (c :: cs) b) :
    Regular b c ∧
      MeetsAlong (step outOfRange) Regular cs (b.takeAvailable outOfRange c.now c.req).2 :=
  h

theorem granted_cons (b : Bucket) (c : Call) (cs : List Call) :
    granted outOfRange b (c :: cs) = (b.takeAvailable outOfRange c.now c.req).1 ::
      granted outOfRange (b.takeAvailable outOfRange c.now c.req).2 cs :=
  rfl

/-- From a state on, no more is granted than there is and what the time brings. -/
theorem sum_granted_le {cs : List Call} (hs : Sound b) (hticked : b.lastTick ≠ 0)
    (h : MeetsAlong (step outOfRange) Regular cs b) :
    ((granted outOfRange b cs).sum : ℚ) ≤
      b.availableTokens + b.refillRate * (lastNow b.lastTick cs - b.lastTick) := by
  induction cs generalizing b with
  | nil =>
      have hzero : (0 : ℚ) ≤ b.availableTokens := by exact_mod_cast hs.available.1
      simp only [granted, lastNow, List.sum_nil, Int.cast_zero, sub_self, mul_zero, add_zero]
      exact hzero
  | cons c cs ih =>
      rcases meetsAlong_cons h with ⟨hregular, hrest⟩
      have hnext := ih (sound_takeAvailable hs hregular)
        (by rw [takeAvailable_eq hs hregular]; exact hregular.now) hrest
      rw [takeAvailable_eq hs hregular] at hnext
      have hrefilled : (refilled b c.now : ℚ) ≤
          b.availableTokens + (c.now - b.lastTick) * b.refillRate := by
        have hle : refilled b c.now ≤
            b.availableTokens + ⌊(c.now - b.lastTick) * b.refillRate⌋ := by
          rw [refilled, if_neg hticked]
          exact min_le_left _ _
        have hcast : (refilled b c.now : ℚ) ≤
            b.availableTokens + (⌊(c.now - b.lastTick) * b.refillRate⌋ : ℚ) := by
          exact_mod_cast hle
        exact hcast.trans (add_le_add_right (Int.floor_le _) _)
      rw [granted_cons, takeAvailable_eq hs hregular]
      dsimp only at hnext ⊢
      rw [List.sum_cons, lastNow]
      push_cast at hnext ⊢
      linarith

/-- The bound for a bucket that is sound. The induction is on the calls, and each is paid for by
    the time before it or by tokens that were there. -/
theorem sum_window_le {cs : List Call} (hs : Sound b)
    (h : MeetsAlong (step outOfRange) Regular cs b) :
    ((granted outOfRange b cs).sum : ℚ) ≤ b.capacity + b.refillRate * elapsed cs := by
  cases cs with
  | nil =>
      have hzero : (0 : ℚ) ≤ b.capacity := by exact_mod_cast hs.capacity.1
      simp only [granted, elapsed, List.sum_nil, Int.cast_zero, mul_zero, add_zero]
      exact hzero
  | cons c cs =>
      rcases meetsAlong_cons h with ⟨hregular, hrest⟩
      have hnext := sum_granted_le (sound_takeAvailable hs hregular)
        (by rw [takeAvailable_eq hs hregular]; exact hregular.now) hrest
      have hfull : (refilled b c.now : ℚ) ≤ b.capacity := by
        exact_mod_cast (refilled_bounds hs fun hne => (hregular.later hne).1).2
      rw [granted_cons, takeAvailable_eq hs hregular]
      rw [takeAvailable_eq hs hregular] at hnext
      dsimp only at hnext ⊢
      rw [List.sum_cons, elapsed]
      push_cast at hnext ⊢
      linarith

theorem granted_append (b : Bucket) (cs cs' : List Call) :
    granted outOfRange b (cs ++ cs') =
      granted outOfRange b cs ++ granted outOfRange (after outOfRange b cs) cs' := by
  induction cs generalizing b with
  | nil => rfl
  | cons c cs ih =>
      rw [List.cons_append, granted_cons, granted_cons, after, ih, List.cons_append]

theorem length_granted (b : Bucket) (cs : List Call) :
    (granted outOfRange b cs).length = cs.length := by
  induction cs generalizing b with
  | nil => rfl
  | cons c cs ih => exact congrArg (· + 1) (ih _)

/-- What comes after some calls starts from a sound bucket. -/
theorem sound_after {cs cs' : List Call} (hs : Sound b)
    (h : MeetsAlong (step outOfRange) Regular (cs ++ cs') b) :
    Sound (after outOfRange b cs) ∧
      MeetsAlong (step outOfRange) Regular cs' (after outOfRange b cs) := by
  induction cs generalizing b with
  | nil => exact ⟨hs, h⟩
  | cons c cs ih =>
      rcases meetsAlong_cons h with ⟨hregular, hrest⟩
      exact ih (sound_takeAvailable hs hregular) hrest

theorem meetsAlong_of_append {cs cs' : List Call}
    (h : MeetsAlong (step outOfRange) Regular (cs ++ cs') b) :
    MeetsAlong (step outOfRange) Regular cs b := by
  induction cs generalizing b with
  | nil => trivial
  | cons c cs ih =>
      rcases meetsAlong_cons h with ⟨hregular, hrest⟩
      exact ⟨hregular, ih hrest⟩

theorem capacity_after {cs : List Call} (hs : Sound b)
    (h : MeetsAlong (step outOfRange) Regular cs b) :
    (after outOfRange b cs).capacity = b.capacity ∧
      (after outOfRange b cs).refillRate = b.refillRate := by
  induction cs generalizing b with
  | nil => exact ⟨rfl, rfl⟩
  | cons c cs ih =>
      rcases meetsAlong_cons h with ⟨hregular, hrest⟩
      have hnext := ih (sound_takeAvailable hs hregular) hrest
      rw [takeAvailable_eq hs hregular] at hnext
      rw [after, takeAvailable_eq hs hregular]
      exact hnext

/-- Nobody is granted less than nothing or more than was asked for. -/
theorem granted_between {cs : List Call} (hs : Sound b)
    (h : MeetsAlong (step outOfRange) Regular cs b) :
    List.Forall₂ (fun c grant => 0 ≤ grant ∧ grant ≤ c.req) cs (granted outOfRange b cs) := by
  induction cs generalizing b with
  | nil => exact List.Forall₂.nil
  | cons c cs ih =>
      rcases meetsAlong_cons h with ⟨hregular, hrest⟩
      have hbounds := refilled_bounds hs fun hne => (hregular.later hne).1
      have hsound : Sound (b.takeAvailable outOfRange c.now c.req).2 :=
        sound_takeAvailable hs hregular
      rw [granted_cons]
      refine List.Forall₂.cons ?_ (ih hsound hrest)
      rw [takeAvailable_eq hs hregular]
      exact ⟨le_min hregular.request hbounds.1, min_le_left _ _⟩

/-! ## Polls -/

/-- A call, or one that asks for nothing. -/
inductive Event
  | take (c : Call)
  | poll (now : ℚ)
  deriving DecidableEq

namespace Event

/-- A poll is a call that asks for nothing. -/
def call : Event → Call
  | take c => c
  | poll now => ⟨now, 0⟩

/-- Without the polls. -/
def taken : Event → Option Call
  | take c => some c
  | poll _ => none

end Event

/-- What the calls are granted that do ask for something. -/
def takesGranted (outOfRange : ℚ → Int) (b : Bucket) : List Event → List Int
  | [] => []
  | .take c :: es => (b.takeAvailable outOfRange c.now c.req).1 ::
      takesGranted outOfRange (b.takeAvailable outOfRange c.now c.req).2 es
  | .poll now :: es => takesGranted outOfRange (b.takeAvailable outOfRange now 0).2 es

/-- The bucket after a call or a poll. -/
def stepEvent (outOfRange : ℚ → Int) (b : Bucket) (e : Event) : Option Bucket :=
  step outOfRange b e.call

/-- The bucket is new, or full by now, or the time since the last call comes to whole tokens. -/
def Harmless (b : Bucket) (now : ℚ) : Prop :=
  b.lastTick = 0 ∨ b.capacity ≤ b.availableTokens + ⌊(now - b.lastTick) * b.refillRate⌋ ∨
    (⌊(now - b.lastTick) * b.refillRate⌋ : ℚ) = (now - b.lastTick) * b.refillRate

instance (b : Bucket) (now : ℚ) : Decidable (Harmless b now) :=
  instDecidableOr

/-- A call is regular, and a poll loses no fraction besides. -/
def Allowed (b : Bucket) : Event → Prop
  | .take c => Regular b c
  | .poll now => Regular b ⟨now, 0⟩ ∧ Harmless b now

instance (b : Bucket) : (e : Event) → Decidable (Allowed b e)
  | .take _ => inferInstanceAs (Decidable (Regular _ _))
  | .poll _ => instDecidableAnd

/-- The bucket after a poll. -/
def polled (b : Bucket) (now : ℚ) : Bucket :=
  { b with availableTokens := refilled b now, lastTick := now }

theorem takeAvailable_poll (hs : Sound b) {now : ℚ} (h : Regular b ⟨now, 0⟩) :
    b.takeAvailable outOfRange now 0 = (0, polled b now) := by
  have hbounds := refilled_bounds hs fun hne => (h.later hne).1
  have htake := @takeAvailable_eq outOfRange b ⟨now, 0⟩ hs h
  dsimp only at htake
  rw [htake, min_eq_left hbounds.1, sub_zero]
  rfl

/-- A poll changes nothing for later calls exactly when it is harmless. -/
theorem poll_iff (hs : Sound b) {now : ℚ} (h : Regular b ⟨now, 0⟩) :
    (∀ later, now ≤ later → refilled (polled b now) later = refilled b later) ↔
      Harmless b now := by
  have hnow : (polled b now).lastTick ≠ 0 := h.now
  have hrate : (0 : ℚ) ≤ b.refillRate := by exact_mod_cast hs.refillRate
  have hpolled : ∀ later, refilled (polled b now) later =
      min (refilled b now + ⌊(later - now) * b.refillRate⌋) b.capacity :=
    fun later => if_neg hnow
  -- A bucket that was never asked forgets nothing when it is asked.
  by_cases hnew : b.lastTick = 0
  · refine iff_of_true (fun later hlater => ?_) (.inl hnew)
    have hfloor : 0 ≤ ⌊(later - now) * (b.refillRate : ℚ)⌋ :=
      Int.floor_nonneg.mpr (mul_nonneg (sub_nonneg.mpr hlater) hrate)
    rw [hpolled, refilled, if_pos hnew, refilled, if_pos hnew, min_eq_right]
    omega
  · have hadd : ∀ later, (later - b.lastTick) * (b.refillRate : ℚ) =
        (now - b.lastTick) * b.refillRate + (later - now) * b.refillRate := by
      intro later
      ring
    have hrefilled : ∀ later, refilled b later =
        min (b.availableTokens + ⌊(later - b.lastTick) * b.refillRate⌋) b.capacity :=
      fun later => if_neg hnew
    -- One direction finds a time at which a token is missing, the other goes through the three
    -- cases.
    constructor
    · intro hsame
      by_contra hharm
      rw [Harmless, not_or, not_or, not_le] at hharm
      rcases hharm with ⟨-, hroom, hwhole⟩
      -- The fraction that is lost would be a token together with the rest of it.
      set x := (now - b.lastTick) * (b.refillRate : ℚ) with hx
      have hpos : (b.refillRate : ℚ) ≠ 0 := by
        intro hzero
        rw [hx, hzero, mul_zero, Int.floor_zero, Int.cast_zero] at hwhole
        exact hwhole rfl
      have hfract : 0 < Int.fract x :=
        lt_of_le_of_ne (Int.fract_nonneg x) fun hzero =>
          hwhole (sub_eq_zero.mp hzero.symm).symm
      have hless := Int.fract_lt_one x
      -- The time by which the fraction becomes a whole token.
      have hrest : ((now + (1 - Int.fract x) / b.refillRate) - now) * (b.refillRate : ℚ) =
          1 - Int.fract x := by
        rw [add_sub_cancel_left, div_mul_cancel₀ _ hpos]
      have hlater : now ≤ now + (1 - Int.fract x) / b.refillRate :=
        le_add_of_nonneg_right (div_nonneg (by linarith) hrate)
      have hnone : ⌊1 - Int.fract x⌋ = 0 := by
        rw [Int.floor_eq_zero_iff]
        exact ⟨by linarith, by linarith⟩
      have hone : ⌊x + (1 - Int.fract x)⌋ = ⌊x⌋ + 1 := by
        have hsum : x + (1 - Int.fract x) = ((⌊x⌋ + 1 : Int) : ℚ) := by
          rw [Int.fract]
          push_cast
          ring
        rw [hsum, Int.floor_intCast]
      have hlost := hsame _ hlater
      rw [hpolled, hrefilled, hrefilled, hadd (now + _), ← hx, hrest, hnone, hone] at hlost
      omega
    · rintro (hzero | hfull | hwhole) later hlater
      · -- The bucket is full then, whatever was lost.
        exact absurd hzero hnew
      · have hfloor : ⌊(now - b.lastTick) * (b.refillRate : ℚ)⌋ ≤
            ⌊(later - b.lastTick) * (b.refillRate : ℚ)⌋ := by
          refine Int.floor_le_floor ?_
          rw [hadd later]
          exact le_add_of_nonneg_right (mul_nonneg (sub_nonneg.mpr hlater) hrate)
        have hmore : 0 ≤ ⌊(later - now) * (b.refillRate : ℚ)⌋ :=
          Int.floor_nonneg.mpr (mul_nonneg (sub_nonneg.mpr hlater) hrate)
        rw [hpolled, hrefilled, hrefilled]
        omega
      · -- There is no fraction that could be lost.
        have hsum : ⌊(later - b.lastTick) * (b.refillRate : ℚ)⌋ =
            ⌊(now - b.lastTick) * (b.refillRate : ℚ)⌋ +
              ⌊(later - now) * (b.refillRate : ℚ)⌋ := by
          rw [hadd later, ← hwhole, Int.floor_intCast_add, Int.floor_intCast]
        have hmore : 0 ≤ ⌊(later - now) * (b.refillRate : ℚ)⌋ :=
          Int.floor_nonneg.mpr (mul_nonneg (sub_nonneg.mpr hlater) hrate)
        rw [hpolled, hrefilled, hrefilled, hsum]
        omega

/-- Polls have brought one bucket to where the other one will be. -/
structure Behind (b' b : Bucket) : Prop where
  capacity : b'.capacity = b.capacity
  refillRate : b'.refillRate = b.refillRate
  refilled : ∀ later, (b.lastTick ≠ 0 → b.lastTick ≤ later) → refilled b' later = refilled b later

theorem behind_refl (b : Bucket) : Behind b b :=
  ⟨rfl, rfl, fun _ _ => rfl⟩

/-- After a harmless poll of one bucket the two still grant the same from then on. -/
theorem behind_polled (hs : Sound b) {now : ℚ} (h : Regular b ⟨now, 0⟩) (hharm : Harmless b now)
    (hb : Behind b' b) : Behind b' (polled b now) where
  capacity := hb.capacity
  refillRate := hb.refillRate
  refilled later hlater := by
    have hnow : now ≤ later := hlater h.now
    rw [(poll_iff hs h).mpr hharm later hnow]
    exact hb.refilled later fun hne => (h.later hne).1.trans hnow

theorem takeAvailable_behind (hs : Sound b) (hs' : Sound b') (h : Regular b c) (h' : Regular b' c)
    (hb : Behind b' b) :
    b'.takeAvailable outOfRange c.now c.req = b.takeAvailable outOfRange c.now c.req := by
  rw [takeAvailable_eq hs h, takeAvailable_eq hs' h', hb.refilled c.now fun hne => (h.later hne).1,
    hb.capacity, hb.refillRate]

theorem takesGranted_eq {es : List Event} (hs : Sound b) (hs' : Sound b') (hb : Behind b' b)
    (h : MeetsAlong (stepEvent outOfRange) Allowed es b)
    (h' : MeetsAlong (step outOfRange) Regular (es.filterMap Event.taken) b') :
    takesGranted outOfRange b es = granted outOfRange b' (es.filterMap Event.taken) := by
  induction es generalizing b b' with
  | nil => rfl
  | cons e es ih =>
      rcases (h : Allowed b e ∧ MeetsAlong (stepEvent outOfRange) Allowed es
        (b.takeAvailable outOfRange e.call.now e.call.req).2) with ⟨hallowed, hrest⟩
      cases e with
      | take c =>
          have htaken : (Event.take c :: es).filterMap Event.taken =
              c :: es.filterMap Event.taken := rfl
          rw [htaken] at h' ⊢
          rcases meetsAlong_cons h' with ⟨hregular', hrest'⟩
          -- A bucket that lags behind gives the same tokens.
          have hsame : b'.takeAvailable outOfRange c.now c.req =
              b.takeAvailable outOfRange c.now c.req :=
            takeAvailable_behind hs hs' hallowed hregular' hb
          have hsound : Sound (b.takeAvailable outOfRange c.now c.req).2 :=
            sound_takeAvailable hs hallowed
          rw [hsame] at hrest'
          rw [takesGranted, granted_cons, hsame]
          exact congrArg _ (ih hsound hsound (behind_refl _) hrest hrest')
      | poll now =>
          have htaken : (Event.poll now :: es).filterMap Event.taken = es.filterMap Event.taken :=
            rfl
          rw [htaken] at h' ⊢
          rcases hallowed with ⟨hregular, hharm⟩
          have hsound := @sound_takeAvailable outOfRange b _ hs hregular
          dsimp only [Event.call] at hrest hsound
          rw [takeAvailable_poll hs hregular] at hrest hsound
          rw [takesGranted, takeAvailable_poll hs hregular]
          exact ih hsound hs' (behind_polled hs hregular hharm hb) hrest h'

/-- A sequence that is allowed is regular when its polls are taken for calls. -/
theorem regular_of_allowed {es : List Event}
    (h : MeetsAlong (stepEvent outOfRange) Allowed es b) :
    MeetsAlong (step outOfRange) Regular (es.map Event.call) b := by
  induction es generalizing b with
  | nil => trivial
  | cons e es ih =>
      rcases (h : Allowed b e ∧ MeetsAlong (stepEvent outOfRange) Allowed es
        (b.takeAvailable outOfRange e.call.now e.call.req).2) with ⟨hallowed, hrest⟩
      refine ⟨?_, ih hrest⟩
      cases e with
      | take c => exact hallowed
      | poll now => exact hallowed.1

/-- In any window no more is granted than the capacity and the tokens for its time, every grant
    is between zero and the request, and polls do not change what the others are granted. This
    is as long as calls are regular, with and without the polls, and polls are harmless. The
    bucket counts whole tokens and forgets the rest of the time with each call, so a poll at a
    bad time costs the others a token. -/
theorem granted_bounds (outOfRange : ℚ → Int) (capacity refillRate : Int) (es : List Event)
    (hcapacity : 0 ≤ capacity ∧ capacity < 2 ^ 63) (hrate : 0 ≤ refillRate)
    (h : MeetsAlong (stepEvent outOfRange) Allowed es (newBucket capacity refillRate))
    (htaken : MeetsAlong (step outOfRange) Regular (es.filterMap Event.taken)
      (newBucket capacity refillRate)) :
    (∀ before window rest, es.map Event.call = before ++ window ++ rest →
      (((((granted outOfRange (newBucket capacity refillRate) (es.map Event.call)).drop
        before.length).take window.length).sum : Int) : ℚ) ≤
          capacity + refillRate * elapsed window) ∧
      List.Forall₂ (fun c grant => 0 ≤ grant ∧ grant ≤ c.req) (es.map Event.call)
        (granted outOfRange (newBucket capacity refillRate) (es.map Event.call)) ∧
      takesGranted outOfRange (newBucket capacity refillRate) es =
        granted outOfRange (newBucket capacity refillRate) (es.filterMap Event.taken) := by
  have hs : Sound (newBucket capacity refillRate) := sound_newBucket hcapacity hrate
  have hregular := regular_of_allowed h
  refine ⟨fun before window rest hcalls => ?_, granted_between hs hregular,
    takesGranted_eq hs hs (behind_refl _) h htaken⟩
  rw [hcalls] at hregular ⊢
  have hbefore := meetsAlong_of_append hregular
  rcases sound_after hs hbefore with ⟨hsound, hwindow⟩
  rcases capacity_after hs (meetsAlong_of_append hbefore) with ⟨hcap, hrefill⟩
  have hsum := sum_window_le hsound hwindow
  rw [hcap, hrefill] at hsum
  rw [List.append_assoc, granted_append, List.drop_left' (length_granted _ _), granted_append,
    List.take_left' (length_granted _ _)]
  exact hsum

/-- Calls of a bucket of five tokens with two of them for a second, with two polls. -/
def somePolls : List Event :=
  [.take ⟨1, 4⟩, .poll (3 / 2), .take ⟨2, 10⟩, .take ⟨5 / 2, 1⟩, .poll 10, .take ⟨11, 7⟩]

theorem granted_bounds_somePolls :
    takesGranted (fun _ => 0) (newBucket 5 2) somePolls = [4, 3, 1, 5] := by
  rw [(granted_bounds (fun _ => 0) 5 2 somePolls (by decide) (by decide) (by decide +kernel)
    (by decide +kernel)).2.2]
  decide +kernel

/-- Half a token is lost to a poll, and there is none for the call after it. -/
theorem token_lost : ¬ ∀ (outOfRange : ℚ → Int) (capacity refillRate : Int) (es : List Event),
    MeetsAlong (step outOfRange) Regular (es.map Event.call) (newBucket capacity refillRate) →
      takesGranted outOfRange (newBucket capacity refillRate) es =
        granted outOfRange (newBucket capacity refillRate) (es.filterMap Event.taken) := by
  intro hall
  have h := hall (fun _ => 0) 1 1 [.take ⟨1, 1⟩, .poll (3 / 2), .take ⟨2, 1⟩] (by decide +kernel)
  exact absurd h (by decide +kernel)

/-- What is passed on is the part of the bytes that is granted. -/
theorem write_eq {ε : Type*} (hs : Sound b) {now : ℚ} {buf : List UInt8}
    (h : Regular b ⟨now, buf.length⟩) (dst : List UInt8 → Nat × Option ε) :
    ∃ grant ≤ buf.length, write outOfRange b now buf dst =
      some (match dst (buf.take grant) with
        | (n, some err) => (n, some err)
        | (_, none) => (buf.length, none), (b.takeAvailable outOfRange now buf.length).2) := by
  have hbounds := refilled_bounds hs fun hne => (h.later hne).1
  have htake := @takeAvailable_eq outOfRange b ⟨now, buf.length⟩ hs h
  dsimp only at htake hbounds
  refine ⟨(min (buf.length : Int) (refilled b now)).toNat, by omega, ?_⟩
  rw [write, htake]
  dsimp only
  rw [if_neg (by omega)]
  split <;> rfl

end Supervisor

end Nxpod
