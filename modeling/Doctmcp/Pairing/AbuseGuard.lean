import Doctmcp.Lib.Binary64
import Doctmcp.Lib.Operation
import Doctmcp.Lib.OrderedMap
import Doctmcp.Lib.Runs
import Doctmcp.Lib.Utf16
import Doctmcp.Schemas.Records

/-! # The pairing abuse guard

`InMemoryPairingAbuseGuard` of `pairing-abuse-guard.ts`: fixed windows that count the accepted calls
of a key. A window is anchored at the first accepted call; every call first drops the windows that
have ended. The reading of the clock is an argument, `none` where it is not a finite number. -/

namespace Doctmcp.Pairing.AbuseGuard
open Doctmcp.Lib Doctmcp.Lib.Binary64 Doctmcp.Lib.Operation Doctmcp.Lib.Utf16 Doctmcp.Schemas
set_option autoImplicit false

inductive PairingAbuseGuardErrorCode
  | PAIRING_RATE_LIMITED
  deriving DecidableEq

structure PairingAbuseError where
  code : PairingAbuseGuardErrorCode := .PAIRING_RATE_LIMITED
  message : String := "Pairing operation is temporarily unavailable."
  deriving DecidableEq

/-- What `positiveSafeInteger` lets through. -/
abbrev PositiveSafeInteger := { n : ℕ // 0 < n ∧ n ≤ maxSafeInteger }

structure PairingAbuseGuardOptions where
  windowMs : PositiveSafeInteger := ⟨60000, by decide⟩
  maxStartsPerAddress : PositiveSafeInteger := ⟨10, by decide⟩
  maxClaimsPerOwner : PositiveSafeInteger := ⟨10, by decide⟩
  maxBuckets : PositiveSafeInteger := ⟨10000, by decide⟩

structure RateBucket where
  windowStartedAt : Finite
  count : ℕ

abbrev Buckets := OrderedMap Text RateBucket

/-! ## One call -/

section Guard
variable (options : PairingAbuseGuardOptions)

/-- `now - windowStartedAt >= this.#windowMs`. -/
def ended (now windowStartedAt : Finite) : Prop :=
  (options.windowMs.val : ℚ) ≤ sub now windowStartedAt

instance (now windowStartedAt : Finite) : Decidable (ended options now windowStartedAt) :=
  inferInstanceAs (Decidable (_ ≤ _))

/-- The condition under which `#cleanup` deletes a bucket. -/
def stale (now : Finite) (bucket : RateBucket) : Prop :=
  bucket.windowStartedAt.value ≤ now.value ∧ ended options now bucket.windowStartedAt

instance (now : Finite) (bucket : RateBucket) : Decidable (stale options now bucket) :=
  inferInstanceAs (Decidable (_ ∧ _))

def cleanup (now : Finite) (buckets : Buckets) : Buckets :=
  buckets.filter fun _ bucket => decide (¬ stale options now bucket)

def consume (clock : Option Finite) (key : Text) (limit : ℕ) :
    Operation Buckets PairingAbuseError Unit := do
  let now ← liftM (orThrow clock ({} : PairingAbuseError))
  let retained ← get
  set (cleanup options now retained)
  let buckets ← get
  let bucket : RateBucket ← match buckets.get? key with
    | none => do
      failIf (options.maxBuckets.val ≤ buckets.size) {}
      set (buckets.set key { windowStartedAt := now, count := 0 })
      pure { windowStartedAt := now, count := 0 }
    | some bucket =>
      if now.value < bucket.windowStartedAt.value then throw {}
      else if ended options now bucket.windowStartedAt then do
        set (buckets.set key { windowStartedAt := now, count := 0 })
        pure { windowStartedAt := now, count := 0 }
      else pure bucket
  failIf (limit ≤ bucket.count) {}
  let current ← get
  set (current.set key { bucket with count := bucket.count + 1 })

inductive GuardCall
  | beforeStart (remoteAddress : Option Text)
  | beforeClaim (ownerId : Text)

def startTag : Text := encode "start:".toList
def claimTag : Text := encode "claim:".toList

/-- An address that is missing, empty or too long is counted under one common key. -/
def startKey (remoteAddress : Option Text) : Text :=
  match remoteAddress with
  | none => startTag ++ encode "unknown".toList
  | some address =>
    if address ≠ [] ∧ address.length ≤ 128 then startTag ++ address
    else startTag ++ encode "unknown".toList

def GuardCall.key : GuardCall → Text
  | .beforeStart remoteAddress => startKey remoteAddress
  | .beforeClaim ownerId => claimTag ++ ownerId

def GuardCall.limit : GuardCall → ℕ
  | .beforeStart _ => options.maxStartsPerAddress.val
  | .beforeClaim _ => options.maxClaimsPerOwner.val

/-- `beforeStart` or `beforeClaim` with the reading that it takes. -/
def GuardCall.perform (call : GuardCall) (clock : Option Finite) :
    Operation Buckets PairingAbuseError Unit :=
  consume options clock call.key (call.limit options)

/-! ## What a call does -/

theorem get?_cleanup (now : Finite) (buckets : Buckets) (key : Text) :
    (cleanup options now buckets).get? key =
      (buckets.get? key).filter fun bucket => decide (¬ stale options now bucket) :=
  OrderedMap.get?_filter _ _ _

theorem get?_cleanup_some {now : Finite} {buckets : Buckets} {key : Text} {bucket : RateBucket} :
    (cleanup options now buckets).get? key = some bucket ↔
      buckets.get? key = some bucket ∧ ¬ stale options now bucket := by
  rw [get?_cleanup, Option.filter_eq_some_iff, decide_eq_true_iff]

/-- The outcome of a call with the reading `now` whose cleanup left `cleaned`. A window that is left
has not ended, so the branch that restarts one is not taken. -/
inductive Consumes (cleaned : Buckets) (now : Finite) (key : Text) (limit : ℕ) :
    Except PairingAbuseError Unit × Buckets → Prop
  | full (habsent : cleaned.get? key = none) (hfull : options.maxBuckets.val ≤ cleaned.size) :
    Consumes cleaned now key limit (.error {}, cleaned)
  | opened (habsent : cleaned.get? key = none) (hroom : cleaned.size < options.maxBuckets.val) :
    Consumes cleaned now key limit
      (.ok (), (cleaned.set key ⟨now, 0⟩).set key ⟨now, 1⟩)
  | early (bucket : RateBucket) (hbucket : cleaned.get? key = some bucket)
    (hearly : now.value < bucket.windowStartedAt.value) :
    Consumes cleaned now key limit (.error {}, cleaned)
  | spent (bucket : RateBucket) (hbucket : cleaned.get? key = some bucket)
    (hspent : limit ≤ bucket.count) :
    Consumes cleaned now key limit (.error {}, cleaned)
  | counted (bucket : RateBucket) (hbucket : cleaned.get? key = some bucket)
    (hstarted : bucket.windowStartedAt.value ≤ now.value)
    (hrunning : ¬ ended options now bucket.windowStartedAt) (hlimit : bucket.count < limit) :
    Consumes cleaned now key limit
      (.ok (), cleaned.set key { bucket with count := bucket.count + 1 })

theorem exec_consume_none (key : Text) (limit : ℕ) (buckets : Buckets) :
    exec (consume options none key limit) buckets = (.error {}, buckets) := rfl

theorem exec_consume {limit : ℕ} (hlimit : 0 < limit) (now : Finite) (key : Text)
    (buckets : Buckets) :
    Consumes options (cleanup options now buckets) now key limit
      (exec (consume options (some now) key limit) buckets) := by
  rw [consume, orThrow_some, exec_lift_bind_eq rfl, exec_get_bind, exec_set_bind, exec_get_bind]
  dsimp only
  cases hbucket : (cleanup options now buckets).get? key with
  | none =>
    dsimp only
    by_cases hfull : options.maxBuckets.val ≤ (cleanup options now buckets).size
    · rw [exec_bind, exec_failIf, if_pos hfull]
      exact .full hbucket hfull
    · rw [exec_bind, exec_failIf, if_neg hfull]
      dsimp only
      rw [exec_set_bind, pure_bind, exec_bind, exec_failIf, if_neg hlimit.not_ge]
      exact .opened hbucket (not_le.1 hfull)
  | some bucket =>
    dsimp only
    by_cases hearly : now.value < bucket.windowStartedAt.value
    · rw [if_pos hearly]
      exact .early bucket hbucket hearly
    have hstarted := not_lt.1 hearly
    have hrunning : ¬ ended options now bucket.windowStartedAt := fun hended =>
      ((get?_cleanup_some options).1 hbucket).2 ⟨hstarted, hended⟩
    rw [if_neg hearly, if_neg hrunning, pure_bind]
    by_cases hspent : limit ≤ bucket.count
    · rw [exec_bind, exec_failIf, if_pos hspent]
      exact .spent bucket hbucket hspent
    · rw [exec_bind, exec_failIf, if_neg hspent]
      exact .counted bucket hbucket hstarted hrunning (not_le.1 hspent)

theorem GuardCall.limit_pos (call : GuardCall) : 0 < call.limit options := by
  cases call with
  | beforeStart => exact options.maxStartsPerAddress.property.1
  | beforeClaim => exact options.maxClaimsPerOwner.property.1

/-- Starts and claims never share a bucket, so a key has one limit. -/
theorem GuardCall.limit_of_key {call other : GuardCall} (hkey : call.key = other.key) :
    call.limit options = other.limit options := by
  have hhead : ∀ call : GuardCall, call.key.head? =
      some (match call with | .beforeStart _ => 0x73 | .beforeClaim _ => 0x63) := by
    intro call
    cases call with
    | beforeStart remoteAddress =>
      simp only [GuardCall.key, startKey]
      split
      · rfl
      · split <;> rfl
    | beforeClaim ownerId => rfl
  have hsame := (hhead call).symm.trans ((congrArg List.head? hkey).trans (hhead other))
  cases call with
  | beforeStart => cases other with
    | beforeStart => rfl
    | beforeClaim => cases hsame
  | beforeClaim => cases other with
    | beforeStart => cases hsame
    | beforeClaim => rfl

end Guard

end Doctmcp.Pairing.AbuseGuard
