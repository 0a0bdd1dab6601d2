/-!
# Instants and lifetimes

An instant is a count of seconds since 1970-01-01T00:00:00Z with a nanosecond part, inside the
range of calendar days that can be written. A nanosecond part of a whole second or more marks a
leap second, which can only be the last second of a minute. A lifetime is a signed span of time;
adding one to an instant fails only by leaving the range.
-/

namespace OrgAccess

/-- A point in time, in seconds and nanoseconds since the start of 1970. -/
structure Instant where
  seconds : Int
  /-- Nanoseconds within the second; above a whole second inside a leap second. -/
  nanos : Nat
  inRange : -8334601228800 ≤ seconds ∧ seconds ≤ 8210266876799 := by decide
  nanosBound : nanos < 1000000000 ∨ (nanos < 2000000000 ∧ seconds % 60 = 59) := by decide
deriving DecidableEq

namespace Instant

/-- The instant from which seconds are counted. -/
def epoch : Instant where
  seconds := 0
  nanos := 0

/-- The instant with these parts, when they are in range. -/
def ofUnix? (seconds : Int) (nanos : Nat) : Option Instant :=
  if inRange : -8334601228800 ≤ seconds ∧ seconds ≤ 8210266876799 then
    if nanosBound : nanos < 1000000000 ∨ (nanos < 2000000000 ∧ seconds % 60 = 59) then
      some ⟨seconds, nanos, inRange, nanosBound⟩
    else none
  else none

/-- An instant is before another in seconds, or in nanoseconds of the same second. -/
instance : LT Instant where
  lt first second :=
    first.seconds < second.seconds ∨
      (first.seconds = second.seconds ∧ first.nanos < second.nanos)

theorem lt_def {first second : Instant} :
    first < second ↔ first.seconds < second.seconds ∨
      (first.seconds = second.seconds ∧ first.nanos < second.nanos) := Iff.rfl

instance (first second : Instant) : Decidable (first < second) :=
  inferInstanceAs (Decidable (_ ∨ _))

@[simp]
theorem ofUnix?_parts (instant : Instant) :
    ofUnix? instant.seconds instant.nanos = some instant := by
  simp [ofUnix?, instant.inRange, instant.nanosBound]

theorem ofUnix?_eq_some_iff {seconds : Int} {nanos : Nat} {instant : Instant} :
    ofUnix? seconds nanos = some instant ↔
      instant.seconds = seconds ∧ instant.nanos = nanos := by
  constructor
  · intro made
    unfold ofUnix? at made
    split at made
    · split at made
      · cases made
        exact ⟨rfl, rfl⟩
      · cases made
    · cases made
  · rintro ⟨rfl, rfl⟩
    exact ofUnix?_parts instant

/-- A whole second is an instant exactly when its day is in range. -/
theorem ofUnix?_zero_isSome_iff {seconds : Int} :
    (ofUnix? seconds 0).isSome ↔ -8334601228800 ≤ seconds ∧ seconds ≤ 8210266876799 := by
  unfold ofUnix?
  split <;> simp_all

end Instant

/-- A signed span of time in nanoseconds. -/
structure Lifetime where
  nanos : Int
deriving DecidableEq

namespace Lifetime

/-- A lifetime of whole seconds. -/
def ofSeconds (seconds : Int) : Lifetime :=
  ⟨seconds * 1000000000⟩

/-- The whole seconds of a span, rounded down. -/
def wholeSeconds (lifetime : Lifetime) : Int :=
  lifetime.nanos / 1000000000

/-- The nanoseconds that remain beyond the whole seconds. -/
def subsecondNanos (lifetime : Lifetime) : Nat :=
  (lifetime.nanos % 1000000000).toNat

/-- The written form for diagnostics: whole seconds and remaining nanoseconds. -/
def describe (lifetime : Lifetime) : String :=
  "TimeDelta \x7b secs: " ++ toString lifetime.wholeSeconds ++ ", nanos: " ++
    toString lifetime.subsecondNanos ++ " \x7d"

end Lifetime

namespace Instant

/-- The instant that lies a number of nanoseconds after 1970 began, when it is in range. -/
def ofNanos? (total : Int) : Option Instant :=
  ofUnix? (total / 1000000000) (total % 1000000000).toNat

/--
The instant a lifetime later, or nothing when it lies outside the range. A leap second that is left
behind is not counted.
-/
def add? (instant : Instant) (lifetime : Lifetime) : Option Instant :=
  let nanos := instant.nanos + lifetime.nanos
  if 1000000000 ≤ instant.nanos ∧ 1000000000 ≤ nanos then
    if nanos < 2000000000 then ofUnix? instant.seconds nanos.toNat
    else ofNanos? (instant.seconds * 1000000000 + nanos - 1000000000)
  else ofNanos? (instant.seconds * 1000000000 + nanos)

/-- A sum lies as many seconds later as the nanoseconds of its two parts fill. -/
theorem seconds_of_add? {instant expiry : Instant} {lifetime : Lifetime}
    (added : instant.add? lifetime = some expiry) (nonneg : 0 ≤ lifetime.nanos) :
    expiry.seconds =
      instant.seconds + ((instant.nanos % 1000000000 : Nat) + lifetime.nanos) / 1000000000 := by
  have bound := instant.nanosBound
  unfold add? ofNanos? at added
  dsimp only at added
  split at added
  · split at added
    · rw [(ofUnix?_eq_some_iff.mp added).1]
      omega
    · rw [(ofUnix?_eq_some_iff.mp added).1]
      omega
  · rw [(ofUnix?_eq_some_iff.mp added).1]
    omega

end Instant

end OrgAccess
