import Audience.Dict
import Audience.Error
import Audience.Json.Decode
import Audience.Number.Double
import Audience.Segment

/-! # Arms and rewards

An arm is a segment that may be shown; it keeps how often it was tried and the sum of its rewards.
The arms are stored as a JSON object from segments to both numbers.

* **`Arm.record a r`** — an arm with one more reward.
* **`Arm.value a`** — the mean reward.
* **`AdEvent.reward? e`** — the reward of something that happened to an ad. -/

namespace Audience

/-- What is known about an arm. -/
structure Arm where
  pulls : UInt64
  rewardSum : Double
  deriving DecidableEq, Repr

/-- The known arms. -/
abbrev Arms := Dict Arm

namespace Arm

/-- An arm that was never tried. -/
def fresh : Arm := ⟨0, .zero⟩

instance : Inhabited Arm := ⟨fresh⟩

/-- An arm with one more reward. The count of pulls is a word, which starts again after the
greatest one. -/
def record (a : Arm) (reward : Double) : Arm := ⟨a.pulls + 1, a.rewardSum.add reward⟩

/-- The mean reward; an arm that was never tried counts as tried once. -/
def value (a : Arm) : Double := a.rewardSum.div (.ofNat (max a.pulls.toNat 1))

/-- An arm as stored. -/
def toJson (a : Arm) : Json :=
  .object [("pulls", .ofNat a.pulls.toNat), ("reward_sum", .ofDouble a.rewardSum)]

/-- Reads an arm. -/
def ofJson? (v : Json) : Option Arm := do
  match ← v.record? ["pulls", "reward_sum"] with
  | [some pulls, some rewardSum] =>
    return ⟨.ofNat (← pulls.nat? Json.unsignedLimit), ← rewardSum.double?⟩
  | _ => none

end Arm

namespace Arms

/-- Arms as stored. -/
def toJson (arms : Arms) : Json := .object (arms.entries.map (fun e => (e.1, e.2.toJson)))

/-- Reads arms. -/
def ofJson? (v : Json) : Option Arms := v.dict? Arm.ofJson?

/-- Arms with one more reward for a segment. -/
def record (arms : Arms) (s : Segment) (reward : Double) : Arms :=
  arms.insert s (((arms.get? s).getD .fresh).record reward)

end Arms

/-- What happened to an ad. -/
inductive AdEvent where
  | served
  | viewed
  | clicked
  | dismissed
  deriving DecidableEq, Repr

namespace AdEvent

/-- The name of an event. -/
def name : AdEvent → String
  | .served => "served"
  | .viewed => "viewed"
  | .clicked => "clicked"
  | .dismissed => "dismissed"

/-- All events. -/
def all : List AdEvent := [.served, .viewed, .clicked, .dismissed]

/-- The reward of an event; not every event is a verdict on the ad. -/
def reward? : AdEvent → Option Double
  | .clicked => some .one
  | .dismissed => some .zero
  | _ => none

/-- The event of a name. -/
def ofName (s : String) : Except Error AdEvent :=
  match all.find? (fun e => e.name == s) with
  | some e => .ok e
  | none => .error (.invalidInput ("unknown ad event type `" ++ s ++ "`"))

end AdEvent

end Audience
