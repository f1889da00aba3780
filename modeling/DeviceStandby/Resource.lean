import DeviceStandby.Text.Blank

/-!
# Resources and conditions

An exemption covers kinds of resource.  A request names them by a 32-bit mask, in which each kind has
one bit and bit 0 is kept free, so that the empty mask means no resource.  Bits that belong to no
kind are dropped from a request; a mask that is empty then is refused.

Policy values may depend on the condition in effect, day or night; sets of conditions are masks too.
-/

namespace DeviceStandby

/-- A set of resource kinds, or of conditions, as a word of 32 bits. -/
abbrev Mask := BitVec 32

namespace Mask

/-- The mask with the one bit at `index`; empty if the word has no such bit. -/
def bit (index : Nat) : Mask := if index < 32 then BitVec.twoPow 32 index else 0

/-- Whether two masks have a bit in common. -/
def meets (a b : Mask) : Bool := a &&& b != 0

/-- The bits of `mask` that are not in `removed`. -/
def without (mask removed : Mask) : Mask := mask &&& ~~~removed

end Mask

/-- The kinds of resource that an exemption can cover. -/
inductive Resource where
  | network
  | runningLock
  | timer
  | workScheduler
  | autoSync
  | push
  | freeze
deriving DecidableEq, Repr, Inhabited

namespace Resource

/-- The kinds in the order of their bits. -/
def all : List Resource := [network, runningLock, timer, workScheduler, autoSync, push, freeze]

/-- The name of a kind in configuration files and dumps. -/
def name : Resource → String
  | network => "network"
  | runningLock => "running_lock"
  | timer => "timer"
  | workScheduler => "work_scheduler"
  | autoSync => "auto_sync"
  | push => "push"
  | freeze => "freeze"

/-- The place of the bit of a kind. -/
def index : Resource → Nat
  | network => 1
  | runningLock => 2
  | timer => 3
  | workScheduler => 4
  | autoSync => 5
  | push => 6
  | freeze => 7

/-- The bit of a kind. -/
def bit (kind : Resource) : Mask := Mask.bit kind.index

/-- The kind whose bit is at a place. -/
def ofIndex? (index : Nat) : Option Resource := all.find? (fun kind => kind.index = index)

/-- The kind that a configuration file calls so; ASCII capitals count as small letters. -/
def ofName? (name : String) : Option Resource :=
  all.find? (fun kind => kind.name = lowerAscii name)

/-- Every kind is listed. -/
theorem mem_all (kind : Resource) : kind ∈ all := by cases kind <;> decide

/-- A kind is found at the place of its bit. -/
@[simp] theorem ofIndex?_index (kind : Resource) : ofIndex? kind.index = some kind := by
  cases kind <;> rfl

end Resource

namespace Mask

/-- The bits of all kinds. -/
def known : Mask := Resource.all.foldl (fun mask kind => mask ||| kind.bit) 0

/-- The kinds in a mask, in the order of their bits. -/
def kinds (mask : Mask) : List Resource := Resource.all.filter (fun kind => mask.meets kind.bit)

/-- The kinds that a request asks for; `none` if it names none. -/
def ofRequest? (raw : Mask) : Option Mask :=
  let mask := raw &&& known
  if mask = 0 then none else some mask

/-- The single kind whose bit is the whole mask. -/
def single? (mask : Mask) : Option Resource := Resource.all.find? (fun kind => kind.bit = mask)

/-- The place of the only bit of a mask. -/
def index? (mask : Mask) : Option Nat :=
  match (List.range 32).filter (fun index => mask.getLsbD index) with
  | [index] => some index
  | _ => none

end Mask

namespace Condition

/-- The condition by day. -/
def day : Mask := 1

/-- The condition by night. -/
def night : Mask := 2

/-- The bits of both conditions. -/
def known : Mask := day ||| night

/-- The condition that a configuration file calls so; ASCII capitals count as small letters. -/
def ofName? (name : String) : Option Mask :=
  let name := lowerAscii name
  if name = "day_standby" then some day
  else if name = "night_standby" then some night
  else none

/-- The conditions that are named with bars between them; `none` if a name is unknown. -/
def parse? (text : String) : Option Mask :=
  ((splitAt '|' text.toList).mapM (fun part => ofName? (String.ofList (trimChars part)))).map
    (fun conditions => conditions.foldl (· ||| ·) 0)

/-- Whether `set` holds every condition of `wanted`. -/
def covers (set wanted : Mask) : Bool := set &&& wanted == wanted

end Condition

end DeviceStandby
