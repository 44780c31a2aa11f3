import Mathlib.Data.List.Sort
import KvrocksOperator.Api.Calls
import KvrocksOperator.Interaction.Fallible
import KvrocksOperator.Text.Fields

/-!
# The kvrocks client

`pkg/client/kvrocks`: the encoding of slot lists and the commands sent to nodes and sentinels.
-/

namespace KvrocksOperator

open Interaction Text

/-- A function of the source. -/
abbrev Go (α : Type) := Fallible operator GoError α

namespace Go

/-- A Kubernetes request. -/
def api (program : Program operator (ApiResult α)) : Go α := Fallible.attempt GoError.api program

/-- The element of a slice at an index of type `int`, which may be out of range. -/
def index (items : List α) (index : ℤ) : Option α :=
  if 0 ≤ index then items[index.toNat]? else none

@[simp] theorem index_natCast (items : List α) (position : ℕ) : index items position = items[position]? := by
  simp [index]

/-- A request to a node or to the controller. -/
def remote (program : Program operator (Except GoError α)) : Go α := Fallible.attempt id program

end Go

namespace Kvrocks

/-! ## Slots -/

/-- `sort.Ints` -/
def sortInts (slots : List ℤ) : List ℤ := slots.insertionSort (· ≤ ·)

/-- The text of the range from `head` to `last`. -/
def rangeText (head last : ℤ) : String :=
  if head = last then itoa head else itoa head ++ "-" ++ itoa last

/-- The loop of `SlotsToString`: `head` starts the range in progress and `last` is the slot before the remaining ones.
-/
def slotRanges (head last : ℤ) : List ℤ → List String
  | [] => [rangeText head last]
  | slot :: slots =>
    if slot - last ≠ 1 then rangeText head last :: slotRanges slot slot slots
    else slotRanges head slot slots

/-- `SlotsToString` -/
def slotsToString (slots : List ℤ) : List String :=
  match sortInts slots with
  | [] => []
  | slot :: slots => slotRanges slot slot slots

/-- The integers from `first` to `last`. -/
def intRange (first last : ℤ) : List ℤ := (List.range (last + 1 - first).toNat).map fun offset : ℕ ↦ first + offset

/-- One element of the argument of `SlotsToInt`. -/
def slotToInts (slot : String) : List ℤ :=
  match split '-' slot with
  | [only] => [(atoi only).1]
  | first :: second :: _ => intRange (atoi first).1 (atoi second).1
  | [] => []

/-- `SlotsToInt`, where its loops end. -/
def slotsToInt (slots : List String) : List ℤ := slots.flatMap slotToInts

/-- A value of type `int`. -/
def wrapInt (value : ℤ) : ℤ := value.bmod (2 ^ 64)

/-- The loop `for i := begin; i <= end; i++` of `SlotsToInt`, if it ends within so many tests. -/
def rangeLoop : ℕ → ℤ → ℤ → Option (List ℤ)
  | 0, _, _ => none
  | tests + 1, i, last =>
    if i ≤ last then (rangeLoop tests (wrapInt (i + 1)) last).map (i :: ·) else some []

/-- One element of the argument of `SlotsToInt`, if the loop for it ends within so many tests. -/
def slotToIntsWithin (tests : ℕ) (slot : String) : Option (List ℤ) :=
  match split '-' slot with
  | [only] => some [(atoi only).1]
  | first :: second :: _ => rangeLoop tests (atoi first).1 (atoi second).1
  | [] => some []

/-- `SlotsToInt`, if each of its loops ends within so many tests. -/
def slotsToIntWithin (tests : ℕ) : List String → Option (List ℤ)
  | [] => some []
  | slot :: slots => do
    let ints ← slotToIntsWithin tests slot
    let rest ← slotsToIntWithin tests slots
    some (ints ++ rest)

/-! ## Commands -/

/-- `Ping` -/
def ping (ip password : String) : Go Bool :=
  Fallible.lift ((ask (.node ip password .ping)).bind fun
    | .ok _ => .done true
    | .error _ => .done false)

/-- `GetConfig` -/
def getConfig (ip password key : String) : Go String := do
  let value ← Go.remote (ask (.node ip password (.configGet key)))
  match value with
  | [_, result] => pure result
  | _ => Fallible.throw (.text ("invalid config key: " ++ key))

/-- `SetConfig` -/
def setConfig (ip password key value : String) : Go Unit := Go.remote (ask (.node ip password (.configSet key value)))

/-- `ChangePassword` -/
def changePassword (ip password newPassword : String) : Go Unit :=
  Go.remote (ask (.node ip password (.changePassword newPassword)))

/-- `GetMasterFromSentinel` -/
def getMasterFromSentinel (sentinelIP sentinelPassword master : String) : Go String :=
  Go.remote (ask (.sentinel sentinelIP sentinelPassword (.master master)))

/-- `RemoveMonitor` -/
def removeMonitor (sentinelIP password master : String) : Go Unit :=
  Go.remote (ask (.sentinel sentinelIP password (.remove master)))

/-- `CreateMonitor` -/
def createMonitor (sentinelIP password master ip kvPass : String) : Go Unit := do
  Go.remote (ask (.sentinel sentinelIP password (.monitor master ip (itoa kvrocksPort) (itoa quorum))))
  Go.remote (ask (.sentinel sentinelIP password (.set master "AUTH-PASS" kvPass)))
  Go.remote (ask (.sentinel sentinelIP password (.set master "failover-timeout" "30000")))
  Go.remote (ask (.sentinel sentinelIP password (.set master "down-after-milliseconds" "10000")))

/-- `ResetMonitor` -/
def resetMonitor (sentinelIP sentinelPassword master password : String) : Go Unit := do
  Go.remote (ask (.sentinel sentinelIP sentinelPassword (.reset master)))
  Go.remote (ask (.sentinel sentinelIP sentinelPassword (.set master "AUTH-PASS" password)))

/-- `NodeInfo`: the address and the role of a node, both empty if it answers `ROLE` with nothing. -/
def nodeInfo (ip password : String) : Go (String × Role) := do
  match ← Go.remote (ask (.node ip password .role)) with
  | none => pure ("", .empty)
  | some role => pure (ip, role)

/-- `ChangeMyselfToMaster` -/
def changeMyselfToMaster (ip password : String) : Go Unit :=
  Go.remote (ask (.replication ip password (.slaveOf "NO" "ONE")))

/-- `GetMaster` -/
def getMaster (ip password : String) : Go String := Go.remote (ask (.replication ip password .masterHost))

/-- `SlaveOf` -/
def slaveOf (slaveIP masterIP password : String) : Go Unit :=
  Go.remote (ask (.replication slaveIP password (.slaveOf masterIP (itoa kvrocksPort))))

end Kvrocks

end KvrocksOperator
