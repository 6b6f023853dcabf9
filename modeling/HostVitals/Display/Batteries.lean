import HostVitals.Battery
import HostVitals.Display.Section
import HostVitals.Number.Decimal

/-!
# The battery section

Each battery is shown by a charge bar and its status, and then by what else is known of it.  The
batteries are numbered when there are several.

Main results:

- `length_chargeCells`: a charge bar always has the same width.
-/

namespace HostVitals.Display

open HostVitals.Number HostVitals.Text

/-! ## Charge bar -/

/-- The number of cells of a charge bar. -/
def barWidth : Nat := 20

/-- A full charge. -/
def fullCharge : Binary64 := .ofInt 100

/-- The number of cells that are filled at a charge. -/
def filledCells (percent : Binary64) : Nat :=
  (((Binary64.clamp .zero fullCharge percent).div fullCharge).mul (.ofInt barWidth)).wholePart

/-- The cells of the bar, filled ones first. -/
def chargeCells (percent : Binary64) : List Char :=
  List.replicate (filledCells percent) '#' ++ List.replicate (barWidth - filledCells percent) '.'

/-- The cells of a bar are as many as its width, or as are filled. -/
theorem length_chargeCells (percent : Binary64) :
    (chargeCells percent).length = max (filledCells percent) barWidth := by
  simp only [chargeCells, List.length_append, List.length_replicate]
  omega

/-- The style of a charge: a low one is alarming. -/
def chargeStyle (percent : Binary64) : Style :=
  if percent.le (.ofInt 20) then .red
  else if percent.le (.ofInt 50) then .yellow
  else .green

/-! ## Styles of the other values -/

/-- The style of a status. -/
def statusStyle : ChargeState → Style
  | .charging => .green
  | .discharging => .yellow
  | .full => .green
  | .notCharging => .cyan
  | .unknown => .plain

/-- The condition of a battery that is well, in small letters. -/
def goodCondition : List Char := "normal".toList

/-- The style of a condition. -/
def conditionStyle (health : String) : Style :=
  if health.toList.map asciiSmall = goodCondition then .green else .yellow

/-- The style of a cycle count. -/
def cycleStyle (cycles : UInt32) : Style :=
  if cycles < 300 then .green else if cycles < 800 then .yellow else .red

/-! ## Lines -/

/-- The line with the charge and the status of a battery. -/
def chargeLine (battery : Battery) : Line :=
  [say "    Charge: [", ⟨chargeStyle battery.percent, chargeCells battery.percent⟩, say "] ",
   ⟨.plain, fixedPlaces 0 battery.percent⟩, say "%   Status: ",
   sayIn (statusStyle battery.chargeState) battery.status]

/-- The lines about a battery. -/
def battery (b : Battery) : List Line :=
  [chargeLine b]
    ++ (b.timeLeft.map (fun time => [say "    Time Remaining: ", say time])).toList
    ++ (b.health.map
      (fun health => [say "    Condition: ", sayIn (conditionStyle health) health])).toList
    ++ (if 0 < b.cycleCount then
      [[say "    Cycle Count: ", ⟨cycleStyle b.cycleCount, natDigits b.cycleCount.toNat⟩]] else [])

/-- The line with the number of a battery. -/
def batteryNumber (n : Nat) : Line :=
  [say "  ", sayIn .bold "Battery", say " ", ⟨.plain, natDigits n⟩]

/-- The lines about the batteries from the one with number `n` on, numbered or not. -/
def batteriesFrom (numbered : Bool) (n : Nat) : List Battery → List Line
  | [] => []
  | b :: rest =>
    (if numbered then [batteryNumber n] else []) ++ battery b ++ batteriesFrom numbered (n + 1) rest

/-- The battery section. -/
def batteries (bs : List Battery) : List Line :=
  header "Battery" ++ batteriesFrom (decide (1 < bs.length)) 0 bs

end HostVitals.Display
