import Mathlib.Data.List.Sort
import HostVitals.Platform.Linux
import HostVitals.Proofs.Files.Trees
import HostVitals.Proofs.Rounds.Charges
import HostVitals.Proofs.Text.Utf8

/-!
# The batteries in the directory of power supplies

On a host with Linux each battery has an entry in the directory of power supplies.  An entry is that
of a battery by its name, and gives a battery when its capacity can be read.  So the batteries are
told by the entries as a set: in which order they are listed does not matter, nor does any other
entry.

Main results:

- `textAt_eq_ok_iff`: which texts are read.
- `batteryEntries_pairwise`, `mem_batteryEntries`, `batteryEntries_congr`: the entries of batteries
  in the order of their names.
- `forall₂_tellsOf`: the entries with a supply, each with the battery it tells of.
- `directory_batteries`: the batteries of a host with Linux.
-/

namespace HostVitals

open Files Report Text

/-! ## Texts in the directory -/

/-- A file in the directory at a path holds a text, and its own path is not too long. -/
structure HoldsText (path : String) (directory : Node) (name text : String) : Prop where
  short : (joinPath path name).utf8ByteSize ≤ longestPath
  stands : ∃ entries executable, directory = .directory entries ∧
    (name, .file (Utf8.encode text.toList) executable) ∈ entries

theorem readText_eq_ok_iff_decode {node : Node} {text : String} :
    node.readText = .ok text ↔
      ∃ bytes, node.readBytes = .ok bytes ∧ Utf8.decode bytes = some text.toList := by
  unfold Node.readText
  cases node.readBytes with
  | error cause => simp [bind, Except.bind]
  | ok bytes =>
      simp only [bind, Except.bind, Except.ok.injEq, exists_eq_left']
      cases Utf8.decode bytes with
      | none => simp
      | some cs => simp [pure, Except.pure, ← String.toList_inj]

/-- The bytes of a file are read as a text exactly when they are the bytes of it. -/
theorem readText_eq_ok_iff {node : Node} {text : String} :
    node.readText = .ok text ↔ ∃ executable, node = .file (Utf8.encode text.toList) executable := by
  simp only [readText_eq_ok_iff_decode, readBytes_eq_ok_iff, Utf8.decode_eq_some_iff_eq_encode]
  constructor
  · rintro ⟨bytes, ⟨executable, rfl⟩, rfl⟩
    exact ⟨executable, rfl⟩
  · rintro ⟨executable, rfl⟩
    exact ⟨_, ⟨executable, rfl⟩, rfl⟩

theorem entry_eq_ok_iff_lookup {directory node : Node} {name : String} :
    directory.entry name = .ok node ↔
      ∃ entries, directory.list = .ok entries ∧ entries.lookup name = some node := by
  unfold Node.entry
  cases directory.list with
  | error cause => simp [bind, Except.bind]
  | ok entries =>
      simp only [bind, Except.bind, Except.ok.injEq, exists_eq_left']
      cases entries.lookup name <;> simp [pure, Except.pure]

/-- An entry of a proper directory is found by its name. -/
theorem entry_eq_ok_iff {directory node : Node} {name : String} (h : directory.Proper) :
    directory.entry name = .ok node ↔
      ∃ entries, directory = .directory entries ∧ (name, node) ∈ entries := by
  simp only [entry_eq_ok_iff_lookup, list_eq_ok_iff]
  constructor
  · rintro ⟨entries, rfl, hlookup⟩
    exact ⟨entries, rfl, mem_of_lookup hlookup⟩
  · rintro ⟨entries, rfl, hmem⟩
    exact ⟨entries, rfl, lookup_of_mem h.distinct hmem⟩

/-- A text is read exactly when a file holds it. -/
theorem textAt_eq_ok_iff {path : String} {directory : Node} {name text : String}
    (h : directory.Proper) :
    textAt path directory name = .ok text ↔ HoldsText path directory name text := by
  unfold textAt
  split
  · next hlong =>
    constructor
    · intro hread
      cases hread
    · intro hholds
      exact absurd hholds.short (Nat.not_le.2 hlong)
  · next hshort =>
    constructor
    · intro hread
      cases hentry : directory.entry name with
      | error cause =>
          rw [hentry] at hread
          cases hread
      | ok node =>
          rw [hentry] at hread
          obtain ⟨executable, rfl⟩ := readText_eq_ok_iff.1 hread
          obtain ⟨entries, hdirectory, hmem⟩ := (entry_eq_ok_iff h).1 hentry
          exact ⟨Nat.not_lt.1 hshort, entries, executable, hdirectory, hmem⟩
    · intro hholds
      obtain ⟨entries, executable, hdirectory, hmem⟩ := hholds.stands
      rw [(entry_eq_ok_iff h).2 ⟨entries, hdirectory, hmem⟩]
      exact readText_eq_ok_iff.2 ⟨executable, rfl⟩

/-! ## Entries of batteries -/

/-- An entry of the directory at a path gives a battery: its name is that of one, and its capacity
can be read. -/
def GivesBattery (path : String) (entry : String × Node) : Prop :=
  batteryMark <+: entry.1.toList ∧
    ∃ capacity, HoldsText (joinPath path entry.1) entry.2 "capacity" capacity

/-- What an entry of the directory at a path tells of its battery. -/
structure TellsOf (path : String) (entry : String × Node) (battery : Battery) : Prop where
  percent : ∀ capacity, HoldsText (joinPath path entry.1) entry.2 "capacity" capacity →
    battery.percent = chargeIn (trim capacity.toList)
  status : ∀ status, HoldsText (joinPath path entry.1) entry.2 "status" status →
    trim status.toList ≠ [] → battery.status = String.ofList (trim status.toList)
  /-- A status that is missing, cannot be read as a text or is blank is unknown. -/
  unknown : (∀ status, HoldsText (joinPath path entry.1) entry.2 "status" status →
    trim status.toList = []) → battery.status = "Unknown"
  timeLeft : battery.timeLeft = none
  health : battery.health = none
  cycleCount : battery.cycleCount = 0

/-- The order of names. -/
theorem batteryEntries_pairwise {entries : List (String × Node)}
    (h : (entries.map Prod.fst).Nodup) :
    (batteryEntries entries).Pairwise (fun a b => a.1 < b.1) := by
  have hordered : (batteryEntries entries).Pairwise (fun a b => a.1 ≤ b.1) := by
    have hsorted := @List.pairwise_mergeSort _ (fun a b : String × Node => decide (a.1 ≤ b.1))
      (fun a b c hab hbc => by
        simpa using String.le_trans (by simpa using hab) (by simpa using hbc))
      (fun a b => by simpa using String.le_total a.1 b.1)
      (entries.filter (fun entry => isBatteryName entry.1))
    exact hsorted.imp (by simp)
  have hdistinct : (batteryEntries entries).Pairwise (fun a b => a.1 ≠ b.1) := by
    have hperm := ((List.mergeSort_perm (entries.filter (fun entry => isBatteryName entry.1))
      (fun a b => decide (a.1 ≤ b.1))).map Prod.fst).nodup_iff
    exact List.pairwise_map.1 (hperm.2 (h.sublist (List.filter_sublist.map _)))
  refine (hordered.and hdistinct).imp ?_
  rintro a b ⟨hle, hne⟩
  exact Decidable.byContradiction fun hlt => hne (String.le_antisymm hle (String.not_lt.1 hlt))

theorem mem_batteryEntries {entries : List (String × Node)} {entry : String × Node} :
    entry ∈ batteryEntries entries ↔ entry ∈ entries ∧ batteryMark <+: entry.1.toList := by
  simp [batteryEntries, isBatteryName, List.isPrefixOf_iff_prefix]

/-- The entries of batteries depend on which ones there are, not on the order. -/
theorem batteryEntries_congr {as bs : List (String × Node)} (has : (as.map Prod.fst).Nodup)
    (hbs : (bs.map Prod.fst).Nodup)
    (h : ∀ entry, batteryMark <+: entry.1.toList → (entry ∈ as ↔ entry ∈ bs)) :
    batteryEntries as = batteryEntries bs := by
  refine (batteryEntries_pairwise has).eq_of_mem_iff (batteryEntries_pairwise hbs) ?_
  intro entry
  rw [mem_batteryEntries, mem_batteryEntries]
  exact and_congr_left (h entry)

/-! ## Supplies -/

/-- The supplies are those of the entries that have a capacity. -/
theorem suppliesAt_eq (path : String) (entries : List (String × Node)) :
    (suppliesAt path entries).1 =
      entries.filterMap (fun entry => (supplyAt path entry.1 entry.2).toOption) := by
  induction entries with
  | nil => rfl
  | cons entry entries ih =>
      rw [List.filterMap_cons, ← ih, suppliesAt]
      cases supplyAt path entry.1 entry.2 with
      | ok supply => rfl
      | error cause => rfl

/-- The supply of an entry has its capacity and, where it can be read, its status. -/
theorem supplyAt_eq_ok_iff {path name : String} {node : Node} {supply : Supply}
    (h : node.Proper) :
    supplyAt path name node = .ok supply ↔
      supply.name = name ∧ HoldsText (joinPath path name) node "capacity" supply.capacity ∧
        supply.status = (textAt (joinPath path name) node "status").toOption := by
  rw [← textAt_eq_ok_iff h]
  have hsupply : supplyAt path name node =
      (textAt (joinPath path name) node "capacity").map (fun capacity =>
        { name, capacity, status := (textAt (joinPath path name) node "status").toOption }) := rfl
  rw [hsupply]
  cases textAt (joinPath path name) node "capacity" with
  | error cause => simp [Except.map]
  | ok capacity =>
      rcases supply with ⟨name', capacity', status'⟩
      simp [Except.map, eq_comm]

/-- An entry has a supply exactly when it has a capacity. -/
theorem isSome_supplyAt_iff {path : String} {entry : String × Node} (h : entry.2.Proper) :
    (supplyAt path entry.1 entry.2).toOption.isSome = true ↔
      ∃ capacity, HoldsText (joinPath path entry.1) entry.2 "capacity" capacity := by
  cases hsupply : supplyAt path entry.1 entry.2 with
  | ok supply =>
      obtain ⟨-, hcapacity, -⟩ := (supplyAt_eq_ok_iff h).1 hsupply
      exact iff_of_true rfl ⟨_, hcapacity⟩
  | error cause =>
      refine iff_of_false (by simp [Except.toOption]) ?_
      rintro ⟨capacity, hcapacity⟩
      have hgiven : supplyAt path entry.1 entry.2 = .ok ⟨entry.1, capacity, _⟩ :=
        (supplyAt_eq_ok_iff h).2 ⟨rfl, hcapacity, rfl⟩
      rw [hsupply] at hgiven
      cases hgiven

/-- Whether an entry of the directory at a path is found to give a battery. -/
def isGiver (path : String) (entry : String × Node) : Bool :=
  isBatteryName entry.1 && (supplyAt path entry.1 entry.2).toOption.isSome

theorem isGiver_iff {path : String} {entry : String × Node} (h : entry.2.Proper) :
    isGiver path entry = true ↔ GivesBattery path entry := by
  rw [isGiver, Bool.and_eq_true, isSome_supplyAt_iff h, isBatteryName, List.isPrefixOf_iff_prefix]
  rfl

/-- The status is the one in the text, if it has one. -/
theorem status_batteryOfSupply (capacity : String) (status : Option String) :
    (∀ text ∈ status, trim text.toList ≠ [] →
        (batteryOfSupply capacity status).status = String.ofList (trim text.toList)) ∧
      ((∀ text ∈ status, trim text.toList = []) →
        (batteryOfSupply capacity status).status = "Unknown") := by
  cases status with
  | none =>
      exact ⟨by simp, fun _ => batteryOfSupply_blank capacity⟩
  | some text =>
      simp only [Option.mem_some, forall_eq', batteryOfSupply, statusOfText, Option.getD_some,
        List.isEmpty_iff]
      exact ⟨fun hword => if_neg hword, fun hblank => if_pos hblank⟩

/-- The battery of a supply is the one that the entry tells of. -/
theorem tellsOf_toBattery {path : String} {entry : String × Node} {supply : Supply}
    (h : entry.2.Proper) (hsupply : supplyAt path entry.1 entry.2 = .ok supply) :
    TellsOf path entry supply.toBattery := by
  obtain ⟨-, hcapacity, hstatus⟩ := (supplyAt_eq_ok_iff h).1 hsupply
  have hread : ∀ text, text ∈ supply.status ↔
      HoldsText (joinPath path entry.1) entry.2 "status" text := by
    intro text
    rw [hstatus, ← textAt_eq_ok_iff h, Option.mem_def]
    cases textAt (joinPath path entry.1) entry.2 "status" <;> simp [Except.toOption]
  obtain ⟨hword, hblank⟩ := status_batteryOfSupply supply.capacity supply.status
  refine
    { percent := ?_
      status := fun text htext => hword text ((hread text).2 htext)
      unknown := fun hblanks => hblank fun text htext => hblanks text ((hread text).1 htext)
      timeLeft := rfl
      health := rfl
      cycleCount := rfl }
  intro capacity hother
  have hsame : capacity = supply.capacity := by
    rw [← textAt_eq_ok_iff h] at hcapacity hother
    exact Except.ok.inj (hother.symm.trans hcapacity)
  rw [hsame]
  rfl

/-- The entries that have a supply, each with the battery it tells of. -/
theorem forall₂_tellsOf {path : String} {entries : List (String × Node)}
    (h : ∀ entry ∈ entries, entry.2.Proper)
    (hnames : ∀ entry ∈ entries, isBatteryName entry.1 = true) :
    List.Forall₂ (TellsOf path)
      (entries.filter (isGiver path)) ((suppliesAt path entries).1.map Supply.toBattery) := by
  rw [suppliesAt_eq]
  induction entries with
  | nil => exact .nil
  | cons entry entries ih =>
      have hrest := ih (fun other hother => h other (List.mem_cons_of_mem _ hother))
        (fun other hother => hnames other (List.mem_cons_of_mem _ hother))
      rw [List.filter_cons, List.filterMap_cons, isGiver, hnames entry List.mem_cons_self,
        Bool.true_and]
      cases hsupply : supplyAt path entry.1 entry.2 with
      | error cause => exact hrest
      | ok supply =>
          exact .cons (tellsOf_toBattery (h entry List.mem_cons_self) hsupply) hrest

/-! ## The directory -/

/-- There is an entry in the directory at a path, as seen from a working directory. -/
def HasEntry (root : Node) (path workingDirectory : String) (entry : String × Node) : Prop :=
  ∃ entries, root.find path workingDirectory = .ok (.directory entries) ∧ entry ∈ entries

/-- The entries in the directory at a path, none when there is no directory. -/
def entriesAt (root : Node) (path workingDirectory : String) : List (String × Node) :=
  match root.find path workingDirectory with
  | .ok (.directory entries) => entries
  | _ => []

theorem mem_entriesAt {root : Node} {path workingDirectory : String} {entry : String × Node} :
    entry ∈ entriesAt root path workingDirectory ↔
      HasEntry root path workingDirectory entry := by
  unfold entriesAt HasEntry
  split
  · next entries hfind => simp [hfind]
  · next hnone =>
    refine iff_of_false (by simp) ?_
    rintro ⟨entries, hfind, -⟩
    exact hnone entries hfind

@[simp] theorem batteryEntries_nil : batteryEntries [] = [] := by
  simp [batteryEntries]

/-- A directory that cannot be listed gives what an empty one does. -/
theorem scan_eq (root : Node) (path workingDirectory : String) :
    (scan root path workingDirectory).1 =
      (suppliesAt path (batteryEntries (entriesAt root path workingDirectory))).1 := by
  unfold scan entriesAt
  rcases root.find path workingDirectory with cause | _ | entries | _ | _
  case ok.directory => rfl
  all_goals
    rw [batteryEntries_nil]
    rfl

theorem proper_entriesAt {root : Node} (h : root.Proper) (path workingDirectory : String) :
    Node.Proper (.directory (entriesAt root path workingDirectory)) := by
  unfold entriesAt
  split
  · next hfind => exact h.find hfind
  · exact emptyDirectory_proper

/-- The entries that give a battery, in the order of their names. -/
def givers (root : Node) (path workingDirectory : String) : List (String × Node) :=
  (batteryEntries (entriesAt root path workingDirectory)).filter (isGiver path)

section

variable {root : Node} (h : root.Proper) (path workingDirectory : String)

include h

theorem mem_givers (entry : String × Node) :
    entry ∈ givers root path workingDirectory ↔
      HasEntry root path workingDirectory entry ∧ GivesBattery path entry := by
  rw [givers, List.mem_filter, mem_batteryEntries, ← mem_entriesAt, and_assoc]
  refine and_congr_right fun hentry => ?_
  rw [isGiver_iff ((proper_entriesAt h path workingDirectory).entries entry hentry)]
  exact and_iff_right_of_imp And.left

theorem givers_pairwise : (givers root path workingDirectory).Pairwise (fun a b => a.1 < b.1) :=
  (batteryEntries_pairwise (proper_entriesAt h path workingDirectory).distinct).filter _

theorem givers_tell :
    List.Forall₂ (TellsOf path) (givers root path workingDirectory)
      ((scan root path workingDirectory).1.map Supply.toBattery) := by
  rw [scan_eq]
  refine forall₂_tellsOf (fun entry hentry => ?_) (fun entry hentry => ?_)
  · exact (proper_entriesAt h path workingDirectory).entries entry (mem_batteryEntries.1 hentry).1
  · exact List.isPrefixOf_iff_prefix.2 (mem_batteryEntries.1 hentry).2

/-- What is found depends on which entries of batteries there are. -/
theorem scan_congr {other : Node} (hother : other.Proper)
    (hsame : ∀ entry, batteryMark <+: entry.1.toList →
      (HasEntry root path workingDirectory entry ↔ HasEntry other path workingDirectory entry)) :
    (scan root path workingDirectory).1 = (scan other path workingDirectory).1 := by
  rw [scan_eq, scan_eq, batteryEntries_congr (proper_entriesAt h path workingDirectory).distinct
    (proper_entriesAt hother path workingDirectory).distinct]
  intro entry hname
  rw [mem_entriesAt, mem_entriesAt]
  exact hsame entry hname

end

/-! ## Rounds on a host with Linux -/

namespace Collect

open Platform

variable {σ : Type}

/-- Without a fast report the batteries are those in the directory. -/
theorem run_findBatteries_linux (files : σ → Node) (path workingDirectory : String)
    (station : Station σ) (session : Session σ) :
    (findBatteries { station with platform := linux files path workingDirectory } session).1 =
      .ok ((scan (files session.host) path workingDirectory).1.map Supply.toBattery) := by
  have hreported :
      reportedBatteries { station with platform := linux files path workingDirectory } session =
        (.ok [], { session with events := (reportedBatteries
          { station with platform := linux files path workingDirectory } session).2.events }) := rfl
  have hrun :
      findBatteries { station with platform := linux files path workingDirectory } session = _ :=
    run_bind_ok hreported _
  rw [hrun]
  exact (run_suppliedBatteries _ _).1

theorem run_batteries_linux (files : σ → Node) (path workingDirectory : String)
    (station : Station σ) (session : Session σ) :
    (batteries { station with platform := linux files path workingDirectory } session).1 =
      batteryAnswer
        ((scan (files session.host) path workingDirectory).1.map Supply.toBattery) := by
  have hfound := run_findBatteries_linux files path workingDirectory station session
  rcases hrun :
      findBatteries { station with platform := linux files path workingDirectory } session with
    ⟨result, after⟩
  rw [hrun] at hfound
  obtain rfl : result = _ := hfound
  exact congrArg Prod.fst (run_batteries_ok hrun)

/-- On a host with Linux there is one battery for each entry of the directory with the name of a
battery and a capacity that can be read, in the order of the names, and it is the one that the entry
tells of.  There is no data exactly when there is no such entry, as when there is no directory.
Neither the order in which the entries are listed nor any other entry matters. -/
theorem directory_batteries (files : σ → Node) (path workingDirectory : String)
    (station : Station σ) (session : Session σ) (h : (files session.host).Proper) :
    let root := files session.host
    let answer := fun session : Session σ =>
      (batteries { station with platform := linux files path workingDirectory } session).1
    (∃ entries : List (String × Node),
      entries.Pairwise (fun a b => a.1 < b.1) ∧
        (∀ entry, entry ∈ entries ↔
          HasEntry root path workingDirectory entry ∧ GivesBattery path entry) ∧
        (entries = [] ∧ answer session = .error .noBatteryData ∨
          ∃ found, found ≠ [] ∧ answer session = .ok found ∧
            List.Forall₂ (TellsOf path) entries found)) ∧
      (answer session = .error .noBatteryData ↔
        ∀ entry, HasEntry root path workingDirectory entry → ¬GivesBattery path entry) ∧
      (∀ cause, root.find path workingDirectory >>= Node.list = .error cause →
        answer session = .error .noBatteryData) ∧
      (∀ other : Session σ, (files other.host).Proper →
        (∀ entry, batteryMark <+: entry.1.toList →
          (HasEntry root path workingDirectory entry ↔
            HasEntry (files other.host) path workingDirectory entry)) →
        answer other = answer session) := by
  intro root answer
  have htell := givers_tell h path workingDirectory
  have hmem := mem_givers h path workingDirectory
  have hnone : (scan root path workingDirectory).1.map Supply.toBattery = [] ↔
      givers root path workingDirectory = [] := by
    rw [← List.length_eq_zero_iff, ← List.length_eq_zero_iff, htell.length_eq]
  have hanswer : answer session =
      batteryAnswer ((scan root path workingDirectory).1.map Supply.toBattery) :=
    run_batteries_linux files path workingDirectory station session
  have hnodata : answer session = .error .noBatteryData ↔
      givers root path workingDirectory = [] := by
    rw [hanswer, ← hnone, batteryAnswer]
    cases (scan root path workingDirectory).1.map Supply.toBattery <;> simp
  have hfree : answer session = .error .noBatteryData ↔
      ∀ entry, HasEntry root path workingDirectory entry → ¬GivesBattery path entry := by
    rw [hnodata, List.eq_nil_iff_forall_not_mem]
    exact forall_congr' fun entry => (not_congr (hmem entry)).trans not_and
  refine ⟨⟨givers root path workingDirectory, givers_pairwise h path workingDirectory, hmem, ?_⟩,
    hfree, ?_, ?_⟩
  · by_cases hgivers : givers root path workingDirectory = []
    · exact .inl ⟨hgivers, hnodata.2 hgivers⟩
    · refine .inr ⟨_, fun hempty => hgivers (hnone.1 hempty), ?_, htell⟩
      rw [hanswer, batteryAnswer,
        List.isEmpty_eq_false_iff.2 (fun hempty => hgivers (hnone.1 hempty))]
      rfl
  · intro cause hcause
    refine hfree.2 ?_
    rintro entry ⟨entries, hfind, -⟩
    rw [hfind] at hcause
    cases hcause
  · intro other hother hsame
    rw [hanswer, scan_congr h path workingDirectory hother hsame]
    exact run_batteries_linux files path workingDirectory station other

/-- A battery with a malformed capacity and no status. -/
def worn : String × Node :=
  ("BAT0", .directory [("capacity", .file (Utf8.encode "full".toList) false)])

/-- A battery with blanks in its texts. -/
def spare : String × Node :=
  ("BAT1", .directory [("capacity", .file (Utf8.encode "87\n".toList) false),
    ("status", .file (Utf8.encode " Charging\n".toList) false)])

/-- Power supplies of which only two are batteries with a capacity. -/
def mixedSupplies : List (String × Node) :=
  [spare, ("AC", .directory [("capacity", .file (Utf8.encode "1".toList) false)]),
    ("BATX", .file (Utf8.encode "5".toList) false),
    ("BAT2", .directory [("capacity", .file [0xFF] false)]), worn]

/-- A host with these power supplies. -/
def mixedRoot : Node :=
  .directory [("supplies", .directory mixedSupplies)]

theorem mixedRoot_proper : mixedRoot.Proper := by
  have hfile : ∀ bytes, (Node.file bytes false).Proper := fun bytes => .file bytes false
  have hsupplies : Node.Proper (.directory mixedSupplies) := by
    refine .directory (by decide +kernel) ?_
    simp only [mixedSupplies, spare, worn, List.forall_mem_cons, hfile, true_and]
    refine ⟨.directory (by decide +kernel) ?_, .directory (by decide +kernel) ?_,
      .directory (by decide +kernel) ?_, .directory (by decide +kernel) ?_, ?_⟩ <;>
    simp [hfile]
  refine .directory (by decide +kernel) ?_
  simpa using hsupplies

/-- Two of these entries give a battery, and it is the worn one that comes first. -/
theorem eq_worn_spare {entries : List (String × Node)}
    (hordered : entries.Pairwise (fun a b => a.1 < b.1))
    (hmem : ∀ entry, entry ∈ entries ↔
      HasEntry mixedRoot "/supplies" "/" entry ∧ GivesBattery "/supplies" entry) :
    entries = [worn, spare] := by
  have hlisted : mixedSupplies.filter (isGiver "/supplies") = [spare, worn] := rfl
  have hentries : entriesAt mixedRoot "/supplies" "/" = mixedSupplies := rfl
  refine hordered.eq_of_mem_iff (List.pairwise_pair.2 (by decide +kernel)) fun entry => ?_
  have hgives : entry ∈ mixedSupplies →
      (isGiver "/supplies" entry = true ↔ GivesBattery "/supplies" entry) := by
    rw [← hentries]
    exact fun hentry => isGiver_iff ((proper_entriesAt mixedRoot_proper _ _).entries entry hentry)
  calc entry ∈ entries
    _ ↔ entry ∈ mixedSupplies ∧ GivesBattery "/supplies" entry := by
      rw [hmem, ← mem_entriesAt, hentries]
    _ ↔ entry ∈ mixedSupplies.filter (isGiver "/supplies") := by
      rw [List.mem_filter, and_congr_right hgives]
    _ ↔ entry ∈ [worn, spare] := by
      rw [hlisted]
      exact (List.Perm.swap _ _ _).mem_iff

/-- The two batteries are found in the order of their names. -/
theorem directory_batteries_mixed :
    let station : Station Node :=
      { platform := linux id "/supplies"
        sensors := .constant (.ok [])
        clock := fun host => (0, host)
        timeToLive := 0 }
    ∃ found, (batteries station (Session.start mixedRoot)).1 = .ok found ∧
      found.map Battery.percent = [.zero, .ofInt 87] ∧
      found.map Battery.status = ["Unknown", "Charging"] := by
  intro station
  obtain ⟨⟨entries, hordered, hmem, hanswer⟩, -⟩ :=
    directory_batteries id "/supplies" "/" station (Session.start mixedRoot) mixedRoot_proper
  obtain rfl := eq_worn_spare hordered hmem
  obtain ⟨hnone, -⟩ | ⟨found, -, hfound, htell⟩ := hanswer
  · cases hnone
  rcases htell with _ | ⟨hworn, _ | ⟨hspare, ⟨⟩⟩⟩
  have hblank : ∀ status, HoldsText "/supplies/BAT0" worn.2 "status" status →
      trim status.toList = [] := by
    rintro status ⟨-, entries, executable, hentries, hstatus⟩
    cases hentries
    simp at hstatus
  refine ⟨_, hfound, ?_, ?_⟩
  · rw [List.map_cons, List.map_cons, List.map_nil,
      hworn.percent "full" ⟨by decide +kernel, _, false, rfl, List.mem_cons_self⟩,
      hspare.percent "87\n" ⟨by decide +kernel, _, false, rfl, List.mem_cons_self⟩]
    decide +kernel
  · rw [List.map_cons, List.map_cons, List.map_nil, hworn.unknown hblank,
      hspare.status " Charging\n" ⟨by decide +kernel, _, false, rfl, by simp⟩ (by decide +kernel)]
    decide +kernel

end Collect

end HostVitals
