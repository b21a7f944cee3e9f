import Parlance.Regex.Program

/-!
# Searching

A program is run on a text by following all ways to match at once, symbol by symbol, as a list of
threads in order of preference. Two threads at the same instruction and the same place have the
same future, so only the preferred one is kept; the list is never longer than the program.

The match found is the leftmost one, and among those that start there the preferred one.
-/

namespace Parlance.Regex

/-- One way to match so far: the instruction it is at, and the offsets noted on the way, the
latest first. Offsets count symbols here. -/
structure Thread where
  instr : Nat
  slots : List (Nat × Nat)
deriving Repr

/-- A place in a text: its offset and the symbols next to it. -/
structure Site where
  offset : Nat
  behind : Option Char
  ahead : Option Char

/-- Follows threads, in order of preference, up to the instructions that take up a symbol or end
the match. `seen` tells for each instruction whether it has been met at this place, and `found`
holds the threads that are through, the last one first. -/
def settleThreads (code : Code) (site : Site) :
    (fuel : Nat) → (work : List Thread) → (seen : Array Bool) → (found : List Thread) → List Thread
  | 0, _, _, found => found.reverse
  | _ + 1, [], _, found => found.reverse
  | fuel + 1, t :: work, seen, found =>
    if seen.getD t.instr true then settleThreads code site fuel work seen found
    else
      let seen := seen.setIfInBounds t.instr true
      match code.fetch t.instr with
      | none => settleThreads code site fuel work seen found
      | some (.fork first second) =>
        settleThreads code site fuel (⟨first, t.slots⟩ :: ⟨second, t.slots⟩ :: work) seen found
      | some (.save slot next) =>
        settleThreads code site fuel (⟨next, (slot, site.offset) :: t.slots⟩ :: work) seen found
      | some (.look l next) =>
        if l.holds site.behind site.ahead then
          settleThreads code site fuel (⟨next, t.slots⟩ :: work) seen found
        else settleThreads code site fuel work seen found
      | some (.one _ _) => settleThreads code site fuel work seen (t :: found)
      | some .done => settleThreads code site fuel work seen (t :: found)

/-- Follows threads as far as they go without a symbol. Each instruction is met once and leaves at
most two threads behind, which bounds the steps. -/
def settled (code : Code) (site : Site) (work : List Thread) : List Thread :=
  settleThreads code site (work.length + 2 * code.size + 1) work
    (Array.replicate code.size false) []

/-- Takes up the symbol `c` with every thread that can. -/
def stepThreads (code : Code) (c : Char) (threads : List Thread) : List Thread :=
  threads.filterMap fun t =>
    match code.fetch t.instr with
    | some (.one s next) => if s.contains c then some ⟨next, t.slots⟩ else none
    | _ => none

/-- The offsets that a match has noted, and where it ends. -/
structure Found where
  stop : Nat
  slots : List (Nat × Nat)
deriving Repr

/-- The first thread that has matched. -/
def finished? (code : Code) (threads : List Thread) : Option Thread :=
  threads.find? fun t =>
    match code.fetch t.instr with
    | some .done => true
    | _ => false

/-- The threads that are preferred to the first one that has matched. -/
def preferred (code : Code) (threads : List Thread) : List Thread :=
  threads.takeWhile fun t =>
    match code.fetch t.instr with
    | some .done => false
    | _ => true

/-- Runs threads on the text ahead. A match is given up only for one that is preferred to it. -/
def run (code : Code) (best : Option Found) (offset : Nat) (behind : Option Char)
    (threads : List Thread) : List Char → Option Found
  | [] =>
    match finished? code (settled code ⟨offset, behind, none⟩ threads) with
    | some t => some ⟨offset, t.slots⟩
    | none => best
  | c :: text =>
    let threads := settled code ⟨offset, behind, some c⟩ threads
    let best := match finished? code threads with
      | some t => some ⟨offset, t.slots⟩
      | none => best
    match stepThreads code c (preferred code threads) with
    | [] => best
    | threads => run code best (offset + 1) (some c) threads text

/-- A match: where it starts and ends, and the same for each group that took part. Offsets count
symbols. -/
structure Match where
  start : Nat
  stop : Nat
  groups : List (Option (Nat × Nat))
deriving DecidableEq, Repr

/-- What the group with number `index` matched. -/
def Found.group (f : Found) (index : Nat) : Option (Nat × Nat) :=
  match List.lookup (2 * index) f.slots, List.lookup (2 * index + 1) f.slots with
  | some start, some stop => some (start, stop)
  | _, _ => none

/-- Tries to match from the start of the text ahead. -/
def matchAt (program : Program) (groups : Nat) (offset : Nat) (behind : Option Char)
    (text : List Char) : Option Match :=
  (run program.code none offset behind [⟨program.start, []⟩] text).map fun f =>
    ⟨offset, f.stop, (List.range groups).map fun i => f.group (i + 1)⟩

/-- Tries to match from each place of the text in turn. -/
def search (program : Program) (groups : Nat) (offset : Nat) (behind : Option Char)
    (text : List Char) : Option Match :=
  match matchAt program groups offset behind text with
  | some m => some m
  | none =>
    match text with
    | [] => none
    | c :: text => search program groups (offset + 1) (some c) text

end Parlance.Regex
