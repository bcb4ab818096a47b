import NetworkPlugin.Registry.Refusal
import NetworkPlugin.Pool
import Std.Data.TreeSet

/-!
# Assignment of addresses

A requested address has to be a free host address of the first pool that contains it.
If none is requested, the first free candidate of the first pool is taken.
-/

namespace NetworkPlugin.Assignment

variable {family : Family}

def subnets (family : Family) (pools : List Pool) : List (Subnet family) :=
  pools.filterMap fun pool => family.select? pool.subnet

def probeLimit : Nat := 65536

def candidates (subnet : Subnet family) : List Nat :=
  List.range' (subnet.network + 1) (min probeLimit subnet.successors)

def numbers (used : List (Address family)) : Std.TreeSet Nat compare :=
  .ofList (used.map (·.value)) compare

def firstFree? (subnet : Subnet family) (used : List (Address family)) :
    Option (Address family) :=
  let taken := numbers used
  ((candidates subnet).find? fun number => !taken.contains number).map Address.ofNat

def checkRequested (pools : List (Subnet family)) (used : List (Address family))
    (requested : Subnet family) : Except Refusal (Subnet family) :=
  match pools.find? fun pool => decide (pool.Contains requested.address) with
  | none => .error (.outsidePools family requested)
  | some pool =>
      if ¬ pool.IsHost requested.address then
        .error (.notAHost family requested.address pool)
      else if requested.address ∈ used then
        .error (.addressInUse family requested.address)
      else .ok requested

def pickFree (pools : List (Subnet family)) (used : List (Address family)) :
    Except Refusal (Option (Subnet family)) :=
  match pools with
  | [] => .ok none
  | pool :: _ =>
      match firstFree? pool used with
      | some address =>
          match Subnet.ofParts? address pool.length with
          | some given => .ok (some given)
          | none => .error .invalidLength
      | none => .error (.poolExhausted family pool)

def assign (pools : List (Subnet family)) (used : List (Address family))
    (requested : Option (Subnet family)) : Except Refusal (Option (Subnet family)) :=
  match requested with
  | some requested => (checkRequested pools used requested).map some
  | none => pickFree pools used

end NetworkPlugin.Assignment
