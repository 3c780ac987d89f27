import TuiTemplate.Yaml.Value
set_option autoImplicit false

namespace TuiTemplate.Yaml

open Decimal

/-- Numbers are spread over a table by their remainders for this prime. -/
def spreadPrime : Nat := twoTo 61 - 1

/-- Where a number belongs in a table, before the size of the table is known. Numbers that are the
same belong to the same place, be they whole or not. A fraction is taken as the product that it is
of its significand and a power of two, of which the sixty-first is one here. -/
def placeOf (n : Number) : Int :=
  let place : Int :=
    match n with
    | .whole n => n.sign * (n.natAbs % spreadPrime : Nat)
    | .float x =>
      if x.isNaN then 0
      else
        let size : Nat :=
          if x.isInf then 314159
          else if x == 0 then 0
          else
            let b := binaryOf x.abs
            b.significand * twoTo (b.exponent % 61).toNat % spreadPrime
        if x < 0 then -(size : Int) else size
  if place = -1 then -2 else place

/-- The slots that are looked at in a row before a table is searched elsewhere. -/
def neighbours : Nat := 9

/-- The first free slot for a place. Slots near the start of a row are looked at together with those
after them, and each further row depends on more of the place. -/
def freeSlot {α : Type} (slots : Array (Option α)) : Nat → Nat → Nat → Option Nat
  | 0, _, _ => none
  | bound + 1, start, rest =>
    let last := if start + neighbours < slots.size then start + neighbours else start
    match (List.range' start (last - start + 1)).find? fun i => (slots[i]?.join).isNone with
    | some i => some i
    | none =>
      let rest := rest / 32
      freeSlot slots bound ((start * 5 + 1 + rest) % slots.size) rest

/-- The number of slots for some members: a power of two that leaves room between them. -/
def slotCount (members : Nat) : Nat :=
  if members < 5 then 8 else twoTo (Nat.log2 (2 * members) + 1)

/-- The members of a set in the order in which they are listed. Numbers are listed by their slots in
a table, and others as they were stated. -/
def listedMembers (members : List Scalar) : List Scalar :=
  match members.mapM fun m => m.number?.map fun n => (n, m) with
  | none => members
  | some numbers =>
    let empty : Array (Option Scalar) := Array.replicate (slotCount members.length) none
    let slots := numbers.foldl
      (fun slots (n, m) =>
        let place := (placeOf n % (twoTo 64 : Nat)).toNat
        match freeSlot slots (slots.size * slots.size + 64) (place % slots.size) place with
        | some i => slots.setIfInBounds i (some m)
        | none => slots)
      empty
    slots.toList.filterMap id

end TuiTemplate.Yaml
