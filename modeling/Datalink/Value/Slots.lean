import Datalink.Value.Equality

/-!
# The order of a set

A set holds each value once, and it lists its members in an order of its own.  Numbers
stand in the slots of a table: a number goes to the slot of its residue, or to the next
free one on a fixed way through the table, and a table that is three fifths full is
exchanged for one with four times the slots that its members need.  The members are
listed slot by slot.  A set inside a set has a slot by its members.  For all other values
no order is told, and a set with such a member lists its members as they came.
-/

namespace Datalink
namespace Value

/-- The prime that residues are taken by. -/
def residuePrime : Nat := Nat.pow 2 61 - 1

/-- A power by the residue prime. -/
def powerResidue (base : Nat) : Nat → Nat
  | 0 => 1
  | e + 1 =>
      let half := powerResidue base ((e + 1) / 2)
      let square := half * half % residuePrime
      if (e + 1) % 2 = 0 then square else square * base % residuePrime
termination_by e => e
decreasing_by omega

/-- The residue of a ratio times a power of ten, whose numerator is taken as positive.
Division is multiplication by the power that undoes it. -/
def residue (q : Rat) (exponent : Int) : Nat :=
  let inverse := powerResidue (q.den % residuePrime) (residuePrime - 2)
  let tens := powerResidue 10 (exponent % (residuePrime - 1 : Nat)).toNat
  q.num.natAbs % residuePrime * inverse % residuePrime * tens % residuePrime

/-- The residue of infinity. -/
def infiniteResidue : Nat := 314159

/-- The key of a number with a residue; minus one is no key. -/
def keyOfResidue (negative : Bool) (r : Nat) : Int :=
  if negative then (if r = 1 then -2 else -(r : Int)) else r

/-- The key by which a number is put into a table. -/
def numberKey? (v : Value) : Option Int :=
  match v.quantity? with
  | some (.exact q e) => some (keyOfResidue (decide (q < 0)) (residue q e))
  | some (.infinite negative) => some (keyOfResidue negative infiniteResidue)
  | _ => none

/-- A key as a machine word. -/
def wordOf (key : Int) : UInt64 := UInt64.ofInt key

/-- The word of a member of a set inside a set, scattered. -/
def scattered (word : UInt64) : UInt64 :=
  (word ^^^ (89869747 : UInt64) ^^^ (word <<< 16)) * 3644798167

/-- The key of a set inside a set, from the scattered words of its members taken together
and from the number of its members. -/
def keyOfMembers (words : UInt64) (count : Nat) : Int :=
  let mixed := words ^^^ (UInt64.ofNat count + 1) * 1927868237
  let spread := (mixed ^^^ (mixed >>> 11) ^^^ (mixed >>> 25)) * 69069 + 907133923
  if spread = wordOf (-1) then 590923713 else (spread.toNat : Int)

mutual

/-- The key by which a value is put into a table.  Only numbers, and sets of what has a
key, have one. -/
def slotKey? : Value → Option Int
  | fixedSet items => (scatteredWords? items).map fun words => keyOfMembers words items.length
  | uuid number => some (keyOfResidue false (number % residuePrime))
  | member .integer _ _ v => slotKey? v
  | v => v.numberKey?

/-- The scattered words of values, taken together in any order. -/
def scatteredWords? : List Value → Option UInt64
  | [] => some 0
  | v :: vs =>
      match slotKey? v, scatteredWords? vs with
      | some key, some words => some (scattered (wordOf key) ^^^ words)
      | _, _ => none

end

/-- A table: a member with its key, or nothing, in every slot.  The number of slots is a
power of two. -/
abbrev Slots := Array (Option (Nat × Value))

/-- The fewest slots of a table. -/
def fewestSlots : Nat := 8

/-- How many slots behind a slot are tried before the way goes on elsewhere. -/
def neighbourhood : Nat := 9

/-- Whether a slot is free. -/
def isFree (slots : Slots) (i : Nat) : Bool :=
  match slots[i]? with
  | some none => true
  | _ => false

/-- The first free slot near a slot. -/
def freeNear? (slots : Slots) (i : Nat) : Option Nat :=
  let reach := if i + neighbourhood < slots.size then neighbourhood else 0
  (List.range' i (reach + 1)).find? (isFree slots)

/-- The first free slot on the way from a slot; what is left of the key turns the way, and
the fuel bounds it. -/
def freeSlot? (slots : Slots) : Nat → Nat → Nat → Option Nat
  | 0, _, _ => none
  | fuel + 1, left, i =>
      match freeNear? slots i with
      | some free => some free
      | none =>
          let left := left / 32
          freeSlot? slots fuel left ((i * 5 + 1 + left) % slots.size)

/-- A member put into a table that has a free slot. -/
def putSlot (slots : Slots) (member : Nat × Value) : Slots :=
  match freeSlot? slots (slots.size + 16) member.1 (member.1 % slots.size) with
  | some i => slots.setIfInBounds i (some member)
  | none => slots

/-- The members of a table, slot by slot. -/
def slotMembers (slots : Slots) : List (Nat × Value) := slots.toList.filterMap id

/-- The least power of two times the fewest slots that is more than a number. -/
def slotsFor (count : Nat) : Nat :=
  fewestSlots * Nat.pow 2 (Nat.log2 (count / fewestSlots) + if count < fewestSlots then 0 else 1)

/-- How many slots the members of a full table need: four times their number, or twice
for very many. -/
def wanted (count : Nat) : Nat := if 50000 < count then count * 2 else count * 4

/-- Members put into an empty table with many slots. -/
def exchange (members : List (Nat × Value)) : Slots :=
  members.foldl putSlot (Array.replicate (slotsFor (wanted members.length)) none)

/-- A member put into a table that holds a number of members.  The table is exchanged
when it gets full. -/
def addSlot (slots : Slots) (held : Nat) (member : Nat × Value) : Slots :=
  let slots := putSlot slots member
  if (held + 1) * 5 < (slots.size - 1) * 3 then slots else exchange (slotMembers slots)

/-- Members with their keys in the order of a table. -/
def inSlotOrder (members : List (Nat × Value)) : List Value :=
  let empty : Slots := Array.replicate fewestSlots none
  let (slots, _) := members.foldl
    (fun (slots, held) member => (addSlot slots held member, held + 1)) (empty, 0)
  (slotMembers slots).map Prod.snd

/-- The members of a set of values, each once, in the order in which the set lists
them. -/
def members (items : List Value) : List Value :=
  let once := distinct items
  match once.mapM fun v => v.slotKey?.map fun key => ((wordOf key).toNat, v) with
  | some keyed => inSlotOrder keyed
  | none => once

end Value
end Datalink
