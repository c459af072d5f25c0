import Narrative.Command.Basic

/-!
# Inventory — what the player holds

An inventory is a list of stacks in the order in which the items were acquired. The view of an
inventory is the amount held of each item, `amountOf`.
-/

namespace Narrative

/-- The sum of two amounts, or the greatest amount if that is less. -/
def Amount.addCapped (a b : Amount) : Amount :=
  if a.toNat + b.toNat < UInt32.size then a + b else UInt32.ofNat (UInt32.size - 1)

/-- A quantity of one item. -/
structure Stack where
  item : String
  amount : Amount
deriving DecidableEq, Repr

/-- A stack as shown to the player: the title of its item, with the amount if above one. -/
def Stack.label (title : String) (amount : Amount) : String :=
  if amount > 1 then title ++ " x" ++ toString amount.toNat else title

/-- What the player holds. -/
structure Inventory where
  held : List Stack
deriving DecidableEq, Repr

namespace Inventory

def empty : Inventory := ⟨[]⟩

instance : Inhabited Inventory := ⟨empty⟩

def isEmpty (inventory : Inventory) : Bool := inventory.held.isEmpty

def amountOf (inventory : Inventory) (item : String) : Amount :=
  match inventory.held.find? (·.item == item) with
  | some stack => stack.amount
  | none => 0

/-- Puts an amount on the stack of its item, or starts one behind the others. -/
def addTo (item : String) (amount : Amount) : List Stack → List Stack
  | [] => [⟨item, amount⟩]
  | stack :: rest =>
    if stack.item = item then ⟨item, stack.amount.addCapped amount⟩ :: rest
    else stack :: addTo item amount rest

/-- Adds an amount of an item. Adding nothing changes nothing. -/
def add (inventory : Inventory) (item : String) (amount : Amount) : Inventory :=
  if amount = 0 then inventory else ⟨addTo item amount inventory.held⟩

/-- Takes an amount off the stack of its item, and the stack away when nothing is left. -/
def takeFrom (item : String) (amount : Amount) : List Stack → List Stack
  | [] => []
  | stack :: rest =>
    if stack.item = item then
      if stack.amount - amount = 0 then rest else ⟨item, stack.amount - amount⟩ :: rest
    else stack :: takeFrom item amount rest

/-- Takes an amount of an item away, if at least that much is held. -/
def consume? (inventory : Inventory) (item : String) (amount : Amount) : Option Inventory :=
  if amount ≤ inventory.amountOf item then some ⟨takeFrom item amount inventory.held⟩ else none

/-- Takes the whole stack of an item away, if there is one. -/
def remove? (inventory : Inventory) (item : String) : Option (Stack × Inventory) :=
  match inventory.held.find? (·.item == item) with
  | some stack => some (stack, ⟨inventory.held.eraseP (·.item == item)⟩)
  | none => none

end Inventory

end Narrative
