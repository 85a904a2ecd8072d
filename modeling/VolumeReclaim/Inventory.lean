import VolumeReclaim.Discovery

/-!
A cluster held in memory, with failures laid out in advance, that keeps account of the calls made
to it. A volume loses its finalizers before its update can fail.
-/
set_option autoImplicit false

namespace VolumeReclaim

inductive Inventory.Call where
  | list
  | update (name finalizers : Json)
  | delete (name : Json)

def Inventory.Call.label : Inventory.Call → String
  | .list => "list"
  | .update name _ => s!"update:{name.display}"
  | .delete name => s!"delete:{name.display}"

def Inventory.Call.isUpdate : Inventory.Call → Bool
  | .update _ _ => true
  | _ => false

structure Inventory where
  volumes : List PersistentVolume
  failures : List (String × Failure) := []
  calls : Array Inventory.Call := #[]

namespace Inventory

def answer {α : Type} (call : Call) (value : α) (inventory : Inventory) :
    Except Failure α × Inventory :=
  let result := match inventory.failures.lookup call.label with
    | some failure => .error failure
    | none => .ok value
  (result, { inventory with calls := inventory.calls.push call })

def cluster : Cluster Inventory where
  list := fun inventory => inventory.answer .list inventory.volumes
  update := fun volume => answer (.update volume.name volume.finalizers) ()
  delete := fun name => answer (.delete name) ()

def finalizersAfter : (updates : Nat) → List PersistentVolume → List Json
  | _, [] => []
  | 0, volumes => volumes.map (·.finalizers)
  | updates + 1, volume :: rest =>
    match volume.volumeId with
    | .ok (some _) => .arr [] :: finalizersAfter updates rest
    | _ => volume.finalizers :: finalizersAfter (updates + 1) rest

/-- The finalizers that each volume is left with. Updates come in the order of the volumes. -/
def finalizers (inventory : Inventory) : List Json :=
  finalizersAfter (inventory.calls.toList.countP Call.isUpdate) inventory.volumes

end Inventory

end VolumeReclaim
