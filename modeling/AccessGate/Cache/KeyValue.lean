import AccessGate.Collection.Table
import AccessGate.Collection.TextSet
import AccessGate.Text.Wildcard
import AccessGate.Time.Quantity

/-!
# The shared key-value store

Instances of the service share a store of texts under text keys.  Every command is recorded before
it is carried out; a command that finds the store out of reach changes nothing.  Lifetimes are
handed to the store, which decides for itself when keys expire.
-/

namespace AccessGate

/-- A command to the shared store. -/
inductive Command where
  | get (key : String)
  | set (key value : String) (lifetime : Quantity)
  | delete (keys : List String)
  | scan (pattern : String)
  | close
  deriving DecidableEq, Repr

/-- The store is out of reach. -/
inductive Disconnected where
  | disconnected
  deriving DecidableEq, Repr

/-- The shared store. -/
structure KeyValueStore where
  entries : Table String String := .empty
  /-- Whether a command fails, given the number of commands before it. -/
  fails : Nat → Command → Bool := fun _ _ => false
  /-- The commands so far. -/
  commands : List Command := []
  deriving Inhabited

namespace KeyValueStore

/-- Records a command and carries it out, unless it fails. -/
def carryOut {α : Type} (store : KeyValueStore) (command : Command)
    (effect : Table String String → α × Table String String) :
    Except Disconnected α × KeyValueStore :=
  let recorded := { store with commands := store.commands ++ [command] }
  if store.fails store.commands.length command then (.error .disconnected, recorded)
  else
    let (answer, entries) := effect store.entries
    (.ok answer, { recorded with entries })

def get (store : KeyValueStore) (key : String) :
    Except Disconnected (Option String) × KeyValueStore :=
  store.carryOut (.get key) fun entries => (entries.get? key, entries)

def set (store : KeyValueStore) (key value : String) (lifetime : Quantity) :
    Except Disconnected Unit × KeyValueStore :=
  store.carryOut (.set key value lifetime) fun entries => ((), entries.put key value)

def delete (store : KeyValueStore) (keys : List String) :
    Except Disconnected Unit × KeyValueStore :=
  store.carryOut (.delete keys) fun entries => ((), entries.eraseAll keys)

/-- The keys that fit a pattern, in increasing order. -/
def scan (store : KeyValueStore) (pattern : String) :
    Except Disconnected (List String) × KeyValueStore :=
  store.carryOut (.scan pattern) fun entries =>
    ((TextSet.ofList (entries.keys.filter (Text.fits pattern))).items, entries)

def close (store : KeyValueStore) : Except Disconnected Unit × KeyValueStore :=
  store.carryOut .close fun entries => ((), entries)

end KeyValueStore

end AccessGate
