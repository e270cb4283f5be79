import CheckpointFabric.Concurrency.System
import CheckpointFabric.Files.Moves
import CheckpointFabric.Storage

/-!
# The directories of attempts and checkpoints

What the storage of a node does with its two directories while many requests go on at once. An
attempt writes in a directory of its own below the staging root. When it is complete, the directory
is renamed to that of the checkpoint. Until then nothing of it can be seen among the checkpoints.

A directory is removed entry by entry, and others see what is left of it. A listing has the names
that were there when it was opened; the system leaves open whether it also has those that are added
while it is read, and lacks those that are removed. What an attempt writes comes from outside, as
moves.

## Main definitions

* `Op`, `Input`, `Disk` — calls of the file system, with what they find out, on a tree
* `promote`, `hasCommitted`, `enumerateCommitted`, `deleteCommitted`, `sweep` — what is done with
  the directories
* `storage` — all of it as one system
-/

set_option autoImplicit false

namespace CheckpointFabric

section Hex

/-- How a character is shown in an error. -/
def debugChar (c : Char) : String :=
  if c = '\x00' then "'\\0'"
  else if c = '\t' then "'\\t'"
  else if c = '\n' then "'\\n'"
  else if c = '\r' then "'\\r'"
  else if c = '\'' then "'\\''"
  else if c = '\\' then "'\\\\'"
  else if c.toNat < 32 ∨ c.toNat = 127 then
    "'\\u\x7b" ++ String.ofList (Nat.toDigits 16 c.toNat) ++ "\x7d'"
  else "'" ++ c.toString ++ "'"

def hexValue (c : Char) : Option ℕ :=
  if '0' ≤ c ∧ c ≤ '9' then some (c.toNat - 48)
  else if 'a' ≤ c ∧ c ≤ 'f' then some (c.toNat - 87)
  else if 'A' ≤ c ∧ c ≤ 'F' then some (c.toNat - 55)
  else none

/-- The bytes before the one at `index` stand for `value`. An error names the first byte that is no
digit. -/
def decodeHex : List Char → (index value : ℕ) → FabricResult Id
  | [], _, value => .ok value
  | c :: cs, index, value =>
    match hexValue c with
    | some digit => decodeHex cs (index + 1) (16 * value + digit)
    | none =>
      let byte := Char.ofNat ((String.utf8EncodeChar c).headD 0).toNat
      .error (.invalidArgument
        s!"invalid id hex: Invalid character {debugChar byte} at position {index}")

/-- Parse from a hex string of exactly 32 characters. -/
def fromHex (text : String) : FabricResult Id :=
  if text.utf8ByteSize ≠ 32 then
    .error (.invalidArgument s!"id must be {32} hex chars, got {text.utf8ByteSize}")
  else decodeHex text.toList 0 0

end Hex

namespace Directories

open Concurrency Files
open Capture (sanitizeSegment)
open Replica (Bytes)
open Storage (LocalStorage)

section Places

def stagingRoot : Path := ["staging"]

def checkpointsDir : Path := ["checkpoints"]

def stagingDir (attemptId : String) : Path := stagingRoot ++ [sanitizeSegment attemptId]

def commitDir (checkpointId : Id) : Path := checkpointsDir ++ [toHex checkpointId]

/-- A place of the storage, as it is shown. -/
def display (storage : LocalStorage) (place : Path) : String := place.foldl join storage.root

end Places

/-- A call of the file system, or of the table of leases. -/
inductive Op
  | pathExists (p : Path)
  | isDir (p : Path)
  | isFile (p : Path)
  | createDirAll (p : Path)
  | syncChildren (p : Path)
  | rename (p q : Path)
  /-- Open a listing, a snapshot of the names. -/
  | readDir (p : Path)
  /-- The next entry of a listing. -/
  | entry (p : Path)
  /-- For how many milliseconds nothing has changed there. -/
  | age (p : Path)
  /-- Read what is in a directory that is to be removed. -/
  | readTree (p : Path)
  /-- Remove something that is in a directory. -/
  | removeBelow (p : Path)
  | removeDir (p : Path)
  | leased

@[reducible] def Op.Reply : Op → Type
  | pathExists _ | isDir _ | isFile _ => Bool
  | createDirAll _ | syncChildren _ | rename .. | entry _ | removeBelow _ | removeDir _ => Unit
  | readDir _ => List String
  | age _ => Option ℕ
  | readTree _ => ℕ
  | leased => List Path

abbrev directoryInterface : Interface := ⟨Op, Op.Reply⟩

abbrev Work := Program directoryInterface FabricError

abbrev perform (op : Op) : Work op.Reply := Program.call (I := directoryInterface) op

section Removal

/-- Remove what is in a directory, as many entries as were found. -/
def removeEntries (p : Path) : ℕ → Work Unit
  | 0 => pure ()
  | entries + 1 => do
    perform (.removeBelow p)
    removeEntries p entries

/-- Remove a directory with everything below it. -/
def removeDirAll (p : Path) : Work Unit := do
  let entries ← perform (.readTree p)
  removeEntries p entries
  perform (.removeDir p)

end Removal

section Committed

/-- There is what every committed checkpoint has. -/
def isCommittedDir (p : Path) : Work Bool := do
  if ← perform (.isDir p) then
    if ← perform (.isFile (p ++ ["manifest"])) then
      if ← perform (.isFile (p ++ ["manifest.digest"])) then
        perform (.isDir (p ++ ["integrity"]))
      else pure false
    else pure false
  else pure false

def hasCommitted (checkpointId : Id) : Work Bool := isCommittedDir (commitDir checkpointId)

/-- Atomically promote a staging directory to a committed checkpoint directory. -/
def promote (storage : LocalStorage) (staging commit : Path) : Work Unit := do
  if ← perform (.pathExists commit) then
    -- Never silently overwrite existing committed checkpoints.
    Program.fail (.storageError s!"commit path already exists: {display storage commit}")
  else
    if !(← perform (.pathExists commit.dropLast)) then
      perform (.createDirAll commit.dropLast)
    perform (.syncChildren staging)
    perform (.rename staging commit)

/-- Remove a committed checkpoint directory. -/
def deleteCommitted (checkpointId : Id) : Work Unit := do
  if ← perform (.pathExists (commitDir checkpointId)) then
    removeDirAll (commitDir checkpointId)

def enumerateEntries : List String → List Id → Work (List Id)
  | [], out => pure out
  | name :: names, out => do
    let p := checkpointsDir ++ [name]
    perform (.entry p)
    if ← perform (.isDir p) then
      match fromHex name with
      | .ok id =>
        if ← isCommittedDir p then enumerateEntries names (out ++ [id])
        else enumerateEntries names out
      | .error _ => enumerateEntries names out
    else enumerateEntries names out

/-- Enumerate committed checkpoint directories. -/
def enumerateCommitted : Work (List Id) := do
  let names ← perform (.readDir checkpointsDir)
  let out ← enumerateEntries names []
  pure (out.insertionSort (· ≤ ·))

end Committed

section Sweep

/-- Whether a directory has been left alone for so long. -/
def oldEnough (p : Path) (ttlMs : ℕ) : Work Bool := do
  if ttlMs = 0 then pure true
  else
    match ← perform (.age p) with
    | some age => pure (decide (ttlMs ≤ age))
    | none => pure false

def recoverEntries (keep : List Path) (ttlMs : ℕ) : List String → List Path → Work (List Path)
  | [], removed => pure removed
  | name :: names, removed => do
    let p := stagingRoot ++ [name]
    perform (.entry p)
    let dir ← perform (.isDir p)
    if !dir || keep.contains p then recoverEntries keep ttlMs names removed
    else if ← oldEnough p ttlMs then
      removeDirAll p
      recoverEntries keep ttlMs names (removed ++ [p])
    else recoverEntries keep ttlMs names removed

/-- Remove only abandoned staging directories that are old enough. -/
def recoverPartialOlderThan (keep : List Path) (ttlMs : ℕ) : Work (List Path) := do
  match ← (perform (.readDir stagingRoot)).attempt with
  | .ok names => recoverEntries keep ttlMs names []
  | .error _ => pure []

def recoverPartial (keep : List Path) : Work (List Path) := recoverPartialOlderThan keep 0

/-- What the heartbeat thread does from time to time: the directories that are leased are kept. -/
def sweep (ttlMs : ℕ) : Work (List Path) := do
  let keep ← perform .leased
  recoverPartialOlderThan keep ttlMs

end Sweep

/-- What a call finds out, or how it fails. -/
structure Input where
  fault : Bool
  /-- The text of a failure. -/
  text : String
  age : Option ℕ
  /-- The entries that are found in a directory. -/
  entries : ℕ
  /-- The entry that is removed. -/
  below : Path
  deriving DecidableEq, Repr

/-- The tree below the root of the storage, and the directories that are leased. -/
structure Disk where
  tree : Files.Tree UInt8
  leases : List Path
  deriving DecidableEq, Repr

namespace Disk

variable (s : Disk)

/-- Make both directories, as far as they are missing. -/
def new (tree : Files.Tree UInt8) : Except Failure (Files.Tree UInt8) := do
  let tree ← tree.createDirAll stagingRoot
  tree.createDirAll checkpointsDir

/-- The process starts: nothing is leased. -/
def restart : Disk :=
  match new s.tree with
  | .ok tree => ⟨tree, []⟩
  | .error _ => ⟨s.tree, []⟩

def initial : Disk := restart ⟨⟨[([], .directory)]⟩, []⟩

/-- Change the tree, unless that fails. -/
def change (input : Input) (changed : Option (Files.Tree UInt8)) : FabricResult Unit × Disk :=
  match changed with
  | some tree => (.ok (), { s with tree })
  | none => (.error (.io input.text), s)

/-- What a call does that does not fail for another reason. -/
def respond (input : Input) : (op : Op) → FabricResult op.Reply × Disk
  | .pathExists p => (.ok (s.tree.isThere p), s)
  | .isDir p => (.ok (s.tree.isDirectory p), s)
  | .isFile p => (.ok (s.tree.isFile p), s)
  | .createDirAll p => s.change input (s.tree.createDirAll p).toOption
  | .syncChildren p => s.change input (if s.tree.isDirectory p then some s.tree else none)
  | .rename p q => s.change input (s.tree.rename p q)
  | .readDir p =>
    if s.tree.isDirectory p then (.ok (s.tree.children p), s) else (.error (.io input.text), s)
  | .entry _ => (.ok (), s)
  | .age _ => (.ok input.age, s)
  | .readTree p =>
    if s.tree.isDirectory p then (.ok input.entries, s) else (.error (.io input.text), s)
  | .removeBelow p =>
    s.change input (if input.below = [] then none else (s.tree.removeLeaf (p ++ input.below)).toOption)
  | .removeDir p => s.change input (s.tree.removeDir p).toOption
  | .leased => (.ok s.leases, s)

/-- A call. Questions are answered with no when the answer cannot be found out. -/
def handle (op : Op) (input : Input) : FabricResult op.Reply × Disk :=
  if input.fault then
    match op with
    | .pathExists _ | .isDir _ | .isFile _ => (.ok false, s)
    | .age _ => (.ok none, s)
    | .leased => (.ok s.leases, s)
    | _ => (.error (.io input.text), s)
  else s.respond input op

end Disk

/-- What an attempt does in its directory. -/
inductive Change
  | createDirAll
  | write (contents : Bytes)
  | remove

/-- What happens besides the requests: an attempt works in its directory, or leases it. -/
inductive Move
  | stage (name : String) (rest : Path) (change : Change)
  | lease (name : String)
  | release (name : String)

/-- Where something fails, everything stays. -/
def Disk.move (s : Disk) : Move → Disk
  | .stage name rest change =>
    let p := stagingRoot ++ name :: rest
    let changed := match change with
      | .createDirAll => s.tree.createDirAll p
      | .write contents => s.tree.write p contents
      | .remove => s.tree.removeLeaf p
    match changed with
    | .ok tree => { s with tree }
    | .error _ => s
  | .lease name => { s with leases := (stagingRoot ++ [name]) :: s.leases }
  | .release name => { s with leases := s.leases.filter (· ≠ stagingRoot ++ [name]) }

inductive Request
  | promote (attemptId : String) (checkpointId : Id)
  | hasCommitted (checkpointId : Id)
  | enumerateCommitted
  | deleteCommitted (checkpointId : Id)
  | sweep (ttlMs : ℕ)
  | recoverPartial (keep : List Path)
  deriving DecidableEq, Repr

inductive Response
  | done
  | committed (answer : Bool)
  | checkpoints (ids : List Id)
  | removed (paths : List Path)
  deriving DecidableEq, Repr

def serve (storage : LocalStorage) : Request → Work Response
  | .promote attemptId checkpointId => do
    promote storage (stagingDir attemptId) (commitDir checkpointId)
    pure .done
  | .hasCommitted checkpointId => do return .committed (← hasCommitted checkpointId)
  | .enumerateCommitted => do return .checkpoints (← enumerateCommitted)
  | .deleteCommitted checkpointId => do
    deleteCommitted checkpointId
    pure .done
  | .sweep ttlMs => do return .removed (← sweep ttlMs)
  | .recoverPartial keep => do return .removed (← recoverPartial keep)

/-- The storage of a node, with everything that goes on in it. -/
abbrev directories (storage : LocalStorage) : System where
  toInterface := directoryInterface
  Error := FabricError
  Request := Request
  Response := Response
  State := Disk
  Input := Input
  Move := Move
  initial := .initial
  handle op input s := s.handle op input
  serve := serve storage
  accept := fun _ s => s
  restart := Disk.restart
  move := fun move s => s.move move

end Directories

end CheckpointFabric
