import CheckpointFabric.Files.Links
import CheckpointFabric.Replica
import Mathlib.Data.List.Sort

/-!
# The filesystem provider

A component of the filesystem provider is a list of named files. A restore writes them below a root
directory. Before it writes anything it plans: it rejects names that lead elsewhere, and records in a
journal what each file was before and which directories are missing. The journal is made durable
below the root, and then the files are written, one after the other.

A cleanup reads the journal and takes back what the restore may have done, at whatever point it has
stopped.

Nobody else works below the root in the meantime, and calls fail for what is in the tree: a restore
can stop anywhere, but permissions and the space on the disk are left out of the cleanup. A link may
lead out of the tree or into it, but its way does not leave the tree and come back; what is at its
other end outside is a file, a directory or nothing.

## Main definitions

* `Accepted`, `componentsOf` — the names that may be restored, and where they lead
* `plan` — the journal of a restore, or why it is rejected
* `restore`, `Stops` — how the files are written, and where this can stop
* `cleanupRestore` — how a restore is taken back

## Main results

* `stops_writeEntries` — a restore that runs to its end is one of those that stop
-/

set_option autoImplicit false

namespace CheckpointFabric.Filesystem

open Files Replica

abbrev FileTree := Files.Tree UInt8

/-- The text of an error of the operating system. -/
def Failure.text : Failure → String
  | .notFound => "No such file or directory (os error 2)"
  | .alreadyExists => "File exists (os error 17)"
  | .notADirectory => "Not a directory (os error 20)"
  | .isADirectory => "Is a directory (os error 21)"
  | .directoryNotEmpty => "Directory not empty (os error 39)"
  | .tooManyLinks => "Too many levels of symbolic links (os error 40)"

def io (failure : Failure) : FabricError := .io (Failure.text failure)

def cleanupFailure (failure : Failure) : FabricError := .cleanupFailure (Failure.text failure)

section Names

def restoreJournalDir : String := ".checkpoint-fabric-restore-journals"

/-- What is between the slashes of a name. -/
def segments (name : String) : List String := (name.toList.splitOn '/').map String.ofList

/-- Where a name leads. -/
def componentsOf (name : String) : Path := (segments name).filter fun s => s ≠ "" ∧ s ≠ "."

/-- A name that ends like this can only be that of a directory. -/
def namesDirectory (name : String) : Bool :=
  (segments name).getLast? = some "" ∨ (segments name).getLast? = some "."

/-- The name may be restored. The first segment of an empty or absolute name is empty. -/
def Accepted (name : String) : Prop :=
  (segments name).head? ≠ some "" ∧ (segments name).head? ≠ some "." ∧ ".." ∉ segments name ∧
    (componentsOf name).head? ≠ some restoreJournalDir

instance (name : String) : Decidable (Accepted name) := by
  unfold Accepted
  infer_instance

def checkedRestoreRelative (name : String) : FabricResult Path :=
  if Accepted name then .ok (componentsOf name)
  else .error (.invalidArgument s!"restore payload path traversal rejected: {name}")

section Calls

variable (t : FileTree) (name : String)

/-- `exists` of a path that is given by a name. -/
def thereAs : Bool :=
  if namesDirectory name then t.pathIsDir (componentsOf name) else t.pathExists (componentsOf name)

def writeAs (bytes : Bytes) : Except Failure FileTree :=
  if namesDirectory name then .error .isADirectory else t.pathWrite (componentsOf name) bytes

def removeAs : Except Failure FileTree :=
  if namesDirectory name then
    .error (if t.pathGet (componentsOf name) = some .directory then .isADirectory else .notADirectory)
  else t.pathRemoveFile (componentsOf name)

end Calls

end Names

/-- What a restore may change: the files with what they were before, and the directories that are
missing. The latter are paths here, and joined to names in the file. -/
structure RestoreJournal where
  files : List (String × Option Bytes)
  createdDirs : List Path
  rootCreated : Bool
  deriving DecidableEq, Repr

/-- The serializer and the hash function. -/
structure ArchiveCodecs where
  toVec : List (String × Bytes) → Bytes
  fromSlice : Bytes → Except String (List (String × Bytes))
  journalToVec : RestoreJournal → Bytes
  journalFromSlice : Bytes → Except String RestoreJournal
  sha256Hex : Bytes → String

section Plan

variable (root : String) (t : FileTree)

/-- Make the root if it is missing. -/
def openRoot : FabricResult (Bool × FileTree) :=
  match t.get [] with
  | some (.link .file) | some (.link .directory) =>
    .error (.restoreFailure s!"filesystem restore root {root} is a symlink")
  | _ =>
    if t.isThere [] then .ok (false, t)
    else
      match t.createDirAll [] with
      | .ok t' => .ok (true, t')
      | .error failure => .error (io failure)

/-- The directories between the root and a place. -/
def ancestors (path : Path) : List Path := path.inits.tail.dropLast

def display (path : Path) : String := root ++ "/" ++ "/".intercalate path

/-- The directories on the way to a file, as far as they are missing, next to those of other files. -/
def planAncestors : List Path → List Path → FabricResult (List Path)
  | [], createdDirs => .ok createdDirs
  | cursor :: cursors, createdDirs =>
    if t.pathExists cursor then
      if t.pathGet cursor = some .directory then planAncestors cursors createdDirs
      else
        .error (.restoreFailure
          s!"filesystem restore ancestor {display root cursor} is not a real directory")
    else
      planAncestors cursors
        (if cursor ∈ createdDirs then createdDirs else createdDirs ++ [cursor])

/-- What a file is before the restore. -/
def previousOf (name : String) : FabricResult (Option Bytes) :=
  if thereAs t name then
    match t.pathGet (componentsOf name) with
    | some (.file bytes) => .ok (some bytes)
    | _ =>
      .error (.restoreFailure
        s!"filesystem restore destination {root}/{name} is not a regular file")
  else .ok none

/-- Plan the entries one after the other; `seen` are the places of those before. -/
def plan : List (String × Bytes) → (seen : List Path) → RestoreJournal → FabricResult RestoreJournal
  | [], _, journal => .ok journal
  | (name, _) :: entries, seen, journal => do
    let path ← checkedRestoreRelative name
    if path ∈ seen then
      .error (.restoreFailure s!"duplicate filesystem restore destination {root}/{name}")
    else
      let createdDirs ← planAncestors root t (ancestors path) journal.createdDirs
      let previous ← previousOf root t name
      plan entries (path :: seen)
        { journal with files := journal.files ++ [(name, previous)], createdDirs := createdDirs }

end Plan

section Journal

variable (codecs : ArchiveCodecs) (root : String) (attemptId : AttemptId) (t : FileTree)

def journalPath : Path :=
  [restoreJournalDir, s!"{codecs.sha256Hex (utf8 (toString attemptId))}.json"]

def openJournalDir : FabricResult FileTree :=
  if t.pathExists [restoreJournalDir] then
    if t.pathGet [restoreJournalDir] = some .directory then .ok t
    else
      .error (.restoreFailure
        s!"restore journal directory {root}/{restoreJournalDir} is not a real directory")
  else (t.pathCreateDirAll [restoreJournalDir]).mapError io

/-- Make the journal durable. The temporary file that it is renamed from is left out; it takes the
place of a link that leads nowhere. -/
def persistRestoreJournal (journal : RestoreJournal) : FabricResult FileTree := do
  let t ← openJournalDir root t
  if t.pathExists (journalPath codecs attemptId) then
    .error (.restoreFailure
      s!"filesystem restore attempt {attemptId} already has a durable journal")
  else .ok (t.put (journalPath codecs attemptId) (.file (codecs.journalToVec journal)))

/-- The bytes of a journal. None is read from outside of the tree. -/
def readJournal : Except Failure Bytes :=
  match t.locate true (journalPath codecs attemptId) with
  | .error failure => .error failure
  | .ok place =>
    match t.get place with
    | some (.file bytes) => .ok bytes
    | _ => .error .isADirectory

def loadRestoreJournal : FabricResult (Option RestoreJournal) :=
  if t.pathExists (journalPath codecs attemptId) then
    match readJournal codecs attemptId t with
    | .ok bytes =>
      match codecs.journalFromSlice bytes with
      | .ok journal => .ok (some journal)
      | .error e => .error (.cleanupFailure s!"invalid durable restore journal: {e}")
    | .error failure => .error (io failure)
  else .ok none

/-- List a directory, through a link if need be, and remove it if nothing is in it. What is at the
other end of a link out of the tree is taken to be populated. -/
def removeDirectoryIfEmpty (path : Path) : FabricResult FileTree :=
  match t.locate true path with
  | .error .notFound => .ok t
  | .error failure => .error (cleanupFailure failure)
  | .ok place =>
    match t.get place with
    | none | some (.link (.nothing _)) | some (.link .directory) => .ok t
    | some .directory =>
      if t.hasChild place then .ok t
      else
        match t.pathRemoveDir path with
        | .ok t' => .ok t'
        | .error .notFound => .ok t
        -- It is a link to the directory.
        | .error failure => .error (cleanupFailure failure)
    | some _ => .error (cleanupFailure .notADirectory)

def removeJournalFile : FabricResult FileTree :=
  if t.pathExists (journalPath codecs attemptId) then
    (t.pathRemoveFile (journalPath codecs attemptId)).mapError io
  else .ok t

def removeRestoreJournal : FabricResult FileTree := do
  let t ← removeJournalFile codecs attemptId t
  removeDirectoryIfEmpty t [restoreJournalDir]

end Journal

section Restore

/-- Write the files, each after the directories that it is in. -/
def writeEntries : List (String × Bytes) → FileTree → FabricResult Unit × FileTree
  | [], t => (.ok (), t)
  | (name, bytes) :: entries, t =>
    match t.pathCreateDirAll (componentsOf name).dropLast with
    | .error failure => (.error (io failure), t)
    | .ok t₁ =>
      match writeAs t₁ name bytes with
      | .error failure => (.error (io failure), t₁)
      | .ok t₂ => writeEntries entries t₂

/-- Where writing the files can stop: between two calls, or in the middle of one. -/
inductive Stops : FileTree → List (String × Bytes) → FileTree → Prop
  | here {t : FileTree} {entries : List (String × Bytes)} : Stops t entries t
  /-- Some of the missing directories were made. -/
  | making {t t' : FileTree} {name : String} {bytes : Bytes} {entries : List (String × Bytes)}
      {dir : Path} :
      dir <+: (componentsOf name).dropLast → t.pathCreateDirAll dir = .ok t' →
      Stops t ((name, bytes) :: entries) t'
  /-- Some of the bytes were written. -/
  | writing {t t₁ t' : FileTree} {name : String} {bytes : Bytes} {entries : List (String × Bytes)}
      {n : ℕ} :
      t.pathCreateDirAll (componentsOf name).dropLast = .ok t₁ →
      writeAs t₁ name (bytes.take n) = .ok t' →
      Stops t ((name, bytes) :: entries) t'
  | next {t t₁ t₂ t' : FileTree} {name : String} {bytes : Bytes} {entries : List (String × Bytes)} :
      t.pathCreateDirAll (componentsOf name).dropLast = .ok t₁ →
      writeAs t₁ name bytes = .ok t₂ → Stops t₂ entries t' →
      Stops t ((name, bytes) :: entries) t'

theorem stops_writeEntries {entries : List (String × Bytes)} {t : FileTree} :
    Stops t entries (writeEntries entries t).2 := by
  induction entries generalizing t with
  | nil => exact .here
  | cons entry entries ih =>
    obtain ⟨name, bytes⟩ := entry
    rw [writeEntries]
    split
    · exact .here
    · rename_i t₁ hmade
      split
      · exact .making (List.prefix_refl _) hmade
      · rename_i t₂ hwritten
        exact .next hmade hwritten ih

/-- The provider: its first restore root, and the journals that it remembers. -/
structure FilesystemProvider where
  restoreRoot : Option String
  restoreJournals : List (AttemptId × RestoreJournal) := []

/-- A new instance with the same configuration. -/
def FilesystemProvider.fresh (provider : FilesystemProvider) : FilesystemProvider :=
  { provider with restoreJournals := [] }

variable (codecs : ArchiveCodecs) (provider : FilesystemProvider) (attemptId : AttemptId)

def FilesystemProvider.root : FabricResult String :=
  match provider.restoreRoot with
  | some root => .ok root
  | none => .error (.restoreFailure "filesystem provider has no restore root")

/-- The entries of a payload and the journal of their restore, with the tree that holds the root. -/
def prepare (payload : Bytes) (t : FileTree) :
    FabricResult (List (String × Bytes) × RestoreJournal) × FileTree :=
  match codecs.fromSlice payload with
  | .error e => (.error (.restoreFailure s!"bad fs payload: {e}"), t)
  | .ok entries =>
    match provider.root with
    | .error e => (.error e, t)
    | .ok root =>
      match openRoot root t with
      | .error e => (.error e, t)
      | .ok (rootCreated, t₁) =>
        match plan root t₁ entries [] ⟨[], [], rootCreated⟩ with
        | .error e => (.error e, t₁)
        | .ok journal => (.ok (entries, journal), t₁)

/-- Remember the journal and make it durable. -/
def keepJournal (journal : RestoreJournal) (t : FileTree) : FabricResult FileTree :=
  if (provider.restoreJournals.lookup attemptId).isSome then
    .error (.restoreFailure s!"filesystem restore attempt {attemptId} is already active")
  else persistRestoreJournal codecs (provider.restoreRoot.getD "") attemptId t journal

/-- Restore the files of a payload. -/
def restore (payload : Bytes) (t : FileTree) : FabricResult Unit × FileTree :=
  match prepare codecs provider payload t with
  | (.error e, t₁) => (.error e, t₁)
  | (.ok (entries, journal), t₁) =>
    match keepJournal codecs provider attemptId journal t₁ with
    | .error e => (.error e, t₁)
    | .ok t₂ => writeEntries entries t₂

end Restore

section Cleanup

/-- Take back what was done to a file. -/
def undoFile (file : String × Option Bytes) (t : FileTree) : FabricResult FileTree := do
  let path ← checkedRestoreRelative file.1
  match file.2 with
  | some bytes =>
    let t ← (t.pathCreateDirAll path.dropLast).mapError io
    (writeAs t file.1 bytes).mapError io
  | none => if thereAs t file.1 then (removeAs t file.1).mapError cleanupFailure else .ok t

def undoFiles : List (String × Option Bytes) → FileTree → FabricResult FileTree
  | [], t => .ok t
  | file :: files, t => do
    let t ← undoFile file t
    undoFiles files t

def removeIfThere (dir : Path) (t : FileTree) : FabricResult FileTree :=
  if t.pathExists dir then removeDirectoryIfEmpty t dir else .ok t

/-- Remove the directories that are empty. -/
def removeDirs : List Path → FileTree → FabricResult FileTree
  | [], t => .ok t
  | dir :: dirs, t => do
    let t ← removeIfThere dir t
    removeDirs dirs t

variable (codecs : ArchiveCodecs) (provider : FilesystemProvider) (attemptId : AttemptId)

/-- Take back what a journal records. -/
def takeBack (journal : RestoreJournal) (t : FileTree) : FabricResult FileTree := do
  let t ← undoFiles journal.files.reverse t  -- the last one first
  -- The deepest directories come first.
  let t ← removeDirs (journal.createdDirs.insertionSort fun a b => b.length ≤ a.length) t
  let t ← removeRestoreJournal codecs attemptId t
  if journal.rootCreated then removeIfThere [] t else .ok t

/-- Take a restore back, if there is a journal of it. -/
def cleanupRestore (t : FileTree) : FabricResult FileTree := do
  let _ ← provider.root
  let durable ← loadRestoreJournal codecs attemptId t
  match (provider.restoreJournals.lookup attemptId).or durable with
  | none => .ok t
  | some journal => takeBack codecs attemptId journal t

end Cleanup

section Capture

/-- A name as the operating system has it. -/
abbrev OsName := List UInt8

/-- What a directory lists, in this order. Links and special files are not followed. -/
inductive Listing
  | nil
  | file (name : OsName) (contents : Bytes) (rest : Listing)
  | directory (name : OsName) (children rest : Listing)
  | other (name : OsName) (rest : Listing)
  deriving DecidableEq, Repr

/-- The regular files that the directory itself lists. -/
def Listing.filesHere (dir : List OsName) : Listing → List (List OsName × Bytes)
  | nil => []
  | file name contents rest => (dir ++ [name], contents) :: filesHere dir rest
  | directory _ _ rest | other _ rest => filesHere dir rest

/-- The regular files further down. The walk goes into the directory that was listed last, and into
those that this one lists, before it comes back to the others. -/
def Listing.filesBelow (dir : List OsName) : Listing → List (List OsName × Bytes)
  | nil => []
  | file _ _ rest | other _ rest => filesBelow dir rest
  | directory name children rest =>
    filesBelow dir rest ++
      (filesHere (dir ++ [name]) children ++ filesBelow (dir ++ [name]) children)

def Listing.walk (listing : Listing) : List (List OsName × Bytes) :=
  listing.filesHere [] ++ listing.filesBelow []

/-- What is at a source path. A file has the last name of its path. -/
inductive Source
  | directory (listing : Listing)
  | file (fileName : OsName) (contents : Bytes)
  | missing
  deriving DecidableEq, Repr

variable (lossy : OsName → String)

/-- The name of a file below a source: backslashes become slashes. -/
def relativeName (path : List OsName) : String :=
  ("/".intercalate (path.map lossy)).map fun c => if c = '\\' then '/' else c

/-- The files of a source under the names they get in the archive. -/
def Source.entries : Source → List (String × Bytes)
  | directory listing => listing.walk.map fun file => (relativeName lossy file.1, file.2)
  | file fileName contents => [(lossy fileName, contents)]
  | missing => []

/-- The entries of an archive, sorted by name. -/
def captureEntries (sources : List Source) : List (String × Bytes) :=
  (sources.flatMap (Source.entries lossy)).insertionSort fun a b => a.1 ≤ b.1

def capture (codecs : ArchiveCodecs) (sources : List Source) : Bytes :=
  codecs.toVec (captureEntries lossy sources)

end Capture

end CheckpointFabric.Filesystem
