import Zerodisk.Lba.Shard
import Mathlib.Data.List.Defs

/-!
# Where the FTP driver puts a deduped block

`ftpDriver` stores a deduped block at a path built from its hash: two bytes name
a directory, two a subdirectory, and the remaining 28 the file.
`SetDedupedBlock` creates the directories under the driver's root with `mkdirs`
and stores the block lazily; `GetDedupedBlock` reads the joined path. The hash
bytes go into the path as they are, and `path.Join` cleans it: `cleanPath` is
`path.Clean` on byte strings. The FTP server is the directories and files it
holds, and `Mkdir` returns the directory it created.
-/

namespace Zerodisk
namespace Backup

/-- The byte string of an ASCII text. -/
def ascii (text : String) : Bytes := text.toList.map fun c => c.toNat.toUInt8

/-- `'/'`. -/
def slash : UInt8 := 47

/-- `'.'`. -/
def dot : UInt8 := 46

/-- `strings.Split(s, "/")`. -/
def splitSlash (s : Bytes) : List Bytes := s.splitOn slash

/-- One segment of a path pushed on the segments kept so far, latest first,
as `path.Clean` treats it. -/
def pushSegment (rooted : Bool) (kept : List Bytes) (segment : Bytes) : List Bytes :=
  if segment = [] ∨ segment = [dot] then kept
  else if segment = [dot, dot] then
    match kept with
    | top :: rest => if top = [dot, dot] then segment :: kept else rest
    | [] => if rooted then [] else [segment]
  else segment :: kept

/-- `path.Clean`. -/
def cleanPath (p : Bytes) : Bytes :=
  let rooted := p.head? = some slash
  let kept := (splitSlash p).foldl (pushSegment rooted) []
  let body := (kept.reverse.intersperse [slash]).flatten
  let cleaned := if rooted then slash :: body else body
  if cleaned = [] then [dot] else cleaned

/-- `path.Join(a, b)`: empty elements are left out, and the result is
cleaned; two empty elements join to the empty path. -/
def joinPath (a b : Bytes) : Bytes :=
  if a = [] then (if b = [] then [] else cleanPath b)
  else if b = [] then cleanPath a
  else cleanPath (a ++ slash :: b)

/-- `errInvalidHash`. -/
def errInvalidHash : GoError := "invalid hash given"

/-- `hashAsDirAndFile`: the directory `hash[:2]/hash[2:4]` and the file
`hash[4:]`, for a hash of `HashSize` bytes. -/
def hashAsDirAndFile (hash : Bytes) : Option (Bytes × Bytes) :=
  if hash.length ≠ Lba.hashSize then none
  else some (hash.take 2 ++ slash :: (hash.drop 2).take 2, hash.drop 4)

/-- What `Stat` finds at a path. -/
inductive FtpEntry
  /-- An error with code `ftpErrorNoExists`. -/
  | noExists
  /-- A directory. -/
  | dir
  /-- A file. -/
  | file
  deriving DecidableEq, Repr

/-- An FTP server: the directories and the files it holds. -/
structure FtpServer where
  /-- The directories. -/
  dirs : List Bytes
  /-- The files. -/
  files : List Bytes
  deriving DecidableEq, Repr

namespace FtpServer

/-- `client.Stat(p)`. -/
def stat (server : FtpServer) (p : Bytes) : FtpEntry :=
  if p ∈ server.dirs then .dir else if p ∈ server.files then .file else .noExists

/-- `client.Mkdir(p)`: the directory it created, which is `p`. -/
def mkdir (server : FtpServer) (p : Bytes) : Bytes × FtpServer :=
  (p, { server with dirs := server.dirs ++ [p] })

end FtpServer

/-- `ftpDriver`. -/
structure FtpDriver where
  /-- `root`. -/
  root : Bytes
  /-- `knownDirs`. -/
  knownDirs : List Bytes
  deriving DecidableEq, Repr

/-- `errors.New(pwd + " exists and is a file, not a dir")`. -/
def errExistsAsFile (pwd : Bytes) : GoError :=
  String.mk (pwd.map fun byte => Char.ofNat byte.toNat) ++ " exists and is a file, not a dir"

namespace FtpDriver

/-- The loop of `mkdirs` over the levels `dirs`, from the working directory
`pwd`: the directory it ends in. -/
def mkdirsFrom (ftp : FtpDriver) (server : FtpServer) :
    (pwd : Bytes) → List Bytes → Except GoError (Bytes × FtpDriver × FtpServer)
  | pwd, [] => .ok (pwd, ftp, server)
  | pwd, d :: dirs =>
    let pwd := joinPath pwd d
    if pwd ∈ ftp.knownDirs then mkdirsFrom ftp server pwd dirs
    else
      match server.stat pwd with
      | .noExists =>
        let (output, server) := server.mkdir pwd
        mkdirsFrom ftp server output dirs
      | .file => .error (errExistsAsFile pwd)
      | .dir => mkdirsFrom { ftp with knownDirs := ftp.knownDirs ++ [pwd] } server pwd dirs

/-- `ftpDriver.mkdirs`: the directory `dir` under the root, created level
by level; the path the client should use for it. -/
def mkdirs (ftp : FtpDriver) (server : FtpServer) (dir : Bytes) :
    Except GoError (Bytes × FtpDriver × FtpServer) :=
  let dir := joinPath ftp.root dir
  if dir ∈ ftp.knownDirs then .ok (dir, ftp, server)
  else ftp.mkdirsFrom server [] (splitSlash dir)

/-- `ftpDriver.lazyStore`: store at `p` unless a file is there. -/
def lazyStore (server : FtpServer) (p : Bytes) : Except GoError FtpServer :=
  match server.stat p with
  | .noExists => .ok { server with files := server.files ++ [p] }
  | .dir => .error (String.mk (p.map fun byte => Char.ofNat byte.toNat) ++ " is a dir")
  | .file => .ok server

/-- `ftpDriver.SetDedupedBlock`: the path the block is stored at, and the
driver and the server after it. -/
def setDedupedBlock (ftp : FtpDriver) (server : FtpServer) (hash : Bytes) :
    Except GoError (Bytes × FtpDriver × FtpServer) := do
  let some (dir, file) := hashAsDirAndFile hash | .error errInvalidHash
  let (dir, ftp, server) ← ftp.mkdirs server dir
  let p := joinPath dir file
  let server ← lazyStore server p
  pure (p, ftp, server)

/-- `ftpDriver.GetDedupedBlock`: the path the block is retrieved from. -/
def getDedupedBlock (hash : Bytes) : Except GoError Bytes := do
  let some (dir, file) := hashAsDirAndFile hash | .error errInvalidHash
  pure (joinPath dir file)

end FtpDriver

/-- The hash of 32 bytes `'a'`. -/
def letterHash : Bytes := List.replicate 32 97

/-- A hash `"ab/c"` followed by 28 bytes `'x'`. -/
def slashInDirHash : Bytes := ascii "ab/c" ++ List.replicate 28 120

/-- A hash `"abc/"` followed by 28 bytes `'x'`. -/
def slashInFileHash : Bytes := ascii "abc/" ++ List.replicate 28 120

/-- The store and retrieve paths of the FTP driver do not match. Under the
root `backup`, a block is stored below the root and retrieved from a path
without it. Under the empty root, two different hashes whose bytes path
cleaning rewrites share one path: the first block is stored there, the
second one is retrieved from there, and storing the second finds the file and
stores nothing. -/
theorem ftpDriver_store_and_retrieve_paths_differ :
    (∃ stored ftp server,
      FtpDriver.setDedupedBlock ⟨ascii "backup", []⟩ ⟨[], []⟩ letterHash = .ok (stored, ftp, server) ∧
      stored = ascii "backup/aa/aa/" ++ List.replicate 28 97 ∧
      FtpDriver.getDedupedBlock letterHash = .ok (ascii "aa/aa/" ++ List.replicate 28 97)) ∧
    (slashInDirHash ≠ slashInFileHash ∧
      ∃ stored ftp server,
        FtpDriver.setDedupedBlock ⟨[], []⟩ ⟨[], []⟩ slashInDirHash = .ok (stored, ftp, server) ∧
        FtpDriver.getDedupedBlock slashInFileHash = .ok stored ∧
        ∃ ftp', ftp.setDedupedBlock server slashInFileHash = .ok (stored, ftp', server)) :=
  ⟨⟨_, _, _, rfl, by decide, rfl⟩, by decide, ⟨_, _, _, rfl, rfl, _, rfl⟩⟩

end Backup
end Zerodisk
