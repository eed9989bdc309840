import Zerodisk.Backup.FtpPaths

/-!
# The FTP driver over runs of `SetDedupedBlock`

The driver caches in `knownDirs` the directories it found on the server and
trusts the cache: a cached directory is neither asked about nor created. The
driver and the server are one state machine, and a call of `SetDedupedBlock` is
one step of it, which keeps, when it fails, the directories it created and the
levels it cached. Over every run from `FTPDriver`, each cached directory is
where the walk of its levels ends and each level is a directory on the server
(`KnownDirsSound`); so the cache cannot be seen, and storing a hash again after
any other stores changes nothing.
-/

namespace Zerodisk
namespace Backup

/-- What a call that also leaves a state returns to its caller: the state
only with a result. -/
def toExcept {α σ : Type} : Except GoError α × σ → Except GoError (α × σ)
  | (.ok a, s) => .ok (a, s)
  | (.error err, _) => .error err

namespace FtpDriver

/-- The loop of `mkdirs` over the levels `dirs` from `pwd`, with the driver and
the server it leaves on every exit: the directory it ends in, or the error it
stops at. -/
def runMkdirsFrom (ftp : FtpDriver) (server : FtpServer) :
    (pwd : Bytes) → List Bytes → Except GoError Bytes × FtpDriver × FtpServer
  | pwd, [] => (.ok pwd, ftp, server)
  | pwd, d :: dirs =>
    let pwd := joinPath pwd d
    if pwd ∈ ftp.knownDirs then runMkdirsFrom ftp server pwd dirs
    else
      match server.stat pwd with
      | .noExists =>
        let (output, server) := server.mkdir pwd
        runMkdirsFrom ftp server output dirs
      | .file => (.error (errExistsAsFile pwd), ftp, server)
      | .dir => runMkdirsFrom { ftp with knownDirs := ftp.knownDirs ++ [pwd] } server pwd dirs

/-- `mkdirs`, with the driver and the server it leaves on every exit. -/
def runMkdirs (ftp : FtpDriver) (server : FtpServer) (dir : Bytes) :
    Except GoError Bytes × FtpDriver × FtpServer :=
  let dir := joinPath ftp.root dir
  if dir ∈ ftp.knownDirs then (.ok dir, ftp, server)
  else ftp.runMkdirsFrom server [] (splitSlash dir)

/-- `SetDedupedBlock`, with the driver and the server it leaves on every exit:
the path the block is stored at, or the error. -/
def runSetDedupedBlock (ftp : FtpDriver) (server : FtpServer) (hash : Bytes) :
    Except GoError Bytes × FtpDriver × FtpServer :=
  match hashAsDirAndFile hash with
  | none => (.error errInvalidHash, ftp, server)
  | some (dir, file) =>
    match ftp.runMkdirs server dir with
    | (.error err, ftp, server) => (.error err, ftp, server)
    | (.ok dir, ftp, server) =>
      let p := joinPath dir file
      match lazyStore server p with
      | .ok server => (.ok p, ftp, server)
      | .error err => (.error err, ftp, server)

theorem mkdirsFrom_eq_run (ftp : FtpDriver) (server : FtpServer) (pwd : Bytes) (dirs : List Bytes) :
    ftp.mkdirsFrom server pwd dirs = toExcept (ftp.runMkdirsFrom server pwd dirs) := by
  induction dirs generalizing ftp server pwd with
  | nil => rfl
  | cons d dirs ih =>
    simp only [mkdirsFrom, runMkdirsFrom]
    split_ifs
    · exact ih ..
    · cases server.stat (joinPath pwd d)
      · exact ih ..
      · exact ih ..
      · rfl

theorem mkdirs_eq_run (ftp : FtpDriver) (server : FtpServer) (dir : Bytes) :
    ftp.mkdirs server dir = toExcept (ftp.runMkdirs server dir) := by
  simp only [mkdirs, runMkdirs]
  split_ifs
  · rfl
  · exact mkdirsFrom_eq_run ..

/-- On success, `SetDedupedBlock` is its run: the model of the source's
function drops only the state a failing call leaves. -/
theorem setDedupedBlock_eq_run (ftp : FtpDriver) (server : FtpServer) (hash : Bytes) :
    ftp.setDedupedBlock server hash = toExcept (ftp.runSetDedupedBlock server hash) := by
  simp only [setDedupedBlock, runSetDedupedBlock]
  rcases hashAsDirAndFile hash with _ | ⟨dir, file⟩
  · rfl
  · dsimp only
    rw [mkdirs_eq_run]
    rcases ftp.runMkdirs server dir with ⟨_ | dir, ftp', server'⟩
    · rfl
    · dsimp only
      show (lazyStore server' (joinPath dir file) >>= fun stored => pure (joinPath dir file, ftp', stored)) = _
      cases lazyStore server' (joinPath dir file) <;> rfl

end FtpDriver

/-! ## What a call does to the server -/

namespace FtpServer

/-- What a call of the driver may do to the server: keep every directory and
every file, and make a directory only where no file is. -/
structure Grows (server server' : FtpServer) : Prop where
  /-- Every directory stays. -/
  dirs : ∀ p ∈ server.dirs, p ∈ server'.dirs
  /-- Every file stays. -/
  files : ∀ p ∈ server.files, p ∈ server'.files
  /-- A new directory is not where a file was. -/
  newDirs : ∀ p ∈ server'.dirs, p ∈ server.dirs ∨ p ∉ server.files

theorem Grows.refl (server : FtpServer) : server.Grows server :=
  ⟨fun _ => id, fun _ => id, fun _ member => .inl member⟩

theorem Grows.trans {server₁ server₂ server₃ : FtpServer} (first : server₁.Grows server₂)
    (second : server₂.Grows server₃) : server₁.Grows server₃ :=
  ⟨fun p member => second.dirs p (first.dirs p member),
    fun p member => second.files p (first.files p member),
    fun p member => (second.newDirs p member).elim (first.newDirs p)
      fun notFile => .inr fun wasFile => notFile (first.files p wasFile)⟩

/-- A file that is not a directory stays one. -/
theorem Grows.file {server server' : FtpServer} (grows : server.Grows server') {p : Bytes}
    (isFile : p ∈ server.files) (notDir : p ∉ server.dirs) : p ∈ server'.files ∧ p ∉ server'.dirs :=
  ⟨grows.files p isFile, fun member => (grows.newDirs p member).elim notDir (· isFile)⟩

theorem stat_eq_dir {server : FtpServer} {p : Bytes} : server.stat p = .dir ↔ p ∈ server.dirs := by
  unfold stat
  split_ifs with isDir <;> simp [isDir]

theorem stat_eq_noExists {server : FtpServer} {p : Bytes} (none : server.stat p = .noExists) :
    p ∉ server.dirs ∧ p ∉ server.files := by
  unfold stat at none
  split_ifs at none with isDir isFile
  exact ⟨isDir, isFile⟩

theorem stat_of_file {server : FtpServer} {p : Bytes} (isFile : p ∈ server.files)
    (notDir : p ∉ server.dirs) : server.stat p = .file := by
  simp [stat, isFile, notDir]

/-- `Mkdir` where nothing is grows the server by that directory. -/
theorem grows_mkdir {server : FtpServer} {p : Bytes} (none : server.stat p = .noExists) :
    server.Grows (server.mkdir p).2 ∧ p ∈ (server.mkdir p).2.dirs :=
  ⟨⟨fun _ member => List.mem_append_left _ member, fun _ => id, fun q member =>
      (List.mem_append.mp member).imp_right fun isNew => by
        rw [List.mem_singleton.mp isNew]
        exact (stat_eq_noExists none).2⟩,
    List.mem_append_right _ (List.mem_singleton_self _)⟩

end FtpServer

/-- `lazyStore` only adds a file, where nothing was. -/
theorem grows_lazyStore {server server' : FtpServer} {p : Bytes}
    (stored : FtpDriver.lazyStore server p = .ok server') :
    server.Grows server' ∧ p ∈ server'.files ∧ p ∉ server'.dirs := by
  unfold FtpDriver.lazyStore at stored
  split at stored
  · next none =>
    cases stored
    obtain ⟨notDir, _⟩ := FtpServer.stat_eq_noExists none
    exact ⟨⟨fun _ => id, fun _ member => List.mem_append_left _ member, fun _ member => .inl member⟩,
      List.mem_append_right _ (List.mem_singleton_self _), notDir⟩
  · cases stored
  · next isFile =>
    cases stored
    refine ⟨FtpServer.Grows.refl _, ?_, fun isDir => ?_⟩
    · unfold FtpServer.stat at isFile
      split_ifs at isFile with notDir found
      exact found
    · rw [FtpServer.stat_eq_dir.mpr isDir] at isFile
      cases isFile

/-! ## The loop of `mkdirs`

From a driver whose cache holds only directories of the server, what the
server says about a level decides what the loop does there: a level that is
not there is made, a file stops the loop, and a directory is passed, perhaps
cached. -/

namespace FtpDriver

theorem runMkdirsFrom_of_noExists {ftp : FtpDriver} {server : FtpServer}
    (cacheIn : ∀ l ∈ ftp.knownDirs, l ∈ server.dirs) {pwd d : Bytes} (dirs : List Bytes)
    (none : server.stat (joinPath pwd d) = .noExists) :
    ftp.runMkdirsFrom server pwd (d :: dirs) =
      ftp.runMkdirsFrom (server.mkdir (joinPath pwd d)).2 (joinPath pwd d) dirs := by
  have unknown : joinPath pwd d ∉ ftp.knownDirs :=
    fun known => (FtpServer.stat_eq_noExists none).1 (cacheIn _ known)
  simp only [runMkdirsFrom, if_neg unknown, none]
  rfl

theorem runMkdirsFrom_of_file {ftp : FtpDriver} {server : FtpServer}
    (cacheIn : ∀ l ∈ ftp.knownDirs, l ∈ server.dirs) {pwd d : Bytes} (dirs : List Bytes)
    (isFile : server.stat (joinPath pwd d) = .file) :
    ftp.runMkdirsFrom server pwd (d :: dirs) = (.error (errExistsAsFile (joinPath pwd d)), ftp, server) := by
  have unknown : joinPath pwd d ∉ ftp.knownDirs := fun known => by
    rw [FtpServer.stat_eq_dir.mpr (cacheIn _ known)] at isFile
    cases isFile
  simp only [runMkdirsFrom, if_neg unknown, isFile]

theorem runMkdirsFrom_of_dir {ftp : FtpDriver} {server : FtpServer}
    (cacheIn : ∀ l ∈ ftp.knownDirs, l ∈ server.dirs) {pwd d : Bytes} (dirs : List Bytes)
    (isDir : server.stat (joinPath pwd d) = .dir) :
    ∃ cached : FtpDriver, cached.root = ftp.root ∧ (∀ l ∈ cached.knownDirs, l ∈ server.dirs) ∧
      (∀ l ∈ cached.knownDirs, l ∈ ftp.knownDirs ∨ l = joinPath pwd d) ∧
      ftp.runMkdirsFrom server pwd (d :: dirs) = cached.runMkdirsFrom server (joinPath pwd d) dirs := by
  by_cases known : joinPath pwd d ∈ ftp.knownDirs
  · exact ⟨ftp, rfl, cacheIn, fun _ member => .inl member, by simp only [runMkdirsFrom, if_pos known]⟩
  · have made := FtpServer.stat_eq_dir.mp isDir
    refine ⟨{ ftp with knownDirs := ftp.knownDirs ++ [joinPath pwd d] }, rfl, fun l member => ?_,
      fun l member => by simpa using member, by simp only [runMkdirsFrom, if_neg known, isDir]⟩
    rcases List.mem_append.mp member with old | new
    · exact cacheIn l old
    · exact List.mem_singleton.mp new ▸ made

/-- What a run of the loop of `mkdirs` through the levels `walk`, to end in
`finish`, did from `ftp` and `server`: the server grew, the root stayed, and
for some first `n` levels, all of them when it returned, each is now a
directory and the cache gained only those. -/
structure WalkEffect (walk : List Bytes) (finish : Bytes) (ftp : FtpDriver) (server : FtpServer)
    (run : Except GoError Bytes × FtpDriver × FtpServer) : Prop where
  /-- The server grew. -/
  grows : server.Grows run.2.2
  /-- The root stayed. -/
  root : run.2.1.root = ftp.root
  /-- The levels it went through. -/
  passed : ∃ n, (∀ l ∈ walk.take n, l ∈ run.2.2.dirs) ∧
    (∀ l ∈ run.2.1.knownDirs, l ∈ ftp.knownDirs ∨ l ∈ walk.take n) ∧
    (∀ dir, run.1 = .ok dir → dir = finish ∧ n = walk.length)

theorem WalkEffect.stop (walk : List Bytes) (finish : Bytes) (ftp : FtpDriver) (server : FtpServer)
    (err : GoError) : WalkEffect walk finish ftp server (.error err, ftp, server) :=
  ⟨.refl _, rfl, 0, by simp, fun _ member => .inl member, fun _ ok => by cases ok⟩

theorem WalkEffect.cons {l finish : Bytes} {walk : List Bytes} {ftp ftp₁ : FtpDriver}
    {server server₁ : FtpServer} {run : Except GoError Bytes × FtpDriver × FtpServer}
    (grows : server.Grows server₁) (root : ftp₁.root = ftp.root) (made : l ∈ server₁.dirs)
    (cached : ∀ d ∈ ftp₁.knownDirs, d ∈ ftp.knownDirs ∨ d = l)
    (rest : WalkEffect walk finish ftp₁ server₁ run) : WalkEffect (l :: walk) finish ftp server run := by
  obtain ⟨n, passedDirs, passedCache, complete⟩ := rest.passed
  refine ⟨grows.trans rest.grows, rest.root.trans root, n + 1, ?_, fun d member => ?_, fun dir ok => ?_⟩
  · rw [List.take_succ_cons]
    exact List.forall_mem_cons.mpr ⟨rest.grows.dirs _ made, passedDirs⟩
  · rw [List.take_succ_cons]
    rcases passedCache d member with old | later
    · exact (cached d old).imp_right fun (same : d = l) => same ▸ List.mem_cons_self _ _
    · exact .inr (List.mem_cons_of_mem _ later)
  · obtain ⟨ends, all⟩ := complete dir ok
    exact ⟨ends, by rw [all, List.length_cons]⟩

/-- What the loop of `mkdirs` does, from a driver whose cache holds only
directories of the server. -/
theorem runMkdirsFrom_effect :
    ∀ {dirs : List Bytes} {ftp : FtpDriver} {server : FtpServer} {pwd : Bytes},
      (∀ l ∈ ftp.knownDirs, l ∈ server.dirs) →
      WalkEffect (walkLevels pwd dirs) (dirs.foldl joinPath pwd) ftp server (ftp.runMkdirsFrom server pwd dirs)
  | [], _, _, _, _ => ⟨.refl _, rfl, 0, by simp, fun _ member => .inl member, fun _ ok => by
      cases ok
      exact ⟨rfl, rfl⟩⟩
  | d :: dirs, ftp, server, pwd, cacheIn => by
    rcases stated : server.stat (joinPath pwd d) with _ | _ | _
    · obtain ⟨grows, made⟩ := FtpServer.grows_mkdir stated
      rw [runMkdirsFrom_of_noExists cacheIn dirs stated]
      exact .cons grows rfl made (fun _ member => .inl member)
        (runMkdirsFrom_effect fun l member => grows.dirs l (cacheIn l member))
    · obtain ⟨cached, root, cachedIn, cachedFrom, stepped⟩ := runMkdirsFrom_of_dir cacheIn dirs stated
      rw [stepped]
      exact .cons (.refl _) root (FtpServer.stat_eq_dir.mp stated) cachedFrom (runMkdirsFrom_effect cachedIn)
    · rw [runMkdirsFrom_of_file cacheIn dirs stated]
      exact .stop ..

/-- Two drivers whose caches hold only directories of the server run the loop
of `mkdirs` alike: the same answer, and the same server after it. -/
theorem runMkdirsFrom_transparent :
    ∀ {dirs : List Bytes} {ftp₁ ftp₂ : FtpDriver} {server : FtpServer} {pwd : Bytes},
      (∀ l ∈ ftp₁.knownDirs, l ∈ server.dirs) → (∀ l ∈ ftp₂.knownDirs, l ∈ server.dirs) →
      (ftp₁.runMkdirsFrom server pwd dirs).1 = (ftp₂.runMkdirsFrom server pwd dirs).1 ∧
        (ftp₁.runMkdirsFrom server pwd dirs).2.2 = (ftp₂.runMkdirsFrom server pwd dirs).2.2
  | [], _, _, _, _, _, _ => ⟨rfl, rfl⟩
  | d :: dirs, _, _, server, pwd, cacheIn₁, cacheIn₂ => by
    rcases stated : server.stat (joinPath pwd d) with _ | _ | _
    · obtain ⟨grows, -⟩ := FtpServer.grows_mkdir stated
      rw [runMkdirsFrom_of_noExists cacheIn₁ dirs stated, runMkdirsFrom_of_noExists cacheIn₂ dirs stated]
      exact runMkdirsFrom_transparent (fun l member => grows.dirs l (cacheIn₁ l member))
        (fun l member => grows.dirs l (cacheIn₂ l member))
    · obtain ⟨_, -, cachedIn₁, -, stepped₁⟩ := runMkdirsFrom_of_dir cacheIn₁ dirs stated
      obtain ⟨_, -, cachedIn₂, -, stepped₂⟩ := runMkdirsFrom_of_dir cacheIn₂ dirs stated
      rw [stepped₁, stepped₂]
      exact runMkdirsFrom_transparent cachedIn₁ cachedIn₂
    · rw [runMkdirsFrom_of_file cacheIn₁ dirs stated, runMkdirsFrom_of_file cacheIn₂ dirs stated]
      exact ⟨rfl, rfl⟩

/-- Through levels that are all directories, the loop of `mkdirs` leaves the
server as it is and ends in its last level. -/
theorem runMkdirsFrom_of_dirs :
    ∀ {dirs : List Bytes} {ftp : FtpDriver} {server : FtpServer} {pwd : Bytes},
      (∀ l ∈ ftp.knownDirs, l ∈ server.dirs) → (∀ l ∈ walkLevels pwd dirs, l ∈ server.dirs) →
      (ftp.runMkdirsFrom server pwd dirs).1 = .ok (dirs.foldl joinPath pwd) ∧
        (ftp.runMkdirsFrom server pwd dirs).2.2 = server
  | [], _, _, _, _, _ => ⟨rfl, rfl⟩
  | d :: dirs, _, _, pwd, cacheIn, allDirs => by
    have isDir := FtpServer.stat_eq_dir.mpr (allDirs (joinPath pwd d) (List.mem_cons_self _ _))
    obtain ⟨_, -, cachedIn, -, stepped⟩ := runMkdirsFrom_of_dir cacheIn dirs isDir
    rw [stepped]
    exact runMkdirsFrom_of_dirs cachedIn fun l member => allDirs l (List.mem_cons_of_mem _ member)

end FtpDriver

/-! ## The cache's promise -/

/-- The promise of the driver's cache of known directories: a cached directory
is where the walk of its levels ends, and each of those levels is a directory
on the server. -/
def KnownDirsSound (ftp : FtpDriver) (server : FtpServer) : Prop :=
  ∀ d ∈ ftp.knownDirs, levelsEnd d = d ∧ ∀ l ∈ levels d, l ∈ server.dirs

namespace KnownDirsSound

variable {ftp : FtpDriver} {server : FtpServer}

/-- A cached directory is a directory of the server. -/
theorem mem_dirs (sound : KnownDirsSound ftp server) : ∀ l ∈ ftp.knownDirs, l ∈ server.dirs :=
  fun l member =>
    let ⟨fixed, allDirs⟩ := sound l member
    allDirs l (by simpa only [fixed] using levelsEnd_mem_levels l)

theorem of_grows (sound : KnownDirsSound ftp server) {server' : FtpServer} (grows : server.Grows server') :
    KnownDirsSound ftp server' :=
  fun d member =>
    let ⟨fixed, allDirs⟩ := sound d member
    ⟨fixed, fun l inLevels => grows.dirs l (allDirs l inLevels)⟩

end KnownDirsSound

namespace FtpDriver

variable {ftp : FtpDriver} {server : FtpServer}

/-- What `mkdirs` does from a driver that keeps the cache's promise: a run of
the loop through the levels of the target directory `joinPath root dir`, which
the cached early return stands for. -/
theorem runMkdirs_effect (sound : KnownDirsSound ftp server) (dir : Bytes) :
    WalkEffect (levels (joinPath ftp.root dir)) (levelsEnd (joinPath ftp.root dir)) ftp server
      (ftp.runMkdirs server dir) := by
  simp only [runMkdirs]
  split_ifs with known
  · obtain ⟨fixed, allDirs⟩ := sound _ known
    refine ⟨.refl _, rfl, (levels (joinPath ftp.root dir)).length, ?_, fun _ member => .inl member,
      fun _ ok => ⟨?_, rfl⟩⟩
    · rw [List.take_length]
      exact allDirs
    · cases ok
      exact fixed.symm
  · exact runMkdirsFrom_effect sound.mem_dirs

/-- Where every level of the target directory is a directory, `mkdirs` leaves
the server as it is and answers where the walk of the levels ends. -/
theorem runMkdirs_of_dirs (sound : KnownDirsSound ftp server) (dir : Bytes)
    (allDirs : ∀ l ∈ levels (joinPath ftp.root dir), l ∈ server.dirs) :
    (ftp.runMkdirs server dir).1 = .ok (levelsEnd (joinPath ftp.root dir)) ∧
      (ftp.runMkdirs server dir).2.2 = server := by
  simp only [runMkdirs]
  split_ifs with known
  · exact ⟨congrArg Except.ok (sound _ known).1.symm, rfl⟩
  · exact runMkdirsFrom_of_dirs sound.mem_dirs allDirs

/-- `mkdirs` answers and leaves the server as it would with an empty cache. -/
theorem runMkdirs_transparent (sound : KnownDirsSound ftp server) (dir : Bytes) :
    (ftp.runMkdirs server dir).1 = ({ ftp with knownDirs := [] }.runMkdirs server dir).1 ∧
      (ftp.runMkdirs server dir).2.2 = ({ ftp with knownDirs := [] }.runMkdirs server dir).2.2 := by
  have empty : ({ ftp with knownDirs := [] } : FtpDriver).runMkdirs server dir =
      ({ ftp with knownDirs := [] } : FtpDriver).runMkdirsFrom server [] (splitSlash (joinPath ftp.root dir)) := by
    simp only [runMkdirs, List.not_mem_nil, if_false]
  rw [empty]
  simp only [runMkdirs]
  split_ifs with known
  · obtain ⟨fixed, allDirs⟩ := sound _ known
    obtain ⟨walked, same⟩ := @runMkdirsFrom_of_dirs _ { ftp with knownDirs := [] } server [] nofun allDirs
    exact ⟨walked.symm ▸ congrArg Except.ok fixed.symm, same.symm⟩
  · exact runMkdirsFrom_transparent sound.mem_dirs nofun

/-- Every call of `mkdirs` keeps the cache's promise: a level it caches is
one whose own levels it went through before it. -/
theorem runMkdirs_sound (sound : KnownDirsSound ftp server) (dir : Bytes) :
    KnownDirsSound (ftp.runMkdirs server dir).2.1 (ftp.runMkdirs server dir).2.2 := by
  have effect := runMkdirs_effect sound dir
  obtain ⟨n, passedDirs, passedCache, -⟩ := effect.passed
  intro d member
  rcases passedCache d member with old | new
  · exact (sound d old).imp_right fun allDirs l inLevels => effect.grows.dirs l (allDirs l inLevels)
  · obtain ⟨pre, post, front⟩ := List.append_of_mem new
    have whole : levels (joinPath ftp.root dir) = pre ++ d :: (post ++ (levels (joinPath ftp.root dir)).drop n) :=
      calc levels (joinPath ftp.root dir)
          = (levels (joinPath ftp.root dir)).take n ++ (levels (joinPath ftp.root dir)).drop n :=
            (List.take_append_drop n _).symm
        _ = pre ++ d :: (post ++ (levels (joinPath ftp.root dir)).drop n) := by rw [front]; simp
    obtain ⟨fixed, before⟩ := levels_of_level (joinPath_clean ftp.root dir) whole
    refine ⟨fixed, fun l inLevels => passedDirs l ?_⟩
    rw [front]
    rcases before l inLevels with earlier | rfl
    · exact List.mem_append_left _ earlier
    · exact List.mem_append_right _ (List.mem_cons_self _ _)

end FtpDriver

/-! ## A call of `SetDedupedBlock` -/

namespace FtpDriver

variable {ftp : FtpDriver} {server : FtpServer}

/-- A call of `SetDedupedBlock` from a driver that keeps the cache's promise
keeps it, keeps the root, and only grows the server. -/
theorem runSetDedupedBlock_step (sound : KnownDirsSound ftp server) (hash : Bytes) :
    KnownDirsSound (ftp.runSetDedupedBlock server hash).2.1 (ftp.runSetDedupedBlock server hash).2.2 ∧
      (ftp.runSetDedupedBlock server hash).2.1.root = ftp.root ∧
      server.Grows (ftp.runSetDedupedBlock server hash).2.2 := by
  unfold runSetDedupedBlock
  rcases hashAsDirAndFile hash with _ | ⟨dir, file⟩
  · exact ⟨sound, rfl, .refl _⟩
  · have effect := runMkdirs_effect sound dir
    have kept := runMkdirs_sound sound dir
    dsimp only
    generalize ftp.runMkdirs server dir = made at effect kept ⊢
    rcases made with ⟨_ | made, ftp', server'⟩
    · exact ⟨kept, effect.root, effect.grows⟩
    · dsimp only
      rcases stored : lazyStore server' (joinPath made file) with _ | server''
      · exact ⟨kept, effect.root, effect.grows⟩
      · obtain ⟨grows, -, -⟩ := grows_lazyStore stored
        exact ⟨kept.of_grows grows, effect.root, effect.grows.trans grows⟩

/-- A call of `SetDedupedBlock` answers and leaves the server as it would with
an empty cache. -/
theorem runSetDedupedBlock_transparent (sound : KnownDirsSound ftp server) (hash : Bytes) :
    (ftp.runSetDedupedBlock server hash).1 = ({ ftp with knownDirs := [] }.runSetDedupedBlock server hash).1 ∧
      (ftp.runSetDedupedBlock server hash).2.2 =
        ({ ftp with knownDirs := [] }.runSetDedupedBlock server hash).2.2 := by
  unfold runSetDedupedBlock
  rcases hashAsDirAndFile hash with _ | ⟨dir, file⟩
  · exact ⟨rfl, rfl⟩
  · obtain ⟨sameAnswer, sameServer⟩ := runMkdirs_transparent sound dir
    dsimp only
    generalize ftp.runMkdirs server dir = made₁ at sameAnswer sameServer ⊢
    generalize ({ ftp with knownDirs := [] } : FtpDriver).runMkdirs server dir = made₂ at sameAnswer sameServer ⊢
    obtain ⟨answer, ftp₁, server₁⟩ := made₁
    obtain ⟨_, ftp₂, _⟩ := made₂
    dsimp only at sameAnswer sameServer
    subst sameAnswer sameServer
    rcases answer with _ | made
    · exact ⟨rfl, rfl⟩
    · dsimp only
      cases lazyStore server₁ (joinPath made file) <;> exact ⟨rfl, rfl⟩

/-- What a call of `SetDedupedBlock` that answers a path did: the hash named a
directory and a file, every level of the directory is now a directory, and the
path, where the walk of those levels ends joined with the file, is a file and
not a directory. -/
theorem runSetDedupedBlock_ok (sound : KnownDirsSound ftp server) {hash p : Bytes}
    (stored : (ftp.runSetDedupedBlock server hash).1 = .ok p) :
    ∃ dir file, hashAsDirAndFile hash = some (dir, file) ∧
      p = joinPath (levelsEnd (joinPath ftp.root dir)) file ∧
      (∀ l ∈ levels (joinPath ftp.root dir), l ∈ (ftp.runSetDedupedBlock server hash).2.2.dirs) ∧
      p ∈ (ftp.runSetDedupedBlock server hash).2.2.files ∧ p ∉ (ftp.runSetDedupedBlock server hash).2.2.dirs := by
  unfold runSetDedupedBlock at stored ⊢
  rcases named : hashAsDirAndFile hash with _ | ⟨dir, file⟩
  · rw [named] at stored
    cases stored
  · refine ⟨dir, file, rfl, ?_⟩
    rw [named] at stored
    have effect := runMkdirs_effect sound dir
    dsimp only at stored ⊢
    generalize ftp.runMkdirs server dir = made at effect stored ⊢
    rcases made with ⟨_ | made, ftp', server'⟩
    · cases stored
    · obtain ⟨n, passedDirs, -, complete⟩ := effect.passed
      obtain ⟨ends, all⟩ := complete made rfl
      dsimp only at stored ⊢
      rcases storedAt : lazyStore server' (joinPath made file) with _ | server''
      · rw [storedAt] at stored
        cases stored
      · rw [storedAt] at stored
        cases stored
        obtain ⟨grows, isFile, notDir⟩ := grows_lazyStore storedAt
        rw [all, List.take_length] at passedDirs
        exact ⟨by rw [ends], fun l inLevels => grows.dirs l (passedDirs l inLevels), isFile, notDir⟩

end FtpDriver

/-! ## Runs of `SetDedupedBlock` -/

/-- `SetDedupedBlock(hash)` as a step of the driver and its server: the state
it leaves, whether it succeeds or not. -/
def storeStep (state : FtpDriver × FtpServer) (hash : Bytes) : FtpDriver × FtpServer :=
  (state.1.runSetDedupedBlock state.2 hash).2

/-- The states of the driver and its server that runs of `SetDedupedBlock`
reach from a driver `FTPDriver` returns, whose cache is empty, on any
server. -/
def StoreReachable : FtpDriver × FtpServer → Prop :=
  Reachable (fun state => state.1.knownDirs = []) fun state hash => some (storeStep state hash)

/-- The answers of a run of `SetDedupedBlock` calls, and the state it
leaves. -/
def storeRun : FtpDriver × FtpServer → List Bytes → List (Except GoError Bytes) × (FtpDriver × FtpServer)
  | state, [] => ([], state)
  | state, hash :: hashes =>
    let rest := storeRun (storeStep state hash) hashes
    ((state.1.runSetDedupedBlock state.2 hash).1 :: rest.1, rest.2)

/-- The same calls by a driver under `root` that caches nothing: every call
starts from an empty cache. -/
def plainRun (root : Bytes) : FtpServer → List Bytes → List (Except GoError Bytes) × FtpServer
  | server, [] => ([], server)
  | server, hash :: hashes =>
    let run := (⟨root, []⟩ : FtpDriver).runSetDedupedBlock server hash
    let rest := plainRun root run.2.2 hashes
    (run.1 :: rest.1, rest.2)

/-- Every reachable state keeps the cache's promise. -/
theorem StoreReachable.sound {state : FtpDriver × FtpServer} (reachable : StoreReachable state) :
    KnownDirsSound state.1 state.2 := by
  induction reachable with
  | start empty =>
    intro d member
    rw [empty] at member
    cases member
  | next hash _ stepped sound =>
    cases stepped
    exact (FtpDriver.runSetDedupedBlock_step sound hash).1

theorem StoreReachable.foldl {state : FtpDriver × FtpServer} (reachable : StoreReachable state)
    (hashes : List Bytes) : StoreReachable (hashes.foldl storeStep state) := by
  induction hashes generalizing state with
  | nil => exact reachable
  | cons hash hashes ih => exact ih (.next hash reachable rfl)

/-- From a reachable state, a run of stores answers and leaves the server as
the same calls by a driver that caches nothing. -/
theorem storeRun_eq_plainRun {state : FtpDriver × FtpServer} (reachable : StoreReachable state)
    (hashes : List Bytes) :
    (storeRun state hashes).1 = (plainRun state.1.root state.2 hashes).1 ∧
      (storeRun state hashes).2.2 = (plainRun state.1.root state.2 hashes).2 := by
  induction hashes generalizing state with
  | nil => exact ⟨rfl, rfl⟩
  | cons hash hashes ih =>
    obtain ⟨sameAnswer, sameServer⟩ := FtpDriver.runSetDedupedBlock_transparent reachable.sound hash
    obtain ⟨-, sameRoot, -⟩ := FtpDriver.runSetDedupedBlock_step reachable.sound hash
    obtain ⟨restAnswers, restServer⟩ := ih (.next hash reachable rfl)
    simp only [storeRun, plainRun, storeStep] at restAnswers restServer ⊢
    rw [sameRoot, sameServer] at restAnswers restServer
    exact ⟨by rw [sameAnswer, restAnswers], restServer⟩

/-- The cache of known directories changes nothing that can be seen. From a
driver `FTPDriver` returns under any root, on any server, every run of
`SetDedupedBlock` calls answers every call as a driver that caches nothing
would, and leaves the server as it would: the driver never skips a
directory it needs, and never stores a block elsewhere because of what it
cached. -/
theorem ftp_cache_is_transparent (root : Bytes) (server : FtpServer) (hashes : List Bytes) :
    (storeRun (⟨root, []⟩, server) hashes).1 = (plainRun root server hashes).1 ∧
      (storeRun (⟨root, []⟩, server) hashes).2.2 = (plainRun root server hashes).2 :=
  storeRun_eq_plainRun (.start rfl) hashes

/-- A block of `hash` is stored at `p`: every level of the directory the hash
names is a directory, and `p`, where the walk of those levels ends joined with
the file the hash names, is a file and not a directory. -/
structure BlockStored (hash p : Bytes) (state : FtpDriver × FtpServer) : Prop where
  /-- Where the hash puts the block. -/
  named : ∃ dir file, hashAsDirAndFile hash = some (dir, file) ∧
    p = joinPath (levelsEnd (joinPath state.1.root dir)) file ∧
    ∀ l ∈ levels (joinPath state.1.root dir), l ∈ state.2.dirs
  /-- A file is there. -/
  isFile : p ∈ state.2.files
  /-- No directory is there. -/
  notDir : p ∉ state.2.dirs

/-- Every call of `SetDedupedBlock` keeps a stored block stored. -/
theorem BlockStored.step {hash p : Bytes} {state : FtpDriver × FtpServer}
    (stored : BlockStored hash p state) (sound : KnownDirsSound state.1 state.2) (hash' : Bytes) :
    BlockStored hash p (storeStep state hash') := by
  obtain ⟨-, sameRoot, grows⟩ := FtpDriver.runSetDedupedBlock_step sound hash'
  obtain ⟨dir, file, named, at_, allDirs⟩ := stored.named
  obtain ⟨isFile, notDir⟩ := grows.file stored.isFile stored.notDir
  refine ⟨⟨dir, file, named, ?_, fun l inLevels => ?_⟩, isFile, notDir⟩
  · rw [storeStep, sameRoot]
    exact at_
  · rw [storeStep, sameRoot] at inLevels
    exact grows.dirs l (allDirs l inLevels)

/-- Storing a stored block again answers where it is and changes nothing. -/
theorem FtpDriver.runSetDedupedBlock_of_stored {hash p : Bytes} {state : FtpDriver × FtpServer}
    (stored : BlockStored hash p state) (sound : KnownDirsSound state.1 state.2) :
    (state.1.runSetDedupedBlock state.2 hash).1 = .ok p ∧
      (state.1.runSetDedupedBlock state.2 hash).2.2 = state.2 := by
  obtain ⟨dir, file, named, at_, allDirs⟩ := stored.named
  obtain ⟨made, same⟩ := FtpDriver.runMkdirs_of_dirs sound dir allDirs
  unfold FtpDriver.runSetDedupedBlock
  rw [named]
  dsimp only
  generalize state.1.runMkdirs state.2 dir = run at made same ⊢
  obtain ⟨answer, ftp', server'⟩ := run
  dsimp only at made same
  subst made same
  dsimp only
  rw [← at_, FtpDriver.lazyStore, FtpServer.stat_of_file stored.isFile stored.notDir]
  exact ⟨rfl, rfl⟩

/-- Storing is idempotent over whole runs. In every state a run of
`SetDedupedBlock` reaches from a driver `FTPDriver` returns, on any server, a
call that answers a path `p` leaves a file at `p`; and after any further
calls, for any hashes, storing the same hash again answers `p` and changes
nothing on the server. -/
theorem ftp_store_is_idempotent {state : FtpDriver × FtpServer} (reachable : StoreReachable state)
    {hash p : Bytes} (stored : (state.1.runSetDedupedBlock state.2 hash).1 = .ok p) (hashes : List Bytes) :
    p ∈ (storeStep state hash).2.files ∧
      let later := hashes.foldl storeStep (storeStep state hash)
      (later.1.runSetDedupedBlock later.2 hash).1 = .ok p ∧ (later.1.runSetDedupedBlock later.2 hash).2.2 = later.2 := by
  obtain ⟨dir, file, named, at_, allDirs, isFile, notDir⟩ :=
    FtpDriver.runSetDedupedBlock_ok reachable.sound stored
  obtain ⟨-, sameRoot, -⟩ := FtpDriver.runSetDedupedBlock_step reachable.sound hash
  have first : BlockStored hash p (storeStep state hash) := by
    refine ⟨⟨dir, file, named, ?_, ?_⟩, isFile, notDir⟩ <;> rw [storeStep, sameRoot]
    exacts [at_, allDirs]
  have stays : ∀ (hashes : List Bytes) {state : FtpDriver × FtpServer}, StoreReachable state →
      BlockStored hash p state → BlockStored hash p (hashes.foldl storeStep state) := by
    intro hashes
    induction hashes with
    | nil => exact fun _ => id
    | cons hash' hashes ih =>
      exact fun reachable stored => ih (.next hash' reachable rfl) (stored.step reachable.sound hash')
  have next : StoreReachable (storeStep state hash) := .next hash reachable rfl
  exact ⟨isFile, FtpDriver.runSetDedupedBlock_of_stored (stays hashes next first) (next.foldl hashes).sound⟩

/-- A driver under the root `backup` on an empty server. -/
def backupStart : FtpDriver × FtpServer := (⟨ascii "backup", []⟩, ⟨[], []⟩)

/-- Where that driver stores the block of `letterHash`. -/
def backupLetterPath : Bytes := ascii "backup/aa/aa/" ++ List.replicate 28 97

/-- Under the root `backup` on an empty server, the block of `letterHash` is
stored at `backup/aa/aa/…`; after a store of `slashInDirHash`, storing it
again answers the same path and changes nothing. -/
theorem ftp_store_is_idempotent_backup :
    StoreReachable backupStart ∧
      (backupStart.1.runSetDedupedBlock backupStart.2 letterHash).1 = .ok backupLetterPath ∧
      (backupLetterPath ∈ (storeStep backupStart letterHash).2.files ∧
        let later := [slashInDirHash].foldl storeStep (storeStep backupStart letterHash)
        (later.1.runSetDedupedBlock later.2 letterHash).1 = .ok backupLetterPath ∧
          (later.1.runSetDedupedBlock later.2 letterHash).2.2 = later.2) :=
  ⟨.start rfl, rfl, @ftp_store_is_idempotent backupStart (.start rfl) letterHash backupLetterPath rfl [slashInDirHash]⟩

end Backup
end Zerodisk
