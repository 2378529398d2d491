import Mathlib.Data.List.Sort
import TelegramBotApi.WorkdirCleanup

/-!
# Cleanup runs beside the streams

A cleanup run lists the files of the working directory once and then deletes them one after the other,
the least recently used first. The cleanup manager takes no messages meanwhile, while the streams go on.
A file is spared if the table of the files in use has it, so a file whose `retain_file` is still on its
way can be deleted under its stream. The counters that a run only reports are left out.
-/

namespace TelegramBotApi

/-- The limits of a cleanup, within the bounds that the server checks when it starts. -/
structure WorkdirCleanupConfig where
  thresholdBytes : Int := 20 * 2 ^ 30
  targetBytes : Int := 15 * 2 ^ 30
  fileTtl : Int := 86400
  target_nonneg : 0 ≤ targetBytes := by decide
  target_lt : targetBytes < thresholdBytes := by decide

/-- What the walk and `stat` say about one path; times are in nanoseconds. -/
structure WorkdirFile where
  path : Slice
  isRegularFile : Bool := true
  /-- The size and the access time; `none` if `stat` fails or finds no regular file. -/
  stat : Option (Int × Nat)

structure CleanupCandidate where
  path : Slice
  size : Int
  accessTime : Nat

structure CleanupScan where
  scannedBytes : Int := 0
  candidates : List CleanupCandidate := []

structure CleanupRun where
  now : Nat
  thresholdCleanup : Bool
  remaining : Int
  candidates : List CleanupCandidate

/-- `delete_workdir_file_with_retries`; the result of an attempt depends on its number. -/
def deleteWorkdirFileWithRetries (path : Slice) (deleteFile : Slice → Nat → Bool) (maxRetries : Nat) : Bool :=
  (List.range (maxRetries + 1)).any (deleteFile path)

namespace WorkdirCleanupManager

variable (config : WorkdirCleanupConfig) (m : WorkdirCleanupManager)

def isActive (path : Slice) : Bool :=
  match m.activeFiles.lookup path with
  | none => false
  | some n => 0 < n

/-- The callback of the walk. -/
def visit (scan : CleanupScan) (file : WorkdirFile) : CleanupScan :=
  if ¬ file.isRegularFile ∨ ¬ isWorkdirCleanupCandidate m.workdir file.path then scan
  else match file.stat with
    | none => scan
    | some (size, accessTime) =>
      let scan := { scan with scannedBytes := scan.scannedBytes + max 0 size }
      if m.isActive file.path then scan
      else { scan with candidates := scan.candidates ++ [⟨file.path, max 0 size, accessTime⟩] }

/-- The first half of `run_workdir_cleanup`. The order of the walk is arbitrary, and so is the order of
files with the same access time. -/
def beginCleanup (now : Nat) (files : List WorkdirFile) : CleanupRun :=
  let scan := files.foldl m.visit {}
  { now := now
    thresholdCleanup := 0 < config.thresholdBytes ∧ config.thresholdBytes ≤ scan.scannedBytes
    remaining := scan.scannedBytes
    candidates := scan.candidates.insertionSort fun left right => left.accessTime ≤ right.accessTime }

end WorkdirCleanupManager

namespace CleanupRun

variable (config : WorkdirCleanupConfig) (m : WorkdirCleanupManager) (run : CleanupRun)

def mustReduce : Bool := run.thresholdCleanup && config.targetBytes < run.remaining

/-- The nanoseconds of `file_ttl_`, computed in 64 bits. -/
def ttlNsec : Nat := if 0 < config.fileTtl then config.fileTtl.toNat * 1000000000 % 2 ^ 64 else 0

def expired (candidate : CleanupCandidate) : Bool :=
  0 < ttlNsec config && candidate.accessTime ≤ run.now && ttlNsec config ≤ run.now - candidate.accessTime

def isDue (candidate : CleanupCandidate) : Bool :=
  (run.mustReduce config || run.expired config candidate) && !m.isActive candidate.path

def deletes (deleteFile : Slice → Nat → Bool) : Option Slice :=
  match run.candidates with
  | [] => none
  | candidate :: _ =>
    if run.isDue config m candidate && deleteWorkdirFileWithRetries candidate.path deleteFile 3 then
      some candidate.path
    else none

/-- One round of the loop of `run_workdir_cleanup`. -/
def next (deleteFile : Slice → Nat → Bool) : CleanupRun :=
  match run.candidates with
  | [] => run
  | candidate :: rest =>
    if ¬ run.isDue config m candidate then { run with candidates := rest }
    else if ¬ deleteWorkdirFileWithRetries candidate.path deleteFile 3 then { run with candidates := [] }
    else { run with remaining := run.remaining - candidate.size, candidates := rest }

end CleanupRun

/-- The streams, the cleanup manager and the cleanup that it is at. -/
structure CleaningSystem extends WorkdirSystem where
  cleanup : Option CleanupRun := none

namespace CleaningSystem

inductive Event where
  | create (setup : FileStreamSetup)
  | stream (i : Nat) (x : StreamInput)
  | deliver (i : Nat)
  | beginCleanup (now : Nat) (files : List WorkdirFile)
  | cleanNext (deleteFile : Slice → Nat → Bool)

variable (config : WorkdirCleanupConfig) (s : CleaningSystem)

def deletes : Event → Option Slice
  | .cleanNext deleteFile => s.cleanup.bind fun run => run.deletes config s.manager deleteFile
  | _ => none

/-- The cleanup manager takes messages and begins cleanups only between cleanups. -/
def step (s : CleaningSystem) : Event → CleaningSystem
  | .create setup => { s with toWorkdirSystem := s.toWorkdirSystem.create setup }
  | .stream i x => { s with toWorkdirSystem := s.toWorkdirSystem.streamStep i x }
  | .deliver i =>
    match s.cleanup with
    | none => { s with toWorkdirSystem := s.toWorkdirSystem.deliver i }
    | some _ => s
  | .beginCleanup now files =>
    match s.cleanup with
    | none => { s with cleanup := some (s.manager.beginCleanup config now files) }
    | some _ => s
  | .cleanNext deleteFile =>
    match s.cleanup with
    | none => s
    | some run =>
      match run.candidates with
      | [] => { s with cleanup := none }
      | _ :: _ => { s with cleanup := some (run.next config s.manager deleteFile) }

/-- The event deletes no file of a live stream. -/
def Spares (e : Event) : Prop :=
  ∀ path, s.deletes config e = some path → ∀ a ∈ s.streams, a.serves path = false

/-- The manager has handled `retain_file`, and not yet `release_file`, of some stream for every file that
a live stream serves. -/
def Announced : Prop :=
  ∀ a ∈ s.streams, ∀ path, a.serves path = true → isWorkdirCleanupCandidate s.manager.workdir path = true →
    ∃ b ∈ s.streams, b.channel.counted = some path

/-- A cleanup goes on only while the files in use are announced. -/
def CleansAnnounced (s : CleaningSystem) : Event → Prop
  | .cleanNext _ => s.Announced
  | _ => True

variable {config s}

theorem isActive_iff {t : WorkdirSystem} (ht : t.Tracked) (path : Slice) :
    t.manager.isActive path = true ↔ isWorkdirCleanupCandidate t.manager.workdir path = true ∧
      ∃ b ∈ t.streams, b.channel.counted = some path := by
  have hmem : (∃ b ∈ t.streams, b.channel.counted = some path) ↔
      t.streams.countP (fun a => a.channel.counted = some path) ≠ 0 := by
    rw [← Nat.pos_iff_ne_zero, List.countP_pos_iff]
    simp only [decide_eq_true_eq]
  unfold WorkdirCleanupManager.isActive
  rw [hmem, ht.lookup_eq]
  by_cases hused : isWorkdirCleanupCandidate t.manager.workdir path = true ∧
      t.streams.countP (fun a => a.channel.counted = some path) ≠ 0
  · rw [if_pos hused]
    refine iff_of_true (decide_eq_true ?_) hused
    exact Int.natCast_pos.2 (Nat.pos_of_ne_zero hused.2)
  · rw [if_neg hused]
    exact iff_of_false Bool.false_ne_true hused

theorem mem_visit {m : WorkdirCleanupManager} {scan : CleanupScan} {file : WorkdirFile}
    {c : CleanupCandidate} (hc : c ∈ (m.visit scan file).candidates) :
    c ∈ scan.candidates ∨ isWorkdirCleanupCandidate m.workdir c.path = true := by
  unfold WorkdirCleanupManager.visit at hc
  by_cases hfile : ¬ file.isRegularFile ∨ ¬ isWorkdirCleanupCandidate m.workdir file.path
  · rw [if_pos hfile] at hc
    exact Or.inl hc
  · rw [if_neg hfile] at hc
    obtain ⟨-, hcandidate⟩ := not_or.1 hfile
    split at hc
    · exact Or.inl hc
    · dsimp only at hc
      split_ifs at hc
      · exact Or.inl hc
      · rcases List.mem_append.1 hc with hc | hc
        · exact Or.inl hc
        · rw [List.mem_singleton.1 hc]
          exact Or.inr (not_not.1 hcandidate)

theorem mem_foldl_visit {m : WorkdirCleanupManager} {files : List WorkdirFile} {scan : CleanupScan}
    {c : CleanupCandidate} (hc : c ∈ (files.foldl m.visit scan).candidates) :
    c ∈ scan.candidates ∨ isWorkdirCleanupCandidate m.workdir c.path = true := by
  induction files generalizing scan with
  | nil => exact Or.inl hc
  | cons file files ih =>
      rcases ih hc with hc | hc
      · exact mem_visit hc
      · exact Or.inr hc

/-- A cleanup looks only at candidates. -/
theorem mem_beginCleanup {m : WorkdirCleanupManager} {now : Nat} {files : List WorkdirFile}
    {c : CleanupCandidate} (hc : c ∈ (m.beginCleanup config now files).candidates) :
    isWorkdirCleanupCandidate m.workdir c.path = true := by
  rcases mem_foldl_visit ((List.mem_insertionSort _).1 hc) with hc | hc
  · cases hc
  · exact hc

theorem mem_next {m : WorkdirCleanupManager} {run : CleanupRun} {deleteFile : Slice → Nat → Bool}
    {c : CleanupCandidate} (hc : c ∈ (run.next config m deleteFile).candidates) : c ∈ run.candidates := by
  unfold CleanupRun.next at hc
  split at hc
  · exact hc
  · rename_i candidate rest hcandidates
    rw [hcandidates]
    split_ifs at hc
    · exact List.mem_cons_of_mem _ hc
    · cases hc
    · exact List.mem_cons_of_mem _ hc

theorem deletes_inv {m : WorkdirCleanupManager} {run : CleanupRun} {deleteFile : Slice → Nat → Bool}
    {path : Slice} (h : run.deletes config m deleteFile = some path) :
    (∃ c ∈ run.candidates, c.path = path) ∧ m.isActive path = false := by
  unfold CleanupRun.deletes at h
  split at h
  · cases h
  · rename_i candidate rest hcandidates
    split_ifs at h with hdue
    obtain rfl := Option.some.inj h
    refine ⟨⟨candidate, hcandidates ▸ List.mem_cons_self, rfl⟩, ?_⟩
    unfold CleanupRun.isDue at hdue
    simp only [Bool.and_eq_true, Bool.not_eq_true'] at hdue
    exact hdue.1.2

/-- The table is right, and the cleanup looks only at candidates. -/
structure Sound (workdir : Slice) (s : CleaningSystem) : Prop where
  tracked : s.toWorkdirSystem.Tracked
  sameWorkdir : s.manager.workdir = workdir
  candidates : ∀ run, s.cleanup = some run → ∀ c ∈ run.candidates,
    isWorkdirCleanupCandidate workdir c.path = true

theorem sound_init (workdir : Slice) : Sound workdir { manager := { workdir := workdir } } where
  tracked := WorkdirSystem.tracked_init workdir
  sameWorkdir := rfl
  candidates run h := by cases h

theorem Sound.system {workdir : Slice} (h : Sound workdir s) (e : WorkdirSystem.Event) :
    Sound workdir { s with toWorkdirSystem := s.toWorkdirSystem.step e } where
  tracked := h.tracked.step e
  sameWorkdir := (WorkdirSystem.step_workdir _ e).trans h.sameWorkdir
  candidates := h.candidates

theorem Sound.step {workdir : Slice} (h : Sound workdir s) (e : Event) :
    Sound workdir (CleaningSystem.step config s e) := by
  cases e with
  | create setup => exact h.system (.create setup)
  | stream i x => exact h.system (.stream i x)
  | deliver i =>
      dsimp only [CleaningSystem.step]
      split
      · exact h.system (.deliver i)
      · exact h
  | beginCleanup now files =>
      dsimp only [CleaningSystem.step]
      split
      · refine ⟨h.tracked, h.sameWorkdir, fun run hrun c hc => ?_⟩
        obtain rfl := Option.some.inj hrun
        rw [← h.sameWorkdir]
        exact mem_beginCleanup hc
      · exact h
  | cleanNext deleteFile =>
      dsimp only [CleaningSystem.step]
      split
      · exact h
      · rename_i run hrun
        split
        · exact ⟨h.tracked, h.sameWorkdir, fun _ hrun => by cases hrun⟩
        · refine ⟨h.tracked, h.sameWorkdir, fun run' hrun' c hc => ?_⟩
          obtain rfl := Option.some.inj hrun'
          exact h.candidates run hrun c (mem_next hc)

theorem Sound.spares {workdir : Slice} (h : Sound workdir s) {e : Event} (hok : s.CleansAnnounced e) :
    s.Spares config e := by
  intro path hpath a ha
  cases e with
  | cleanNext deleteFile =>
      obtain ⟨run, hrun, hdeletes⟩ := Option.bind_eq_some_iff.1 hpath
      obtain ⟨⟨c, hc, rfl⟩, hinactive⟩ := deletes_inv hdeletes
      have hcandidate := h.candidates run hrun c hc
      rw [← h.sameWorkdir] at hcandidate
      by_contra hserves
      have hknown := hok a ha c.path (Bool.eq_true_of_not_eq_false hserves) hcandidate
      rw [(isActive_iff h.tracked c.path).2 ⟨hcandidate, hknown⟩] at hinactive
      cases hinactive
  | create setup => cases hpath
  | stream i x => cases hpath
  | deliver i => cases hpath
  | beginCleanup now files => cases hpath

theorem spares_of_cleansAnnounced {workdir : Slice} (h : Sound workdir s) {events : List Event}
    (hok : StepRun.AllSteps (step config) CleansAnnounced s events) :
    StepRun.AllSteps (step config) (Spares config) s events :=
  StepRun.AllSteps.imp (I := Sound workdir) (fun _ e h _ => h.step e) (fun _ _ h hok => h.spares hok) h hok

/-- A cleanup that lists just one large file, which is not in use. -/
theorem deletes_oversized {m : WorkdirCleanupManager} {path : Slice}
    (hcandidate : isWorkdirCleanupCandidate m.workdir path = true) (hinactive : m.isActive path = false) :
    (m.beginCleanup config 0 [⟨path, true, some (config.thresholdBytes, 0)⟩]).deletes config m
      (fun _ _ => true) = some path := by
  have hnonneg := config.target_nonneg
  have hlt := config.target_lt
  have hmax : max 0 config.thresholdBytes = config.thresholdBytes := max_eq_right (by omega)
  have hscan : m.visit {} ⟨path, true, some (config.thresholdBytes, 0)⟩ =
      { scannedBytes := config.thresholdBytes, candidates := [⟨path, config.thresholdBytes, 0⟩] } := by
    unfold WorkdirCleanupManager.visit
    simp [hcandidate, hinactive, hmax]
  have hrun : m.beginCleanup config 0 [⟨path, true, some (config.thresholdBytes, 0)⟩] =
      { now := 0, thresholdCleanup := true, remaining := config.thresholdBytes
        candidates := [⟨path, config.thresholdBytes, 0⟩] } := by
    unfold WorkdirCleanupManager.beginCleanup
    rw [List.foldl_cons, List.foldl_nil, hscan]
    have hthreshold : 0 < config.thresholdBytes ∧ config.thresholdBytes ≤ config.thresholdBytes :=
      ⟨by omega, le_refl _⟩
    simp only [decide_eq_true hthreshold]
    rfl
  have hdue : CleanupRun.isDue config m ⟨0, true, config.thresholdBytes,
      [⟨path, config.thresholdBytes, 0⟩]⟩ ⟨path, config.thresholdBytes, 0⟩ = true := by
    unfold CleanupRun.isDue CleanupRun.mustReduce
    simp [hinactive, hlt]
  have hdelete : deleteWorkdirFileWithRetries path (fun _ _ => true) 3 = true := rfl
  rw [hrun]
  unfold CleanupRun.deletes
  simp only [hdue, hdelete]
  rfl

/-- A file in use that is not announced can be deleted. -/
theorem Sound.announced_of_spares {workdir : Slice} (h : Sound workdir s) (hidle : s.cleanup = none)
    (hspares : ∀ (now : Nat) (files : List WorkdirFile) (outcomes : List (Slice → Nat → Bool)),
      StepRun.AllSteps (CleaningSystem.step config) (Spares config) s
        (.beginCleanup now files :: outcomes.map .cleanNext)) :
    s.Announced := by
  intro a ha path hserves hcandidate
  by_contra hunknown
  have hinactive : s.manager.isActive path = false := by
    rw [← Bool.not_eq_true, isActive_iff h.tracked]
    exact fun hactive => hunknown hactive.2
  have hall := hspares 0 [⟨path, true, some (config.thresholdBytes, 0)⟩] [fun _ _ => true]
  have hdelete := hall.2.1
  have hbusy : s.step config (.beginCleanup 0 [⟨path, true, some (config.thresholdBytes, 0)⟩]) =
      { s with cleanup := some (s.manager.beginCleanup config 0
        [⟨path, true, some (config.thresholdBytes, 0)⟩]) } := by
    simp only [CleaningSystem.step, hidle]
  rw [hbusy] at hdelete
  have hserves' := hdelete path (deletes_oversized hcandidate hinactive) a ha
  rw [hserves] at hserves'
  cases hserves'

/-- Without messages in between, a cleanup leaves the streams as they are. -/
theorem cleansAnnounced_alone (hannounced : s.Announced) (outcomes : List (Slice → Nat → Bool)) :
    StepRun.AllSteps (step config) CleansAnnounced s (outcomes.map .cleanNext) := by
  induction outcomes generalizing s with
  | nil => trivial
  | cons deleteFile outcomes ih =>
      refine ⟨hannounced, ih ?_⟩
      dsimp only [step]
      split
      · exact hannounced
      · split
        · exact hannounced
        · exact hannounced

/-- Cleanups spare the files of live streams as long as they go on only while these files are announced,
and a cleanup can begin safely in no other state. -/
theorem cleanup_spares_announced (config : WorkdirCleanupConfig) (workdir : Slice) (events : List Event) :
    let start : CleaningSystem := { manager := { workdir := workdir } }
    let s := StepRun.run (step config) start events
    (StepRun.AllSteps (step config) CleansAnnounced start events →
      StepRun.AllSteps (step config) (Spares config) start events) ∧
    (s.cleanup = none →
      ((∀ (now : Nat) (files : List WorkdirFile) (outcomes : List (Slice → Nat → Bool)),
        StepRun.AllSteps (step config) (Spares config) s
          (.beginCleanup now files :: outcomes.map .cleanNext)) ↔ s.Announced)) := by
  intro start s
  have hs : Sound workdir s := StepRun.run_invariant_always (I := Sound workdir)
    (fun s e h => h.step e) (sound_init workdir) events
  refine ⟨fun hok => ?_, fun hidle => ⟨hs.announced_of_spares hidle, fun hannounced => ?_⟩⟩
  · exact spares_of_cleansAnnounced (sound_init workdir) hok
  · intro now files outcomes
    refine spares_of_cleansAnnounced hs ⟨trivial, cleansAnnounced_alone ?_ outcomes⟩
    dsimp only [step]
    split
    · exact hannounced
    · exact hannounced

/-- The file of a stream whose message has arrived is spared. -/
theorem cleanup_spares_announced_one :
    let ready : StreamInput := {
      event := .onFileReady 1 10 { localPath := "/w/a".toList, isDownloadingActive := true }
      io := ⟨fun _ => .ok (), fun _ _ _ => .ok []⟩ }
    let events : List Event := [.create { streamId := 1, route := { token := [], fileId := [] } },
      .stream 0 ready, .deliver 0, .beginCleanup (10 ^ 18) [⟨"/w/a".toList, true, some (10, 0)⟩],
      .cleanNext fun _ _ => true]
    StepRun.AllSteps (step {}) (Spares {}) { manager := { workdir := "/w".toList } } events := by
  intro ready events
  have harrived : ∀ a ∈ (StepRun.run (step {}) { manager := { workdir := "/w".toList } }
      (events.take 4)).streams, a.channel.counted = some a.state.localPath := by decide +kernel
  refine (cleanup_spares_announced {} "/w".toList events).1
    ⟨trivial, trivial, trivial, trivial, fun a ha path hserves _ => ⟨a, ha, ?_⟩, trivial⟩
  have hpath : a.state.localPath = path := of_decide_eq_true (Bool.and_eq_true_iff.1 hserves).2
  rw [harrived a ha, hpath]

/-- The stream has its file, its message is on its way, and the file was not used for a day. -/
theorem cleanup_deletes_served_file :
    let ready : StreamInput := {
      event := .onFileReady 1 10 { localPath := "/w/a".toList, isDownloadingActive := true }
      io := ⟨fun _ => .ok (), fun _ _ _ => .ok []⟩ }
    let events : List Event := [.create { streamId := 1, route := { token := [], fileId := [] } },
      .stream 0 ready, .beginCleanup (10 ^ 18) [⟨"/w/a".toList, true, some (10, 0)⟩],
      .cleanNext fun _ _ => true]
    ¬ StepRun.AllSteps (step {}) (Spares {}) { manager := { workdir := "/w".toList } } events := by
  intro ready events hall
  obtain ⟨-, -, -, hspares, -⟩ := hall
  have hserves := hspares "/w/a".toList (by decide +kernel)
  revert hserves
  decide +kernel

end CleaningSystem

end TelegramBotApi
