import TelegramBotApi.WorkdirCleaning
import Mathlib.Algebra.BigOperators.Group.List.Basic
import Mathlib.Algebra.Order.BigOperators.Group.List
import Mathlib.RingTheory.Coprime.Lemmas
import Mathlib.Tactic.Linarith
import Mathlib.Tactic.NormNum
import Mathlib.Tactic.Ring

/-!
# The plan of a cleanup run

A cleanup run without the streams beside it, with everything that it reports. Expired files are deleted,
and when the files are too many also other ones, the least recently used first, until their size is down
to the target. Files in use count but stay, and the run gives up at the first file that it cannot delete.
The last part is about the time after which a file is expired, which the run computes in 64 bits.
-/

namespace TelegramBotApi

structure WorkdirCleanupResult where
  scannedBytes : Int := 0
  scannedFiles : Nat := 0
  deletedBytes : Int := 0
  deletedFiles : Nat := 0
  failedFiles : Nat := 0
  freeBytes : Int := -1
  thresholdCleanup : Bool := false
  diskEmergency : Bool := false

/-- A candidate that the run tried to delete, with what `delete_file` returned. -/
structure CleanupAttempt where
  candidate : CleanupCandidate
  results : List Bool

def CleanupAttempt.succeeded (attempt : CleanupAttempt) : Bool := attempt.results.any id

/-- The loop of `delete_workdir_file_with_retries`. The result of `delete_file` may depend on how often it
was called before. -/
def deleteFileAttempts (deleteFile : Nat → Slice → Bool) (path : Slice) : Nat → Nat → List Bool
  | calls, 0 => [deleteFile calls path]
  | calls, retries + 1 =>
    if deleteFile calls path then [true]
    else false :: deleteFileAttempts deleteFile path (calls + 1) retries

/-- The state of the loop of `run_workdir_cleanup`. -/
structure CleanupProgress where
  result : WorkdirCleanupResult
  remaining : Int
  attempts : List CleanupAttempt := []

def CleanupProgress.calls (p : CleanupProgress) : Nat := (p.attempts.map fun attempt => attempt.results.length).sum

namespace WorkdirCleanupManager

variable (config : WorkdirCleanupConfig) (m : WorkdirCleanupManager)

/-- What the walk counts of a path. -/
def scanned (file : WorkdirFile) : Option CleanupCandidate :=
  if ¬ file.isRegularFile ∨ ¬ isWorkdirCleanupCandidate m.workdir file.path then none
  else file.stat.map fun stat => ⟨file.path, max 0 stat.1, stat.2⟩

def isInactive (candidate : CleanupCandidate) : Bool := !m.isActive candidate.path

def isExpired (now : Nat) (candidate : CleanupCandidate) : Bool :=
  CleanupRun.expired config { now := now, thresholdCleanup := false, remaining := 0, candidates := [] } candidate

def tryDelete (deleteFile : Nat → Slice → Bool) (p : CleanupProgress) (candidate : CleanupCandidate) :
    CleanupAttempt :=
  ⟨candidate, deleteFileAttempts deleteFile candidate.path p.calls 3⟩

def cleanCandidates (now : Nat) (deleteFile : Nat → Slice → Bool) (p : CleanupProgress) :
    List CleanupCandidate → CleanupProgress
  | [] => p
  | candidate :: rest =>
    let run : CleanupRun := ⟨now, p.result.thresholdCleanup, p.remaining, candidate :: rest⟩
    if ¬ run.mustReduce config ∧ ¬ run.expired config candidate then cleanCandidates now deleteFile p rest
    else if m.isActive candidate.path then cleanCandidates now deleteFile p rest
    else
      let attempt := tryDelete deleteFile p candidate
      let attempts := p.attempts ++ [attempt]
      if attempt.succeeded then
        cleanCandidates now deleteFile { p with
          result := { p.result with
            deletedFiles := p.result.deletedFiles + 1
            deletedBytes := p.result.deletedBytes + candidate.size }
          remaining := p.remaining - candidate.size
          attempts := attempts } rest
      else { p with result := { p.result with failedFiles := p.result.failedFiles + 1 }, attempts := attempts }

/-- What the walk found, before the loop. -/
def planCleanup (now : Nat) (files : List WorkdirFile) : CleanupProgress where
  result := {
    scannedBytes := (files.foldl m.visit {}).scannedBytes
    scannedFiles := files.countP fun file => (m.scanned file).isSome
    thresholdCleanup := (m.beginCleanup config now files).thresholdCleanup }
  remaining := (files.foldl m.visit {}).scannedBytes

/-- `run_workdir_cleanup`, with the candidates in the order that `std::sort` left them in. -/
def runWorkdirCleanup (now : Nat) (files : List WorkdirFile) (order : List CleanupCandidate)
    (deleteFile : Nat → Slice → Bool) (minFreeBytes freeSpace : Int) : CleanupProgress :=
  let p := m.cleanCandidates config now deleteFile (m.planCleanup config now files) order
  { p with result := { p.result with
      freeBytes := freeSpace
      diskEmergency := 0 < minFreeBytes ∧ 0 ≤ freeSpace ∧ freeSpace < minFreeBytes } }

end WorkdirCleanupManager

open WorkdirCleanupManager

def totalSize (candidates : List CleanupCandidate) : Int := (candidates.map (·.size)).sum

def attemptedSize (attempts : List CleanupAttempt) : Int := totalSize (attempts.map (·.candidate))

def deletedAttempts (attempts : List CleanupAttempt) : List CleanupAttempt := attempts.filter (·.succeeded)

/-- The candidates of a run, in the order of their access times. -/
structure CandidateOrder (m : WorkdirCleanupManager) (files : List WorkdirFile) (order : List CleanupCandidate) :
    Prop where
  perm : order.Perm (files.foldl m.visit {}).candidates
  sorted : order.Pairwise fun left right => left.accessTime ≤ right.accessTime

/-- What a cleanup run may and must delete, of the files that the walk has counted. -/
structure FollowsPlan (config : WorkdirCleanupConfig) (m : WorkdirCleanupManager) (now : Nat)
    (files : List CleanupCandidate) (result : WorkdirCleanupResult) (attempts : List CleanupAttempt) : Prop where
  inactive : ∀ attempt ∈ attempts, attempt.candidate ∈ files ∧ m.isActive attempt.candidate.path = false
  /-- A deletion that is not due to the age of the file. -/
  reduces : ∀ before attempt after, attempts = before ++ attempt :: after →
    isExpired config now attempt.candidate = false →
    config.thresholdBytes ≤ totalSize files ∧ config.targetBytes < totalSize files - attemptedSize before ∧
      ∀ older ∈ files, m.isActive older.path = false → older.accessTime < attempt.candidate.accessTime →
        older ∈ before.map (·.candidate)
  expired : (∀ attempt ∈ attempts, attempt.succeeded = true) →
    ∀ file ∈ files, m.isActive file.path = false → isExpired config now file = true →
      file ∈ attempts.map (·.candidate)
  reduced : (∀ attempt ∈ attempts, attempt.succeeded = true) → config.thresholdBytes ≤ totalSize files →
    totalSize files - attemptedSize attempts ≤ config.targetBytes ∨
      ∀ file ∈ files, m.isActive file.path = false → file ∈ attempts.map (·.candidate)
  deletedFiles : result.deletedFiles = (deletedAttempts attempts).length
  deletedBytes : result.deletedBytes = attemptedSize (deletedAttempts attempts)
  failedFiles : result.failedFiles = attempts.countP fun attempt => !attempt.succeeded
  once : (attempts.map (·.candidate.path)).Nodup
  retries : ∀ attempt ∈ attempts, attempt.results.length ≤ 4 ∧
    (attempt.succeeded = false → attempt.results.length = 4)
  /-- The first file that cannot be deleted is the last one that is tried. -/
  givesUp : ∀ before attempt after, attempts = before ++ attempt :: after → attempt.succeeded = false → after = []

/-- The tries of the loop over a list of candidates. -/
inductive CleanupTrace (config : WorkdirCleanupConfig) (m : WorkdirCleanupManager) (now : Nat) (threshold : Bool) :
    Int → List CleanupCandidate → List CleanupAttempt → Prop
  | nil (remaining : Int) : CleanupTrace config m now threshold remaining [] []
  | spare {remaining : Int} {c : CleanupCandidate} {rest : List CleanupCandidate} {attempts : List CleanupAttempt}
      (hreduce : ¬ (threshold = true ∧ config.targetBytes < remaining)) (hfresh : isExpired config now c = false)
      (htrace : CleanupTrace config m now threshold remaining rest attempts) :
      CleanupTrace config m now threshold remaining (c :: rest) attempts
  | active {remaining : Int} {c : CleanupCandidate} {rest : List CleanupCandidate} {attempts : List CleanupAttempt}
      (hactive : m.isActive c.path = true) (htrace : CleanupTrace config m now threshold remaining rest attempts) :
      CleanupTrace config m now threshold remaining (c :: rest) attempts
  | delete {remaining : Int} {attempt : CleanupAttempt} {rest : List CleanupCandidate}
      {attempts : List CleanupAttempt}
      (hdue : threshold = true ∧ config.targetBytes < remaining ∨ isExpired config now attempt.candidate = true)
      (hinactive : m.isActive attempt.candidate.path = false) (hlength : attempt.results.length ≤ 4)
      (hsucceeded : attempt.succeeded = true)
      (htrace : CleanupTrace config m now threshold (remaining - attempt.candidate.size) rest attempts) :
      CleanupTrace config m now threshold remaining (attempt.candidate :: rest) (attempt :: attempts)
  | fail {remaining : Int} {attempt : CleanupAttempt} {rest : List CleanupCandidate}
      (hdue : threshold = true ∧ config.targetBytes < remaining ∨ isExpired config now attempt.candidate = true)
      (hinactive : m.isActive attempt.candidate.path = false) (hlength : attempt.results.length = 4)
      (hfailed : attempt.succeeded = false) :
      CleanupTrace config m now threshold remaining (attempt.candidate :: rest) [attempt]

variable {config : WorkdirCleanupConfig} {m : WorkdirCleanupManager} {now : Nat} {threshold : Bool}
variable {remaining : Int} {rest : List CleanupCandidate} {attempts : List CleanupAttempt}

theorem length_deleteFileAttempts (deleteFile : Nat → Slice → Bool) (path : Slice) (calls retries : Nat) :
    (deleteFileAttempts deleteFile path calls retries).length ≤ retries + 1 ∧
      ((deleteFileAttempts deleteFile path calls retries).any id = false →
        (deleteFileAttempts deleteFile path calls retries).length = retries + 1) := by
  induction retries generalizing calls with
  | zero => exact ⟨le_refl 1, fun _ => rfl⟩
  | succ retries ih =>
      rw [deleteFileAttempts]
      split_ifs
      · exact ⟨Nat.le_add_left 1 _, fun hfailed => by cases hfailed⟩
      · obtain ⟨hle, hlength⟩ := ih (calls + 1)
        exact ⟨Nat.succ_le_succ hle, fun hfailed => congrArg Nat.succ (hlength hfailed)⟩

theorem attemptedSize_cons (attempt : CleanupAttempt) (attempts : List CleanupAttempt) :
    attemptedSize (attempt :: attempts) = attempt.candidate.size + attemptedSize attempts := List.sum_cons

theorem visit_eq (m : WorkdirCleanupManager) (scan : CleanupScan) (file : WorkdirFile) :
    m.visit scan file =
      { scannedBytes := scan.scannedBytes + totalSize (m.scanned file).toList
        candidates := scan.candidates ++ (m.scanned file).toList.filter m.isInactive } := by
  unfold visit scanned
  by_cases hfile : ¬ file.isRegularFile ∨ ¬ isWorkdirCleanupCandidate m.workdir file.path
  · rw [if_pos hfile, if_pos hfile]
    simp [totalSize]
  · rw [if_neg hfile, if_neg hfile]
    cases file.stat with
    | none => simp [totalSize]
    | some stat =>
        by_cases hactive : m.isActive file.path = true
        · simp [totalSize, isInactive, hactive]
        · simp [totalSize, isInactive, hactive]

theorem foldl_visit (m : WorkdirCleanupManager) (files : List WorkdirFile) (scan : CleanupScan) :
    files.foldl m.visit scan =
      { scannedBytes := scan.scannedBytes + totalSize (files.filterMap m.scanned)
        candidates := scan.candidates ++ (files.filterMap m.scanned).filter m.isInactive } := by
  induction files generalizing scan with
  | nil => simp [totalSize]
  | cons file files ih =>
      rw [List.foldl_cons, ih, visit_eq]
      cases hscanned : m.scanned file with
      | none => simp [hscanned, totalSize]
      | some c =>
          simp [hscanned, totalSize, add_assoc, List.filter_cons]
          split_ifs <;> rfl

/-- The loop follows a trace and counts its tries. -/
theorem trace_cleanCandidates (deleteFile : Nat → Slice → Bool) (p : CleanupProgress) (rest : List CleanupCandidate) :
    ∃ attempts, CleanupTrace config m now p.result.thresholdCleanup p.remaining rest attempts ∧
      m.cleanCandidates config now deleteFile p rest =
        { result := { p.result with
            deletedFiles := p.result.deletedFiles + (deletedAttempts attempts).length
            deletedBytes := p.result.deletedBytes + attemptedSize (deletedAttempts attempts)
            failedFiles := p.result.failedFiles + attempts.countP fun attempt => !attempt.succeeded }
          remaining := p.remaining - attemptedSize (deletedAttempts attempts)
          attempts := p.attempts ++ attempts } := by
  induction rest generalizing p with
  | nil => exact ⟨[], .nil _, by simp [cleanCandidates, deletedAttempts, attemptedSize, totalSize]⟩
  | cons c rest ih =>
      rw [cleanCandidates]
      dsimp only
      by_cases hspare : ¬ (CleanupRun.mk now p.result.thresholdCleanup p.remaining (c :: rest)).mustReduce config ∧
          ¬ (CleanupRun.mk now p.result.thresholdCleanup p.remaining (c :: rest)).expired config c
      · obtain ⟨attempts, htrace, heq⟩ := ih p
        rw [if_pos hspare]
        refine ⟨attempts, .spare (fun hreduce => hspare.1 ?_) (eq_false_of_ne_true hspare.2) htrace, heq⟩
        exact Bool.and_eq_true_iff.2 ⟨hreduce.1, decide_eq_true hreduce.2⟩
      rw [if_neg hspare]
      by_cases hactive : m.isActive c.path = true
      · obtain ⟨attempts, htrace, heq⟩ := ih p
        rw [if_pos hactive]
        exact ⟨attempts, .active hactive htrace, heq⟩
      rw [if_neg hactive]
      have hdue : p.result.thresholdCleanup = true ∧ config.targetBytes < p.remaining ∨
          isExpired config now c = true := by
        rcases not_and_or.1 hspare with hreduce | hexpired
        · obtain ⟨hthreshold, htarget⟩ := Bool.and_eq_true_iff.1 (not_not.1 hreduce)
          exact Or.inl ⟨hthreshold, of_decide_eq_true htarget⟩
        · exact Or.inr (not_not.1 hexpired)
      obtain ⟨hlength, hfull⟩ := length_deleteFileAttempts deleteFile c.path p.calls 3
      by_cases hsucceeded : (tryDelete deleteFile p c).succeeded = true
      · rw [if_pos hsucceeded]
        obtain ⟨attempts, htrace, heq⟩ := ih { p with
          result := { p.result with
            deletedFiles := p.result.deletedFiles + 1
            deletedBytes := p.result.deletedBytes + c.size }
          remaining := p.remaining - c.size
          attempts := p.attempts ++ [tryDelete deleteFile p c] }
        have hdeleted : deletedAttempts (tryDelete deleteFile p c :: attempts) =
            tryDelete deleteFile p c :: deletedAttempts attempts := List.filter_cons_of_pos hsucceeded
        refine ⟨tryDelete deleteFile p c :: attempts,
          .delete hdue (eq_false_of_ne_true hactive) hlength hsucceeded htrace, heq.trans ?_⟩
        have hsize : attemptedSize (tryDelete deleteFile p c :: deletedAttempts attempts) =
            c.size + attemptedSize (deletedAttempts attempts) := attemptedSize_cons _ _
        rw [hdeleted, hsize, List.countP_cons_of_neg (by rw [hsucceeded]; exact Bool.false_ne_true), List.length_cons]
        simp only [add_assoc, sub_sub, List.append_assoc, List.cons_append, List.nil_append]
        rw [Nat.add_comm 1]
      · rw [if_neg hsucceeded]
        have hfailed := eq_false_of_ne_true hsucceeded
        refine ⟨[tryDelete deleteFile p c], .fail hdue (eq_false_of_ne_true hactive) (hfull hfailed) hfailed, ?_⟩
        have hdeleted : deletedAttempts [tryDelete deleteFile p c] = [] := List.filter_cons_of_neg hsucceeded
        rw [hdeleted]
        simp [attemptedSize, totalSize, hfailed]

namespace CleanupTrace

theorem sublist (h : CleanupTrace config m now threshold remaining rest attempts) :
    (attempts.map (·.candidate)).Sublist rest := by
  induction h with
  | nil => exact List.Sublist.slnil
  | spare _ _ _ ih => exact ih.cons _
  | active _ _ ih => exact ih.cons _
  | delete _ _ _ _ _ ih => exact ih.cons_cons _
  | fail => exact (List.nil_sublist _).cons_cons _

theorem inactive (h : CleanupTrace config m now threshold remaining rest attempts) :
    ∀ attempt ∈ attempts, m.isActive attempt.candidate.path = false := by
  induction h with
  | nil => exact fun _ hmem => absurd hmem List.not_mem_nil
  | spare _ _ _ ih => exact ih
  | active _ _ ih => exact ih
  | delete _ hinactive _ _ _ ih => exact List.forall_mem_cons.2 ⟨hinactive, ih⟩
  | fail _ hinactive _ _ => exact List.forall_mem_singleton.2 hinactive

theorem retries (h : CleanupTrace config m now threshold remaining rest attempts) :
    ∀ attempt ∈ attempts, attempt.results.length ≤ 4 ∧ (attempt.succeeded = false → attempt.results.length = 4) := by
  induction h with
  | nil => exact fun _ hmem => absurd hmem List.not_mem_nil
  | spare _ _ _ ih => exact ih
  | active _ _ ih => exact ih
  | delete _ _ hlength hsucceeded _ ih =>
      exact List.forall_mem_cons.2 ⟨⟨hlength, fun hfailed => by rw [hsucceeded] at hfailed; cases hfailed⟩, ih⟩
  | fail _ _ hlength _ => exact List.forall_mem_singleton.2 ⟨hlength.le, fun _ => hlength⟩

theorem givesUp (h : CleanupTrace config m now threshold remaining rest attempts) :
    ∀ before attempt after, attempts = before ++ attempt :: after → attempt.succeeded = false → after = [] := by
  induction h with
  | nil => exact fun before attempt after heq => by simp at heq
  | spare _ _ _ ih => exact ih
  | active _ _ ih => exact ih
  | delete _ _ _ hsucceeded _ ih =>
      intro before attempt after heq hfailed
      cases before with
      | nil =>
          obtain ⟨rfl, -⟩ := List.cons_eq_cons.1 heq
          rw [hsucceeded] at hfailed
          cases hfailed
      | cons _ before => exact ih before attempt after (List.cons_eq_cons.1 heq).2 hfailed
  | fail _ _ _ _ =>
      intro before attempt after heq _
      cases before with
      | nil => exact (List.cons_eq_cons.1 heq).2.symm
      | cons _ before => simp at heq

/-- Sizes are not negative, so that a run that need not reduce the files any more does not come back to it. -/
theorem target_lt (h : CleanupTrace config m now threshold remaining rest attempts)
    (hsize : ∀ c ∈ rest, 0 ≤ c.size) {before after : List CleanupAttempt} {attempt : CleanupAttempt}
    (heq : attempts = before ++ attempt :: after) (hfresh : isExpired config now attempt.candidate = false) :
    threshold = true ∧ config.targetBytes < remaining - attemptedSize before ∧ 0 ≤ attemptedSize before := by
  induction h generalizing before with
  | nil => simp at heq
  | spare _ _ _ ih => exact ih (fun c hc => hsize c (List.mem_cons_of_mem _ hc)) heq
  | active _ _ ih => exact ih (fun c hc => hsize c (List.mem_cons_of_mem _ hc)) heq
  | delete hdue _ _ _ _ ih =>
      cases before with
      | nil =>
          obtain ⟨rfl, -⟩ := List.cons_eq_cons.1 heq
          rcases hdue with hreduce | hexpired
          · exact ⟨hreduce.1, by simpa [attemptedSize, totalSize] using hreduce.2, le_refl 0⟩
          · rw [hfresh] at hexpired
            cases hexpired
      | cons first before =>
          obtain ⟨rfl, hrest⟩ := List.cons_eq_cons.1 heq
          obtain ⟨hthreshold, htarget, hpos⟩ := ih (fun c hc => hsize c (List.mem_cons_of_mem _ hc)) hrest
          have hfirst := hsize _ List.mem_cons_self
          rw [attemptedSize_cons]
          exact ⟨hthreshold, by omega, by omega⟩
  | fail hdue _ _ _ =>
      cases before with
      | nil =>
          obtain ⟨rfl, -⟩ := List.cons_eq_cons.1 heq
          rcases hdue with hreduce | hexpired
          · exact ⟨hreduce.1, by simpa [attemptedSize, totalSize] using hreduce.2, le_refl 0⟩
          · rw [hfresh] at hexpired
            cases hexpired
      | cons first before => simp at heq

/-- What is older and not in use comes first. -/
theorem older (h : CleanupTrace config m now threshold remaining rest attempts)
    (hsize : ∀ c ∈ rest, 0 ≤ c.size) (hsorted : rest.Pairwise fun left right => left.accessTime ≤ right.accessTime)
    {before after : List CleanupAttempt} {attempt : CleanupAttempt} (heq : attempts = before ++ attempt :: after)
    (hfresh : isExpired config now attempt.candidate = false) {c : CleanupCandidate} (hc : c ∈ rest)
    (hinactive : m.isActive c.path = false) (holder : c.accessTime < attempt.candidate.accessTime) :
    c ∈ before.map (·.candidate) := by
  induction h generalizing before with
  | nil => simp at heq
  | spare hreduce _ htrace ih =>
      have hsize' := fun c hc => hsize c (List.mem_cons_of_mem _ hc)
      rcases List.mem_cons.1 hc with rfl | hc
      · obtain ⟨hthreshold, htarget, hpos⟩ := htrace.target_lt hsize' heq hfresh
        exact absurd ⟨hthreshold, by omega⟩ hreduce
      · exact ih hsize' (List.pairwise_cons.1 hsorted).2 heq hc
  | active hactive _ ih =>
      rcases List.mem_cons.1 hc with rfl | hc
      · rw [hactive] at hinactive
        cases hinactive
      · exact ih (fun c hc => hsize c (List.mem_cons_of_mem _ hc)) (List.pairwise_cons.1 hsorted).2 heq hc
  | delete _ _ _ _ _ ih =>
      obtain ⟨hfirst, hsorted'⟩ := List.pairwise_cons.1 hsorted
      cases before with
      | nil =>
          obtain ⟨rfl, -⟩ := List.cons_eq_cons.1 heq
          rcases List.mem_cons.1 hc with rfl | hc
          · exact absurd holder (lt_irrefl _)
          · exact absurd (hfirst c hc) (not_le_of_gt holder)
      | cons first before =>
          obtain ⟨rfl, hrest⟩ := List.cons_eq_cons.1 heq
          rcases List.mem_cons.1 hc with rfl | hc
          · exact List.mem_cons_self
          · exact List.mem_cons_of_mem _ (ih (fun c hc => hsize c (List.mem_cons_of_mem _ hc)) hsorted' hrest hc)
  | fail _ _ _ _ =>
      obtain ⟨hfirst, -⟩ := List.pairwise_cons.1 hsorted
      cases before with
      | nil =>
          obtain ⟨rfl, -⟩ := List.cons_eq_cons.1 heq
          rcases List.mem_cons.1 hc with rfl | hc
          · exact absurd holder (lt_irrefl _)
          · exact absurd (hfirst c hc) (not_le_of_gt holder)
      | cons first before => simp at heq

/-- Nothing that is expired is spared, unless a deletion fails. -/
theorem expired (h : CleanupTrace config m now threshold remaining rest attempts)
    (hall : ∀ attempt ∈ attempts, attempt.succeeded = true) {c : CleanupCandidate} (hc : c ∈ rest)
    (hinactive : m.isActive c.path = false) (hexpired : isExpired config now c = true) :
    c ∈ attempts.map (·.candidate) := by
  induction h with
  | nil => cases hc
  | spare _ hfresh _ ih =>
      rcases List.mem_cons.1 hc with rfl | hc
      · rw [hfresh] at hexpired
        cases hexpired
      · exact ih hall hc
  | active hactive _ ih =>
      rcases List.mem_cons.1 hc with rfl | hc
      · rw [hactive] at hinactive
        cases hinactive
      · exact ih hall hc
  | delete _ _ _ _ _ ih =>
      rcases List.mem_cons.1 hc with rfl | hc
      · exact List.mem_cons_self
      · exact List.mem_cons_of_mem _ (ih (List.forall_mem_cons.1 hall).2 hc)
  | fail _ _ _ hfailed =>
      rw [List.forall_mem_singleton.1 hall] at hfailed
      cases hfailed

/-- The files are reduced as far as they can be, unless a deletion fails. -/
theorem reduced (h : CleanupTrace config m now threshold remaining rest attempts)
    (hall : ∀ attempt ∈ attempts, attempt.succeeded = true) (hsize : ∀ c ∈ rest, 0 ≤ c.size)
    (hthreshold : threshold = true) :
    0 ≤ attemptedSize attempts ∧ (remaining - attemptedSize attempts ≤ config.targetBytes ∨
      ∀ c ∈ rest, m.isActive c.path = false → c ∈ attempts.map (·.candidate)) := by
  induction h with
  | nil => exact ⟨le_refl 0, Or.inr fun _ hc => absurd hc List.not_mem_nil⟩
  | spare hreduce _ _ ih =>
      obtain ⟨hpos, -⟩ := ih hall fun c hc => hsize c (List.mem_cons_of_mem _ hc)
      have htarget := not_and.1 hreduce hthreshold
      exact ⟨hpos, Or.inl (by omega)⟩
  | active hactive _ ih =>
      obtain ⟨hpos, hdone⟩ := ih hall fun c hc => hsize c (List.mem_cons_of_mem _ hc)
      refine ⟨hpos, hdone.imp_right fun hdeleted => List.forall_mem_cons.2 ⟨fun hinactive => ?_, hdeleted⟩⟩
      rw [hactive] at hinactive
      cases hinactive
  | delete _ _ _ _ _ ih =>
      obtain ⟨hpos, hdone⟩ := ih (List.forall_mem_cons.1 hall).2 fun c hc => hsize c (List.mem_cons_of_mem _ hc)
      have hfirst := hsize _ List.mem_cons_self
      rw [attemptedSize_cons]
      refine ⟨by omega, hdone.imp (fun htarget => by omega) fun hdeleted => ?_⟩
      exact List.forall_mem_cons.2 ⟨fun _ => List.mem_cons_self,
        fun c hc hinactive => List.mem_cons_of_mem _ (hdeleted c hc hinactive)⟩
  | fail _ _ _ hfailed =>
      rw [List.forall_mem_singleton.1 hall] at hfailed
      cases hfailed

end CleanupTrace

theorem path_of_scanned {file : WorkdirFile} {c : CleanupCandidate} (h : m.scanned file = some c) :
    c.path = file.path ∧ 0 ≤ c.size := by
  unfold scanned at h
  split_ifs at h
  obtain ⟨stat, -, rfl⟩ := Option.map_eq_some_iff.1 h
  exact ⟨rfl, le_max_left 0 _⟩

theorem nodup_paths {files : List WorkdirFile} (h : (files.map (·.path)).Nodup) :
    ((files.filterMap m.scanned).map (·.path)).Nodup := by
  have hpaths : ((files.filterMap m.scanned).map (·.path)).Sublist (files.map (·.path)) := by
    clear h
    induction files with
    | nil => exact List.Sublist.slnil
    | cons file files ih =>
        cases hscanned : m.scanned file with
        | none =>
            rw [List.filterMap_cons_none hscanned]
            exact ih.cons _
        | some c =>
            rw [List.filterMap_cons_some hscanned, List.map_cons, (path_of_scanned hscanned).1]
            exact ih.cons_cons _
  exact h.sublist hpaths

theorem totalSize_planCleanup (files : List WorkdirFile) :
    (files.foldl m.visit {}).scannedBytes = totalSize (files.filterMap m.scanned) ∧
      (files.foldl m.visit {}).candidates = (files.filterMap m.scanned).filter m.isInactive := by
  rw [foldl_visit]
  exact ⟨zero_add _, List.nil_append _⟩

theorem thresholdCleanup_iff (files : List WorkdirFile) :
    (m.planCleanup config now files).result.thresholdCleanup = true ↔
      config.thresholdBytes ≤ totalSize (files.filterMap m.scanned) := by
  have hpositive := config.target_nonneg.trans_lt config.target_lt
  rw [← (totalSize_planCleanup files).1]
  exact decide_eq_true_iff.trans (and_iff_right hpositive)

/-- A trace over the candidates in their order follows the plan for all the files. -/
theorem CleanupTrace.followsPlan {files : List CleanupCandidate} {order : List CleanupCandidate}
    (h : CleanupTrace config m now threshold (totalSize files) order attempts)
    (hthreshold : threshold = true ↔ config.thresholdBytes ≤ totalSize files)
    (hsize : ∀ c ∈ files, 0 ≤ c.size) (hnodup : (files.map (·.path)).Nodup)
    (hperm : order.Perm (files.filter m.isInactive))
    (hsorted : order.Pairwise fun left right => left.accessTime ≤ right.accessTime) {result : WorkdirCleanupResult}
    (hdeleted : result.deletedFiles = (deletedAttempts attempts).length)
    (hbytes : result.deletedBytes = attemptedSize (deletedAttempts attempts))
    (hfailed : result.failedFiles = attempts.countP fun attempt => !attempt.succeeded) :
    FollowsPlan config m now files result attempts := by
  have hfiles : ∀ c ∈ order, c ∈ files := fun c hc => (List.mem_filter.1 (hperm.mem_iff.1 hc)).1
  have horder : ∀ c ∈ files, m.isActive c.path = false → c ∈ order := fun c hc hinactive =>
    hperm.mem_iff.2 (List.mem_filter.2 ⟨hc, by unfold isInactive; rw [hinactive]; rfl⟩)
  have hsizes : ∀ c ∈ order, 0 ≤ c.size := fun c hc => hsize c (hfiles c hc)
  have hpaths : (order.map (·.path)).Nodup :=
    ((hperm.map _).nodup_iff).2 (hnodup.sublist (List.filter_sublist.map _))
  refine {
    inactive := fun attempt hmem => ⟨hfiles _ (h.sublist.mem (List.mem_map_of_mem hmem)), h.inactive attempt hmem⟩
    reduces := fun before attempt after heq hfresh => ?_
    expired := fun hall c hc hinactive hexpired => h.expired hall (horder c hc hinactive) hinactive hexpired
    reduced := fun hall hreached => ?_
    deletedFiles := hdeleted
    deletedBytes := hbytes
    failedFiles := hfailed
    once := ?_
    retries := h.retries
    givesUp := h.givesUp }
  · obtain ⟨hreached, htarget, -⟩ := h.target_lt hsizes heq hfresh
    exact ⟨hthreshold.1 hreached, htarget, fun c hc hinactive holder =>
      h.older hsizes hsorted heq hfresh (horder c hc hinactive) hinactive holder⟩
  · obtain ⟨-, hdone⟩ := h.reduced hall hsizes (hthreshold.2 hreached)
    exact hdone.imp_right fun htried c hc hinactive => htried c (horder c hc hinactive) hinactive
  · have hmap : attempts.map (·.candidate.path) = (attempts.map (·.candidate)).map (·.path) :=
      (List.map_map ..).symm
    rw [hmap]
    exact hpaths.sublist (h.sublist.map _)

theorem cleanup_follows_plan (config : WorkdirCleanupConfig) (m : WorkdirCleanupManager) (now : Nat)
    (files : List WorkdirFile) (hfiles : (files.map (·.path)).Nodup) (order : List CleanupCandidate)
    (horder : CandidateOrder m files order) (deleteFile : Nat → Slice → Bool) (minFreeBytes freeSpace : Int) :
    let p := m.runWorkdirCleanup config now files order deleteFile minFreeBytes freeSpace
    p.result.scannedBytes = totalSize (files.filterMap m.scanned) ∧
      p.result.scannedFiles = (files.filterMap m.scanned).length ∧
      FollowsPlan config m now (files.filterMap m.scanned) p.result p.attempts := by
  obtain ⟨hbytes, hcandidates⟩ := totalSize_planCleanup (m := m) files
  obtain ⟨attempts, htrace, heq⟩ : ∃ attempts, CleanupTrace config m now _ _ order attempts ∧ _ :=
    trace_cleanCandidates deleteFile (m.planCleanup config now files) order
  have hremaining : (m.planCleanup config now files).remaining = totalSize (files.filterMap m.scanned) := hbytes
  have hperm := horder.perm
  rw [hcandidates] at hperm
  rw [hremaining] at htrace
  unfold runWorkdirCleanup
  rw [heq]
  refine ⟨hbytes, ?_, ?_⟩
  · change files.countP _ = _
    rw [List.length_filterMap_eq_countP]
  · refine htrace.followsPlan (thresholdCleanup_iff files) (fun c hc => ?_) (nodup_paths hfiles) hperm horder.sorted
      (Nat.zero_add _) (zero_add _) (Nat.zero_add _)
    obtain ⟨file, -, hscanned⟩ := List.mem_filterMap.1 hc
    exact (path_of_scanned hscanned).2

/-- The order of the cleanups that run beside the streams is one of them. -/
theorem candidateOrder_beginCleanup (config : WorkdirCleanupConfig) (m : WorkdirCleanupManager) (now : Nat)
    (files : List WorkdirFile) : CandidateOrder m files (m.beginCleanup config now files).candidates where
  perm := List.perm_insertionSort _ _
  sorted := List.pairwise_insertionSort _ _

/-- Two files that are not expired, the larger one of which is enough. -/
theorem cleanup_follows_plan_two :
    let config : WorkdirCleanupConfig := { thresholdBytes := 5, targetBytes := 2, fileTtl := 0 }
    let m : WorkdirCleanupManager := { workdir := "/w".toList }
    let files : List WorkdirFile := [⟨"/w/b".toList, true, some (2, 20)⟩, ⟨"/w/a".toList, true, some (3, 10)⟩]
    let p := m.runWorkdirCleanup config 100 files (m.beginCleanup config 100 files).candidates (fun _ _ => true) 1 10
    p.result.deletedFiles = 1 ∧ p.result.deletedBytes = 3 ∧
      FollowsPlan config m 100 (files.filterMap m.scanned) p.result p.attempts := by
  intro config m files p
  refine ⟨by decide +kernel, by decide +kernel, ?_⟩
  exact (cleanup_follows_plan config m 100 files (by decide +kernel) _ (candidateOrder_beginCleanup config m 100 files)
    (fun _ _ => true) 1 10).2.2

/-! ### The age of a file -/

/-- The file has not been read for `file_ttl` seconds. -/
def IsStale (config : WorkdirCleanupConfig) (now accessTime : Nat) : Prop :=
  0 < config.fileTtl ∧ config.fileTtl * 10 ^ 9 ≤ (now : Int) - accessTime

/-- The nanoseconds fit in 64 bits, or what is left of them in 64 bits is nothing or more than the age. -/
def TtlFits (config : WorkdirCleanupConfig) (now accessTime : Nat) : Prop :=
  config.fileTtl * 10 ^ 9 < 2 ^ 64 ∨ (2 : Int) ^ 55 ∣ config.fileTtl ∨ now < accessTime ∨
    (now : Int) - accessTime < config.fileTtl * 10 ^ 9 % 2 ^ 64

theorem ttlNsec_eq (h : 0 < config.fileTtl) : (CleanupRun.ttlNsec config : Int) = config.fileTtl * 10 ^ 9 % 2 ^ 64 := by
  unfold CleanupRun.ttlNsec
  rw [if_pos h]
  omega

/-- The nanoseconds are a multiple of `2 ^ 64` just when the seconds are one of `2 ^ 55`. -/
theorem ttlNsec_eq_zero_iff (seconds : Int) : seconds * 10 ^ 9 % 2 ^ 64 = 0 ↔ (2 : Int) ^ 55 ∣ seconds := by
  have hleft : (2 : Int) ^ 64 = 2 ^ 9 * 2 ^ 55 := by norm_num
  have hright : seconds * 10 ^ 9 = 2 ^ 9 * (seconds * 5 ^ 9) := by ring
  have hcoprime : IsCoprime ((2 : Int) ^ 55) (5 ^ 9) := IsCoprime.pow ⟨-2, 1, by norm_num⟩
  rw [← Int.dvd_iff_emod_eq_zero, hleft, hright, mul_dvd_mul_iff_left (by norm_num)]
  exact ⟨hcoprime.dvd_of_dvd_mul_right, fun h => h.mul_right _⟩

theorem isExpired_iff {c : CleanupCandidate} : isExpired config now c = true ↔
    0 < CleanupRun.ttlNsec config ∧ c.accessTime ≤ now ∧ CleanupRun.ttlNsec config ≤ now - c.accessTime := by
  unfold isExpired CleanupRun.expired
  rw [Bool.and_eq_true_iff, Bool.and_eq_true_iff, decide_eq_true_eq, decide_eq_true_eq, decide_eq_true_eq, and_assoc]

/-- The current time is a `uint64`. -/
theorem isExpired_exact_iff (config : WorkdirCleanupConfig) {now : Nat} (hnow : now < 2 ^ 64) (c : CleanupCandidate) :
    (isExpired config now c = true ↔ IsStale config now c.accessTime) ↔ TtlFits config now c.accessTime := by
  rw [isExpired_iff]
  unfold IsStale TtlFits
  by_cases httl : 0 < config.fileTtl
  · have hnsec := ttlNsec_eq httl
    rw [← ttlNsec_eq_zero_iff, ← hnsec]
    have hpositive : 0 < config.fileTtl * 10 ^ 9 := mul_pos httl (by norm_num)
    generalize config.fileTtl * 10 ^ 9 = nsec at hnsec hpositive ⊢
    generalize CleanupRun.ttlNsec config = wrapped at hnsec ⊢
    by_cases hfits : nsec < 2 ^ 64
    · rw [Int.emod_eq_of_lt hpositive.le hfits] at hnsec
      exact iff_of_true (by omega) (Or.inl hfits)
    · have hlate : ¬ (0 < config.fileTtl ∧ nsec ≤ (now : Int) - c.accessTime) := by omega
      rw [iff_false_right hlate]
      omega
  · have hnsec : CleanupRun.ttlNsec config = 0 := if_neg httl
    rw [hnsec]
    exact iff_of_true (by omega) (Or.inl (by nlinarith))

theorem IsStale.mono {larger : WorkdirCleanupConfig} {accessTime : Nat} (h : IsStale larger now accessTime)
    (hpositive : 0 < config.fileTtl) (hle : config.fileTtl ≤ larger.fileTtl) : IsStale config now accessTime := by
  refine ⟨hpositive, le_trans ?_ h.2⟩
  exact mul_le_mul_of_nonneg_right hle (by norm_num)

theorem ttl_exact (now : Nat) (hnow : now < 2 ^ 64) (c : CleanupCandidate) :
    (∀ config : WorkdirCleanupConfig,
      (isExpired config now c = true ↔ IsStale config now c.accessTime) ↔ TtlFits config now c.accessTime) ∧
    ∀ config larger : WorkdirCleanupConfig, 0 < config.fileTtl → config.fileTtl ≤ larger.fileTtl →
      TtlFits config now c.accessTime → TtlFits larger now c.accessTime →
      isExpired larger now c = true → isExpired config now c = true := by
  refine ⟨fun config => isExpired_exact_iff config hnow c, ?_⟩
  intro config larger hpositive hle hfits hlarger hexpired
  have hstale := ((isExpired_exact_iff larger hnow c).2 hlarger).1 hexpired
  exact ((isExpired_exact_iff config hnow c).2 hfits).2 (hstale.mono hpositive hle)

/-- A file of two days, with the default time. -/
theorem ttl_exact_default :
    let c : CleanupCandidate := ⟨"/w/a".toList, 1, 0⟩
    isExpired {} 172800000000000 c = true ↔ IsStale {} 172800000000000 c.accessTime :=
  (((ttl_exact 172800000000000 (by norm_num) ⟨"/w/a".toList, 1, 0⟩).1 {}).2 (Or.inl (by norm_num)))

/-- With a `file_ttl` of more than five hundred years a file expires after one second, while it does not with
one second less. -/
theorem expired_after_one_second :
    let c : CleanupCandidate := ⟨"/w/a".toList, 1, 1000000000⟩
    isExpired { fileTtl := 18446744074 } 2000000000 c = true ∧
      ¬ IsStale { fileTtl := 18446744074 } 2000000000 c.accessTime ∧
      isExpired { fileTtl := 18446744073 } 2000000000 c = false := by
  intro c
  refine ⟨by decide, fun hstale => ?_, by decide⟩
  have hage := hstale.2
  norm_num [c] at hage

end TelegramBotApi
