import TelegramBotApi.FileStreamTransitions
import TelegramBotApi.Leases

/-!
# What a stream tells the cleanup manager

A stream retains the file it serves and releases it when it gets another one or ends. `Trades s t` says
that what was sent on the way from `s` to `t` leads, message by message, from the file of `s` to the file
of `t`.
-/

namespace TelegramBotApi

open Leases (Orderly)

/-- A message to the cleanup manager. -/
def StreamAction.cleanupMove : StreamAction → Option (Leases.Move Slice)
  | .send (.retainFile path) => some (.take path)
  | .send (.releaseFile path) => some (.drop path)
  | _ => none

namespace FileStreamConnection

variable {S : FileStreamSetup} {io : FileAccess} {s t u : FileStreamConnection}

def cleanupMoves (s : FileStreamConnection) : List (Leases.Move Slice) :=
  s.out.filterMap StreamAction.cleanupMove

def lease (s : FileStreamConnection) : Option Slice := if s.localPath = [] then none else some s.localPath

def Trades (s t : FileStreamConnection) : Prop :=
  ∃ moves, t.cleanupMoves = s.cleanupMoves ++ moves ∧ Orderly s.lease moves t.lease

namespace Trades

theorem of_eq (hpath : t.localPath = s.localPath) (hmoves : t.cleanupMoves = s.cleanupMoves) : Trades s t := by
  refine ⟨[], by rw [hmoves, List.append_nil], ?_⟩
  unfold lease
  rw [hpath]
  exact .nil _

theorem refl (s : FileStreamConnection) : Trades s s := of_eq rfl rfl

theorem trans (h₁ : Trades s t) (h₂ : Trades t u) : Trades s u := by
  obtain ⟨ms, hms, hst⟩ := h₁
  obtain ⟨ns, hns, htu⟩ := h₂
  exact ⟨ms ++ ns, by rw [hns, hms, List.append_assoc], hst.append htu⟩

/-- Actions that are not for the cleanup manager. -/
theorem of_out {actions : List StreamAction} (hpath : t.localPath = s.localPath)
    (hout : t.out = s.out ++ actions) (hactions : actions.filterMap StreamAction.cleanupMove = []) :
    Trades s t := by
  refine of_eq hpath ?_
  unfold cleanupMoves
  rw [hout, List.filterMap_append, hactions, List.append_nil]

end Trades

theorem trades_send (message : StreamMessage) (h : StreamAction.cleanupMove (.send message) = none) :
    Trades s (s.send message) :=
  Trades.of_out rfl rfl (by simp [h])

theorem trades_abort (s : FileStreamConnection) (error : Status) : Trades s (s.abort error) := by
  unfold abort
  simp only
  split_ifs
  · exact Trades.refl s
  · exact Trades.of_out rfl rfl rfl
  · exact Trades.of_eq rfl rfl

theorem trades_fail (s : FileStreamConnection) (code : Int) (message : String) :
    Trades s (s.fail S code message) := by
  unfold fail
  simp only
  by_cases hf : s.finished = true
  · rw [if_pos hf]
    exact Trades.refl s
  rw [if_neg hf]
  by_cases hh : s.headersSent = true
  · rw [if_pos hh]
    exact trades_abort _ _
  rw [if_neg hh]
  split
  · exact Trades.of_out rfl rfl rfl
  · have hheader : Trades s (({ s with finished := true } : FileStreamConnection).send
        (.writeNextNoflush (.header (s.errorHeader code (jsonQueryError code message))))) :=
      Trades.of_out rfl rfl rfl
    split_ifs
    · exact hheader.trans (Trades.of_out rfl rfl rfl)
    · have hcontent := hheader.trans (trades_send (.writeNextNoflush
        (.content (jsonQueryError code message))) rfl)
      exact hcontent.trans (Trades.of_out rfl rfl rfl)

theorem trades_finish (s : FileStreamConnection) : Trades s s.finish := by
  unfold finish
  simp only
  split_ifs
  · exact Trades.refl s
  · exact trades_abort _ _
  · exact Trades.of_out rfl rfl rfl
  · exact Trades.of_eq rfl rfl

theorem trades_onFileError (s : FileStreamConnection) (error : Status) :
    Trades s (s.onFileError S error) := by
  unfold onFileError
  simp only
  by_cases hf : s.finished = true
  · rw [if_pos hf]
    exact Trades.refl s
  rw [if_neg hf]
  by_cases hh : s.headersSent = true
  · rw [if_neg (not_not_intro hh)]
    exact trades_abort _ _
  · rw [if_pos hh]
    exact trades_fail _ _ _

theorem trades_sendHeaders (s : FileStreamConnection) : Trades s (s.sendHeaders S) := by
  unfold sendHeaders
  split_ifs
  · exact Trades.refl s
  · split
    · exact trades_fail _ _ _
    · exact Trades.of_out rfl rfl rfl

theorem trades_onFileData (s : FileStreamConnection) (offset : Int) (data : List UInt8) :
    Trades s (s.onFileData S offset (.ok data)) := by
  have ht : Trades s { s with readInFlight := false } := Trades.of_eq rfl rfl
  unfold onFileData
  simp only
  split_ifs
  · exact ht
  · exact ht.trans (trades_abort _ _)
  · exact Trades.of_out rfl rfl rfl

theorem trades_readChunk (s : FileStreamConnection) (path : Slice) (count : Int) :
    Trades s (s.readChunk S io path count) := by
  have ht : ∀ b : Bool, Trades s
      ({ { s with readInFlight := true }.emit (.pread path s.cursor.nextOffset count) with
        readInFlight := b }) := fun _ => Trades.of_out rfl rfl rfl
  unfold readChunk
  simp only
  split
  · exact (ht false).trans (trades_abort _ _)
  · split_ifs
    · exact (ht false).trans (trades_abort _ _)
    · exact Trades.of_out rfl rfl rfl
    · exact (ht true).trans (trades_onFileData _ _ _)

theorem trades_tryRead (io : FileAccess) (s : FileStreamConnection) : Trades s (s.tryRead S io) := by
  unfold tryRead
  simp only
  split
  · exact Trades.refl s
  split
  · exact trades_finish s
  split
  · exact Trades.refl s
  split
  · exact trades_abort _ _
  split
  · exact Trades.refl s
  split
  · exact trades_readChunk _ _ _
  split
  · split_ifs
    · exact trades_abort _ _
    · exact Trades.refl s
  · have ht : Trades s { s with localFile := some s.localPath } := Trades.of_eq rfl rfl
    exact ht.trans (trades_readChunk _ _ _)

theorem trades_setLocalPath (hmanager : S.hasCleanupManager = true) {path : Slice} (hpath : path ≠ []) :
    Trades s (s.setLocalPath S path) := by
  rw [setLocalPath_eq]
  refine ⟨(pathActions S s path).filterMap StreamAction.cleanupMove, ?_, ?_⟩
  · unfold cleanupMoves
    rw [List.filterMap_append]
  · have hmoves : (pathActions S s path).filterMap StreamAction.cleanupMove =
        Leases.giveUp s.lease ++ [.take path] := by
      unfold pathActions lease
      by_cases hold : s.localPath = []
      · simp [hmanager, hold, StreamAction.cleanupMove, Leases.giveUp]
      · simp [hmanager, hold, StreamAction.cleanupMove, Leases.giveUp]
    have hlease : lease { s with localPath := path, out := s.out ++ pathActions S s path } = some path :=
      if_neg hpath
    rw [hmoves, hlease]
    exact Leases.orderly_exchange _ path

theorem trades_respond (s : FileStreamConnection) : Trades s (s.respond S io) := by
  unfold respond
  split_ifs
  · exact trades_fail _ _ _
  · exact trades_sendHeaders s
  · exact (trades_sendHeaders s).trans (trades_tryRead io _)

theorem trades_beginDownload (s : FileStreamConnection) (progress : FileProgress) :
    Trades s (s.beginDownload S io progress) := by
  unfold beginDownload
  split
  · exact trades_fail _ _ _
  · refine Trades.trans ?_ (trades_respond _)
    exact Trades.of_eq rfl rfl

theorem trades_selectRange (s : FileStreamConnection) (totalSize : Int) (progress : FileProgress) :
    Trades s (s.selectRange S io totalSize progress) := by
  unfold selectRange
  split
  · exact trades_fail _ _ _
  · refine Trades.trans ?_ (trades_beginDownload _ _)
    exact Trades.of_eq rfl rfl

theorem trades_acceptSize (s : FileStreamConnection) (totalSize : Int) (progress : FileProgress) :
    Trades s (s.acceptSize S io totalSize progress) := by
  unfold acceptSize
  split_ifs
  · exact trades_fail _ _ _
  · exact trades_fail _ _ _
  · refine Trades.trans ?_ (trades_selectRange _ _ _)
    exact Trades.of_eq rfl rfl

theorem trades_onFileReady (hmanager : S.hasCleanupManager = true) (s : FileStreamConnection)
    (fileId totalSize : Int) (progress : FileProgress) :
    Trades s (s.onFileReady S io fileId totalSize progress) := by
  have hfile : Trades s { s with fileId := fileId } := Trades.of_eq rfl rfl
  unfold onFileReady
  simp only
  split_ifs with hfinished hinvalid hpath
  · exact Trades.refl s
  · exact trades_fail _ _ _
  · exact (hfile.trans (trades_setLocalPath hmanager hpath.1)).trans (trades_acceptSize _ _ _)
  · exact hfile.trans (trades_acceptSize _ _ _)

theorem trades_followPath (hmanager : S.hasCleanupManager = true) (s : FileStreamConnection) (path : Slice) :
    Trades s (s.followPath S path) := by
  unfold followPath
  split_ifs with hpath
  · refine Trades.trans ?_ (trades_setLocalPath hmanager hpath.1)
    exact Trades.of_eq rfl rfl
  · exact Trades.refl s

theorem trades_continueDownload (s : FileStreamConnection) (isDownloadingActive : Bool) :
    Trades s (s.continueDownload S io isDownloadingActive) := by
  unfold continueDownload
  split_ifs
  · exact trades_abort _ _
  · exact trades_abort _ _
  · exact trades_tryRead io s

theorem trades_applyProgress (s : FileStreamConnection) (progress : FileProgress) :
    Trades s (s.applyProgress S io progress) := by
  unfold applyProgress
  split
  · exact trades_abort _ _
  · refine Trades.trans ?_ (trades_continueDownload _ _)
    exact Trades.of_eq rfl rfl

theorem trades_onFileProgress (hmanager : S.hasCleanupManager = true) (s : FileStreamConnection)
    (reportedTotalSize : Int) (progress : FileProgress) :
    Trades s (s.onFileProgress S io reportedTotalSize progress) := by
  unfold onFileProgress
  split_ifs
  · exact Trades.refl s
  · exact trades_abort _ _
  · exact (trades_followPath hmanager s _).trans (trades_applyProgress _ _)

theorem trades_onChunkFlushed (s : FileStreamConnection) (result : Except Status Unit) :
    Trades s (s.onChunkFlushed S io result) := by
  have ht : Trades s { s with writeInFlight := false } := Trades.of_eq rfl rfl
  unfold onChunkFlushed
  by_cases hf : s.finished = true
  · rw [if_pos hf]
    exact ht
  rw [if_neg hf]
  cases result with
  | error error => exact ht.trans (trades_abort _ _)
  | ok _ =>
      dsimp only
      split
      · refine Trades.trans ?_ (trades_abort _ _)
        exact Trades.of_eq rfl rfl
      · refine Trades.trans ?_ (trades_tryRead io _)
        split_ifs
        · exact Trades.of_out rfl rfl rfl
        · exact Trades.of_eq rfl rfl

theorem trades_onHeadersFlushed (s : FileStreamConnection) (result : Except Status Unit) :
    Trades s (s.onHeadersFlushed S result) := by
  unfold onHeadersFlushed
  by_cases hf : s.finished = true
  · rw [if_pos hf]
    exact Trades.refl s
  rw [if_neg hf]
  cases result with
  | error error => exact trades_abort _ _
  | ok _ =>
      dsimp only
      split_ifs
      · exact Trades.of_out rfl rfl rfl
      · exact Trades.of_eq rfl rfl
      · exact Trades.refl s

theorem trades_handle (hmanager : S.hasCleanupManager = true) (s : FileStreamConnection) (e : StreamEvent) :
    Trades s (s.handle S io e) := by
  cases e with
  | setClient => exact Trades.of_eq rfl rfl
  | onFileReady fileId totalSize progress => exact trades_onFileReady hmanager s _ _ _
  | onFileProgress size progress => exact trades_onFileProgress hmanager s _ _
  | onHeadersFlushed result => exact trades_onHeadersFlushed s result
  | onChunkFlushed result => exact trades_onChunkFlushed s result
  | onFileError error => exact trades_onFileError s error
  | timeoutExpired => exact trades_onFileError s _

/-- The file that a stream serves; a stream that was torn down serves none. -/
def served (s : FileStreamConnection) : Option Slice := if s.stopped then none else s.lease

theorem cleanupMoves_tearDown (hmanager : S.hasCleanupManager = true) (s : FileStreamConnection) :
    (s.tearDown S).cleanupMoves = s.cleanupMoves ++ Leases.giveUp s.lease := by
  rw [tearDown_eq]
  unfold cleanupMoves
  rw [List.filterMap_append]
  congr 1
  unfold tearDownActions lease
  by_cases hpath : s.localPath = [] <;> by_cases hclient : s.client = true <;>
    simp [hmanager, hpath, hclient, StreamAction.cleanupMove, Leases.giveUp]

/-- The messages of one handler, and of the `tear_down` behind it, lead from the file that was served to
the one that is. -/
theorem orderly_step (hmanager : S.hasCleanupManager = true) (s : FileStreamConnection) (x : StreamInput) :
    Orderly s.served (s.step S x).cleanupMoves (s.step S x).served := by
  unfold step
  simp only
  by_cases hstopped : s.stopped = true
  · rw [if_pos hstopped]
    exact .nil _
  rw [if_neg hstopped]
  have hserved : s.served = lease { s with out := [] } := if_neg hstopped
  obtain ⟨moves, hmoves, horderly⟩ := trades_handle hmanager { s with out := [] } x.event
  have hmoves : (handle S x.io { s with out := [] } x.event).cleanupMoves = moves := hmoves
  rw [hserved]
  generalize handle S x.io { s with out := [] } x.event = u at hmoves horderly
  unfold settle
  by_cases hu : u.stopped = true
  · rw [if_pos hu, cleanupMoves_tearDown hmanager, hmoves]
    have hgone : (u.tearDown S).served = none := by
      rw [tearDown_eq]
      exact if_pos hu
    rw [hgone]
    exact horderly.append (Leases.orderly_giveUp _)
  · rw [if_neg hu, hmoves]
    have hkept : u.served = u.lease := if_neg hu
    rw [hkept]
    exact horderly

end FileStreamConnection

end TelegramBotApi
