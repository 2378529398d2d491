import Mathlib.Data.List.Chain
import TelegramBotApi.Client
import TelegramBotApi.ClientManager
import TelegramBotApi.WorkdirCleanup

/-!
# What a cleanup can remove

The candidates of a cleanup lie inside the working directory, and no component of their path leads out
of it. The names of the databases and of the files beside them are excluded by their endings. The
certificate of a webhook lies in the directory of its bot under a name without such an ending.
-/

namespace TelegramBotApi

/-- The working directory as `main` hands it on, and what it found out about file names. -/
structure ServerDirectory where
  workingDirectory : Slice
  allowColonInFilenames : Bool := true
  ends_with_slash : workingDirectory.getLast? = some '/'

namespace ServerDirectory

variable (D : ServerDirectory)

/-- The name of the directory of a bot, with the slash behind it. -/
def botSuffix (token : Slice) (isTestDc : Bool) : Slice :=
  let suff := token ++ (if isTestDc then ":T".toList else []) ++ ['/']
  if D.allowColonInFilenames then suff else suff.map fun c => if c = ':' then '~' else c

/-- `dir_` of a client. -/
def botDirectory (token : Slice) (isTestDc : Bool) : Slice :=
  D.workingDirectory ++ D.botSuffix token isTestDc

def getWebhookCertificatePath (token : Slice) (isTestDc : Bool) : Slice :=
  D.botDirectory token isTestDc ++ "cert.pem".toList

def getBinlogPath (databaseDirectory : Slice) (isTestDc : Bool) : Slice :=
  databaseDirectory ++ "td".toList ++ (if isTestDc then "_test".toList else []) ++ ".binlog".toList

def getSqlitePath (databaseDirectory : Slice) (isTestDc : Bool) : Slice :=
  databaseDirectory ++ ("db".toList ++ if isTestDc then "_test".toList else []) ++ ".sqlite".toList

/-- The binlogs of the server and of TDLib. -/
inductive IsBinlog : Slice → Prop
  | tqueue : IsBinlog (D.workingDirectory ++ "tqueue.binlog".toList)
  | webhooks : IsBinlog (D.workingDirectory ++ "webhooks_db.binlog".toList)
  | td (token : Slice) (isTestDc : Bool) : IsBinlog (getBinlogPath (D.botDirectory token isTestDc) isTestDc)

/-- The databases, with the file to which a binlog is rewritten and the files that SQLite adds. -/
inductive IsDatabase : Slice → Prop
  | binlog {path : Slice} (h : D.IsBinlog path) : IsDatabase path
  | rewritten {path : Slice} (h : D.IsBinlog path) : IsDatabase (path ++ ".new".toList)
  | sqlite (token : Slice) (isTestDc : Bool) {companion : Slice}
      (h : companion ∈ [[], "-wal".toList, "-shm".toList, "-journal".toList]) :
      IsDatabase (getSqlitePath (D.botDirectory token isTestDc) isTestDc ++ companion)

end ServerDirectory

def withSlash (workdir : Slice) : Slice := if workdir.getLast? = some '/' then workdir else workdir ++ ['/']

/-- The path goes on behind the directory, and never up. -/
def StrictlyInside (workdir path : Slice) : Prop :=
  ∃ rest, path = withSlash workdir ++ rest ∧ rest ≠ [] ∧ "..".toList ∉ rest.splitOn '/'

def persistentEndings : List Slice :=
  [".binlog", ".binlog.new", ".sqlite", ".sqlite-wal", ".sqlite-shm", ".sqlite-journal"].map String.toList

section Paths

variable {path ending : Slice}

theorem endsWith_fileName (h : ending <:+ path) (hslash : ∀ c ∈ ending, c ≠ '/' ∧ c ≠ '\\') :
    ending <:+ fileName path := by
  obtain ⟨start, rfl⟩ := h
  have hplain : ∀ c ∈ ending.reverse, (c ≠ '/' && c ≠ '\\') = true := fun c hc => by
    simpa using hslash c (List.mem_reverse.1 hc)
  refine ⟨fileName start, ?_⟩
  unfold fileName List.rtakeWhile
  rw [List.reverse_append, List.takeWhile_append_of_pos hplain, List.reverse_append, List.reverse_reverse]

theorem isTdlibPersistentFile_iff : isTdlibPersistentFile path = true ↔
    ∃ ending ∈ persistentEndings, ending <:+ fileName path := by
  have hne : fileName path ≠ [] ∧ (∃ ending ∈ persistentEndings, ending <:+ fileName path) ↔
      ∃ ending ∈ persistentEndings, ending <:+ fileName path := by
    refine and_iff_right_of_imp ?_
    rintro ⟨ending, hmem, hending⟩ hnil
    rw [hnil, List.suffix_nil] at hending
    revert hmem
    rw [hending]
    decide
  rw [← hne]
  unfold isTdlibPersistentFile persistentEndings
  simp only [Bool.and_eq_true, Bool.or_eq_true, List.isSuffixOf_iff_suffix, decide_eq_true_eq,
    List.map_cons, List.map_nil, List.mem_cons, List.not_mem_nil, or_false, exists_eq_or_imp,
    exists_eq_left, or_assoc, ne_eq]

theorem isTdlibPersistentFile_of_ending (hmem : ending ∈ persistentEndings) (h : ending <:+ path) :
    isTdlibPersistentFile path = true := by
  have hplain : ∀ ending ∈ persistentEndings, ∀ c ∈ ending, c ≠ '/' ∧ c ≠ '\\' := by
    simp [persistentEndings]
  exact isTdlibPersistentFile_iff.2 ⟨ending, hmem, endsWith_fileName h (hplain ending hmem)⟩

theorem infix_intercalate {sep name : Slice} {names : List Slice} (h : name ∈ names) :
    name <:+: sep.intercalate names := by
  induction names with
  | nil => cases h
  | cons first names ih =>
      cases names with
      | nil =>
          rw [List.mem_singleton.1 h, List.intercalate_singleton]
      | cons second names =>
          rw [List.intercalate_cons_cons]
          rcases List.mem_cons.1 h with rfl | h
          · exact ((List.prefix_append name sep).trans (List.prefix_append _ _)).isInfix
          · exact (ih h).trans (List.suffix_append _ _).isInfix

/-- A component of a path is a part of it. -/
theorem infix_of_mem_splitOn {name : Slice} (h : name ∈ path.splitOn '/') : name <:+: path := by
  have hinfix : name <:+: ['/'].intercalate (path.splitOn '/') := infix_intercalate h
  rwa [List.intercalate_splitOn] at hinfix

/-- Two dots in a row, as a condition on neighbours. -/
theorem not_infix_dots_iff : ¬ "..".toList <:+: path ↔ path.IsChain fun a b => ¬ (a = '.' ∧ b = '.') := by
  induction path with
  | nil => simp
  | cons a path ih =>
      rw [List.infix_cons_iff, not_or, ih]
      cases path with
      | nil => simp
      | cons b path =>
          rw [List.isChain_cons_cons]
          refine and_congr_left fun _ => not_congr ?_
          simp [List.cons_prefix_cons, eq_comm]

/-- Text that neither begins with a dot nor has two in a row does not matter for what is before it. -/
theorem infix_dots_append {rest : Slice} (hhead : rest.head? ≠ some '.') (hrest : ¬ "..".toList <:+: rest) :
    "..".toList <:+: path ++ rest ↔ "..".toList <:+: path := by
  refine not_iff_not.1 ?_
  rw [not_infix_dots_iff] at hrest ⊢
  rw [not_infix_dots_iff, List.isChain_append]
  refine ⟨fun h => h.1, fun h => ⟨h, hrest, fun a _ b hb hab => hhead ?_⟩⟩
  rw [← hab.2]
  exact hb

theorem fileName_append {name : Slice} (hname : ∀ c ∈ name, c ≠ '/' ∧ c ≠ '\\') :
    fileName (path ++ (['/'] ++ name)) = name := by
  have hplain : ∀ c ∈ name.reverse, (c ≠ '/' && c ≠ '\\') = true := fun c hc => by
    simpa using hname c (List.mem_reverse.1 hc)
  have hreverse : (path ++ (['/'] ++ name)).reverse = name.reverse ++ ('/' :: path.reverse) := by simp
  unfold fileName List.rtakeWhile
  rw [hreverse, List.takeWhile_append_of_pos hplain, List.takeWhile_cons_of_neg (by decide),
    List.append_nil, List.reverse_reverse]

theorem isWorkdirCleanupCandidate_iff {workdir : Slice} (hworkdir : workdir ≠ []) :
    isWorkdirCleanupCandidate workdir path = true ↔ (∃ rest, path = withSlash workdir ++ rest ∧ rest ≠ [] ∧
      ¬ "..".toList <:+: rest) ∧ isTdlibPersistentFile path = false := by
  have hroot : (if workdir.getLast? ≠ some '/' then workdir ++ ['/'] else workdir) = withSlash workdir :=
    ite_not _ _ _
  have hslash : withSlash workdir ≠ [] := by
    unfold withSlash
    split_ifs
    · exact hworkdir
    · simp
  unfold isWorkdirCleanupCandidate
  rw [hroot]
  dsimp only
  constructor
  · intro h
    split_ifs at h with hempty hstart hdots
    obtain ⟨hstart, hproper⟩ := not_or.1 hstart
    obtain ⟨rest, rfl⟩ := List.isPrefixOf_iff_prefix.1 (not_not.1 hstart)
    rw [List.drop_left] at hdots
    refine ⟨⟨rest, rfl, fun hnil => hproper ?_, hdots⟩, by simpa using h⟩
    rw [hnil, List.append_nil]
  · rintro ⟨⟨rest, rfl, hne, hdots⟩, hfile⟩
    have hempty : ¬ (workdir = [] ∨ withSlash workdir ++ rest = []) := by simp [hworkdir, hslash]
    have hstart : (withSlash workdir).isPrefixOf (withSlash workdir ++ rest) = true :=
      List.isPrefixOf_iff_prefix.2 (List.prefix_append _ _)
    rw [if_neg hempty, if_neg (by simp [hstart, hne]), List.drop_left, if_neg hdots, hfile]
    rfl

theorem strictlyInside_of_candidate {workdir : Slice} (h : isWorkdirCleanupCandidate workdir path = true) :
    StrictlyInside workdir path := by
  have hworkdir : workdir ≠ [] := by
    rintro rfl
    simp [isWorkdirCleanupCandidate] at h
  obtain ⟨⟨rest, hpath, hne, hdots⟩, -⟩ := (isWorkdirCleanupCandidate_iff hworkdir).1 h
  exact ⟨rest, hpath, hne, fun hmem => hdots (infix_of_mem_splitOn hmem)⟩

theorem not_candidate_of_persistent (workdir : Slice) (h : isTdlibPersistentFile path = true) :
    isWorkdirCleanupCandidate workdir path = false := by
  by_cases hworkdir : workdir = []
  · subst hworkdir
    rfl
  · rw [Bool.eq_false_iff, ne_eq, isWorkdirCleanupCandidate_iff hworkdir, h]
    exact fun hcandidate => Bool.noConfusion hcandidate.2

end Paths

namespace ServerDirectory

variable {D : ServerDirectory} {path token : Slice}

theorem IsBinlog.ending (h : D.IsBinlog path) : ".binlog".toList <:+ path := by
  cases h with
  | tqueue => exact ⟨D.workingDirectory ++ "tqueue".toList, List.append_assoc _ _ _⟩
  | webhooks => exact ⟨D.workingDirectory ++ "webhooks_db".toList, List.append_assoc _ _ _⟩
  | td token isTestDc => exact List.suffix_append _ _

theorem IsDatabase.persistent (h : D.IsDatabase path) : isTdlibPersistentFile path = true := by
  cases h with
  | binlog h => exact isTdlibPersistentFile_of_ending (by simp [persistentEndings]) h.ending
  | rewritten h =>
      obtain ⟨start, hstart⟩ := h.ending
      have hmem : ".binlog.new".toList ∈ persistentEndings := by simp [persistentEndings]
      refine isTdlibPersistentFile_of_ending hmem ⟨start, ?_⟩
      rw [← hstart, List.append_assoc]
      rfl
  | @sqlite token isTestDc companion h =>
      have hmem : ".sqlite".toList ++ companion ∈ persistentEndings := by
        simp only [List.mem_cons, List.not_mem_nil, or_false] at h
        rcases h with rfl | rfl | rfl | rfl <;> decide
      refine isTdlibPersistentFile_of_ending hmem ?_
      unfold getSqlitePath
      rw [List.append_assoc _ ".sqlite".toList]
      exact List.suffix_append _ _

theorem withSlash_workingDirectory (D : ServerDirectory) :
    withSlash D.workingDirectory = D.workingDirectory := if_pos D.ends_with_slash

theorem workingDirectory_ne_nil (D : ServerDirectory) : D.workingDirectory ≠ [] := by
  intro h
  have hslash := D.ends_with_slash
  rw [h] at hslash
  cases hslash

/-- The name of the directory of a bot, without the slash. -/
theorem botSuffix_eq (D : ServerDirectory) (token : Slice) (isTestDc : Bool) : ∃ name,
    D.botSuffix token isTestDc = name ++ ['/'] ∧ ("..".toList <:+: name ↔ "..".toList <:+: token) := by
  let tail : Slice := if isTestDc then ":T".toList else []
  have htail : "..".toList <:+: token ++ tail ↔ "..".toList <:+: token := by
    cases isTestDc with
    | false => rw [show tail = [] from rfl, List.append_nil]
    | true => exact infix_dots_append (by decide) (by decide)
  have hmap : "..".toList <:+: (token ++ tail).map (fun c => if c = ':' then '~' else c) ↔
      "..".toList <:+: token ++ tail := by
    refine not_iff_not.1 ?_
    rw [not_infix_dots_iff, not_infix_dots_iff, List.isChain_map]
    have hdot : ∀ c : Char, (if c = ':' then '~' else c) = '.' ↔ c = '.' := by
      intro c
      split_ifs with hc
      · exact iff_of_false (by decide) (by rw [hc]; decide)
      · exact Iff.rfl
    simp only [hdot]
  unfold botSuffix
  cases D.allowColonInFilenames with
  | true => exact ⟨token ++ tail, rfl, htail⟩
  | false => exact ⟨_, List.map_append, hmap.trans htail⟩

theorem certificate_not_persistent (D : ServerDirectory) (token : Slice) (isTestDc : Bool) :
    isTdlibPersistentFile (D.getWebhookCertificatePath token isTestDc) = false := by
  obtain ⟨name, hname, -⟩ := D.botSuffix_eq token isTestDc
  have hfile : fileName (D.getWebhookCertificatePath token isTestDc) = "cert.pem".toList := by
    unfold getWebhookCertificatePath botDirectory
    rw [hname, List.append_assoc, List.append_assoc, ← List.append_assoc]
    exact fileName_append (by simp)
  rw [Bool.eq_false_iff, ne_eq, isTdlibPersistentFile_iff, hfile]
  decide

theorem infix_dots_botSuffix (D : ServerDirectory) (token : Slice) (isTestDc : Bool) :
    "..".toList <:+: D.botSuffix token isTestDc ++ "cert.pem".toList ↔ "..".toList <:+: token := by
  obtain ⟨name, hname, hdots⟩ := D.botSuffix_eq token isTestDc
  rw [hname, List.append_assoc, ← hdots]
  exact infix_dots_append (by decide) (by decide)

/-- The certificate of a webhook is protected only by a directory name that no cleanup enters. -/
theorem certificate_candidate_iff (D : ServerDirectory) (token : Slice) (isTestDc : Bool) :
    isWorkdirCleanupCandidate D.workingDirectory (D.getWebhookCertificatePath token isTestDc) = true ↔
      ¬ "..".toList <:+: token := by
  rw [isWorkdirCleanupCandidate_iff D.workingDirectory_ne_nil, D.certificate_not_persistent,
    withSlash_workingDirectory, ← D.infix_dots_botSuffix token isTestDc]
  have hpath : D.getWebhookCertificatePath token isTestDc =
      D.workingDirectory ++ (D.botSuffix token isTestDc ++ "cert.pem".toList) := List.append_assoc _ _ _
  rw [hpath]
  constructor
  · rintro ⟨⟨rest, hrest, -, hdots⟩, -⟩
    rwa [List.append_cancel_left hrest]
  · exact fun hdots => ⟨⟨_, rfl, by simp, hdots⟩, rfl⟩

end ServerDirectory

theorem dot_notMem_base64UrlGroups {digits : Slice} (h : base64UrlGroups digits = true) : '.' ∉ digits := by
  have hdot : ¬ base64UrlValue '.' < 64 := by decide
  induction digits using base64UrlGroups.induct with
  | case1 => exact List.not_mem_nil
  | case2 a b c d rest ih =>
      simp only [base64UrlGroups, Bool.and_eq_true, decide_eq_true_eq] at h
      obtain ⟨⟨⟨⟨ha, hb⟩, hc⟩, hd⟩, hrest⟩ := h
      simp only [List.mem_cons, not_or]
      refine ⟨?_, ?_, ?_, ?_, ih hrest⟩ <;> rintro rfl <;> contradiction
  | case3 a b c =>
      simp only [base64UrlGroups, Bool.and_eq_true, decide_eq_true_eq] at h
      simp only [List.mem_cons, List.not_mem_nil, or_false, not_or]
      refine ⟨?_, ?_, ?_⟩ <;> rintro rfl <;> exact hdot (by tauto)
  | case4 a b =>
      simp only [base64UrlGroups, Bool.and_eq_true, decide_eq_true_eq] at h
      simp only [List.mem_cons, List.not_mem_nil, or_false, not_or]
      refine ⟨?_, ?_⟩ <;> rintro rfl <;> exact hdot (by tauto)
  | case5 a =>
      simp only [base64UrlGroups, decide_eq_true_eq] at h
      simp only [List.mem_cons, List.not_mem_nil, or_false]
      rintro rfl
      exact hdot h

theorem dot_notMem_base64Url {str : Slice} (h : isBase64Url str = true) : '.' ∉ str := by
  unfold isBase64Url at h
  simp only [Bool.and_eq_true] at h
  rw [← List.rdropWhile_append_rtakeWhile (p := (· == '=')) (l := str), List.mem_append, not_or]
  refine ⟨dot_notMem_base64UrlGroups h.2, fun hmem => ?_⟩
  have hequal := List.mem_takeWhile_imp (List.mem_reverse.1 hmem)
  exact absurd hequal (by decide)

theorem dot_notMem_intText (n : Int) : '.' ∉ (toString n).toList := by
  have hnat : ∀ k : Nat, '.' ∉ (toString k).toList := fun k hmem =>
    absurd (isDigit_of_mem_natText hmem) (by decide)
  cases n with
  | ofNat k => exact hnat k
  | negSucc k =>
      change '.' ∉ ("-" ++ toString (k + 1)).toList
      rw [String.toList_append, List.mem_append, not_or]
      exact ⟨by decide, hnat (k + 1)⟩

/-- A token that the manager and the client accept has no dot. -/
theorem dot_notMem_token {token : Slice} {userId : Int} (huser : tokenUserId token = some userId)
    (htoken : Client.isTokenAccepted token = true) : '.' ∉ token := by
  unfold Client.isTokenAccepted Slice.find at htoken
  split at htoken
  · cases htoken
  rename_i pos hpos
  rw [List.findIdx?_eq_some_iff_findIdx_eq] at hpos
  obtain ⟨hlt, hpos⟩ := hpos
  simp only [Bool.and_eq_true] at htoken
  unfold tokenUserId toIntegerSafe at huser
  simp only at huser
  split_ifs at huser with htext
  have hhead : token.take pos = token.takeWhile (· ≠ ':') := by
    rw [List.takeWhile_eq_take_findIdx_not, ← hpos]
    congr 2
    funext c
    simp only [ne_eq, decide_not, Bool.not_not]
    exact beq_eq_decide c ':'
  rw [← List.take_append_drop pos token, List.drop_eq_getElem_cons hlt, List.mem_append, List.mem_cons]
  rintro (hmem | hmem | hmem)
  · rw [hhead, ← htext] at hmem
    exact dot_notMem_intText _ hmem
  · have hcolon := List.findIdx_getElem (p := (· == ':')) (w := hpos ▸ hlt)
    simp only [hpos, ← hmem] at hcolon
    exact absurd hcolon (by decide)
  · exact dot_notMem_base64Url htoken.1 hmem

/-- What a cleanup can remove lies inside its directory and is no database, and the certificate of every
bot that can start is one of these files. -/
theorem cleanup_candidates_exact (D : ServerDirectory) (workdir path token : Slice) (isTestDc : Bool) :
    (isWorkdirCleanupCandidate workdir path = true → StrictlyInside workdir path) ∧
    (D.IsDatabase path → isWorkdirCleanupCandidate workdir path = false) ∧
    (isWorkdirCleanupCandidate D.workingDirectory (D.getWebhookCertificatePath token isTestDc) = false ↔
      "..".toList <:+: token) ∧
    ∀ userId, tokenUserId token = some userId → Client.isTokenAccepted token = true →
      ¬ "..".toList <:+: token := by
  refine ⟨fun h => strictlyInside_of_candidate h, fun h => not_candidate_of_persistent workdir h.persistent, ?_,
    fun userId huser htoken hdots => ?_⟩
  · rw [Bool.eq_false_iff, ne_eq, D.certificate_candidate_iff, not_not]
  · exact dot_notMem_token huser htoken (hdots.subset List.mem_cons_self)

/-- The certificate of a bot in its directory. -/
theorem cleanup_candidate_certificate :
    let D : ServerDirectory := { workingDirectory := "/w/".toList, ends_with_slash := rfl }
    let token : Slice := "123:AAAAAAAAAAAAAAAAAAAAAAAA".toList
    tokenUserId token = some 123 ∧ Client.isTokenAccepted token = true ∧
      isWorkdirCleanupCandidate D.workingDirectory (D.getWebhookCertificatePath token false) = true := by
  intro D token
  exact ⟨by decide +kernel, by decide +kernel, by decide +kernel⟩

end TelegramBotApi
