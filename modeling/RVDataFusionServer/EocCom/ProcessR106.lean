import RVDataFusionServer.Data.MergeStruct
import RVDataFusionServer.EocCom.TaskStep

/-!
# The request for a software download

`processR106` (`EOCCom.cpp`) acknowledges the request and either reports that the update file is
there already or puts a download on the list of the cloud. `answered_iff` says which requests come
to one or the other: a readable file with another checksum leads to neither.
-/

namespace RVDataFusionServer

/-- `EOCCom::EocDownloadStatus`. -/
inductive EocDownloadStatus where
  | idle
  | running
  | finished
  | fileNotExist
  | timeout
  | spaceNotEnough
  | md5Faild
  | watiUpgrade
  deriving DecidableEq, Repr

/-- `EOCCom::EocUpgradeDevType`. -/
inductive EocUpgradeDevType where
  | parkingarea
  | camara
  | controller
  deriving DecidableEq, Repr

/-- `EOCCom::EocUpgradeDev`, as far as a download uses it. -/
structure EocUpgradeDev where
  devGuid : String
  devIp : String
  devType : EocUpgradeDevType
  commGuid : String
  deriving DecidableEq, Repr

/-- `EOCCom::EocDownloadsMsg`, without the identity of its thread. -/
structure EocDownloadsMsg where
  upgradeDev : List EocUpgradeDev
  downloadStatus : EocDownloadStatus
  downloadUrl : String
  downloadFileName : String
  downloadFileSize : Int32
  downloadFileMd5 : String
  deriving DecidableEq, Repr

/-- `R106` with its `DataR106`, as far as `processR106` reads them. -/
structure R106 where
  guid : String
  downloadPath : String
  fileName : String
  fileSize : String
  fileMD5 : String
  deriving DecidableEq, Repr

/-- `DataS106`. A number that was never set is `none`. -/
structure DataS106 where
  code : String := "MCCS106"
  resultType : Option Int := none
  state : Option Int := none
  progress : Option Int := none
  message : String := ""
  deriving DecidableEq, Repr

/-- `S106`: the progress of a download. -/
structure S106 where
  version : String := ""
  code : String := ""
  guid : String := ""
  data : DataS106 := {}
  deriving DecidableEq, Repr

/-- `COMVersion`. -/
def comVersion : String := "V1.0.0"

/-- `S106::get`. -/
def S106.get (comVersion guuid : String) (resultType state progress : Int) (message : String) :
    S106 where
  version := comVersion
  code := "MCCS106"
  guid := guuid
  data :=
    { resultType := some resultType, state := some state, progress := some progress, message }

/-- The report that a download is complete. -/
def S106.md5success (guid : String) : S106 := S106.get comVersion guid 2 1 0 "下载完成 MD5 OK"

/-- What a call of `processR106` finds outside the process: the checksum of the update file, if it
can be read, and what `Write` returns for the acknowledgement and for the report. -/
structure DownloadEnv where
  updateFile : Option String
  acknowledged : Int
  reported : Int

/-- What `processR106` leaves: the data of the cloud, the messages that were written with what
`Write` returned, and the address that a download thread was started for. -/
structure DownloadReply where
  cloud : EOCCloudData EocDownloadsMsg
  sent : List (S106 × Int) := []
  thread : Option String := none

/-- The entry that a request puts on the list. -/
def R106.download (data : R106) : EocDownloadsMsg where
  upgradeDev := [{ devGuid := "", devIp := "", devType := .parkingarea, commGuid := data.guid }]
  downloadStatus := .idle
  downloadUrl := data.downloadPath
  downloadFileName := data.fileName
  downloadFileSize := atoi data.fileSize
  downloadFileMd5 := data.fileMD5

/-- `processR106`. A message that cannot be decoded gets no reply. -/
def processR106 (env : DownloadEnv) (cloud : EOCCloudData EocDownloadsMsg) :
    Option R106 → DownloadReply
  | none => { cloud }
  | some data =>
      let s106 := S106.get comVersion data.guid 1 1 0 "Receive controller download msg succeed"
      let sent := [(s106, env.acknowledged)]
      match env.updateFile with
      | some md5 =>
          if md5 = data.fileMD5 then
            { cloud, sent := sent ++ [(S106.md5success data.guid, env.reported)] }
          else { cloud, sent }
      | none =>
          -- the loop over the list looks at copies of its entries and changes none of them
          if cloud.downloadsMsg.any fun iter => iter.downloadUrl = data.downloadPath then
            { cloud, sent }
          else
            { cloud := { cloud with downloadsMsg := cloud.downloadsMsg ++ [data.download] }
              sent, thread := some data.downloadPath }

/-- The list holds an entry for the address of a request. -/
def Pending (cloud : EOCCloudData EocDownloadsMsg) (data : R106) : Prop :=
  ∃ msg ∈ cloud.downloadsMsg, msg.downloadUrl = data.downloadPath

/-- A request has been reported as complete because the file that is there has its checksum, or an
entry for its address is on the list. -/
def Answered (env : DownloadEnv) (cloud : EOCCloudData EocDownloadsMsg) (data : R106) : Prop :=
  (env.updateFile = some data.fileMD5 ∧
    ∃ len, 0 ≤ len ∧
      (S106.md5success data.guid, len) ∈ (processR106 env cloud (some data)).sent) ∨
    Pending (processR106 env cloud (some data)).cloud data

variable {env : DownloadEnv} {cloud : EOCCloudData EocDownloadsMsg} {data : R106}

/-- A file that can be read leaves the list as it is. -/
theorem cloud_of_updateFile {md5 : String} (hfile : env.updateFile = some md5) :
    (processR106 env cloud (some data)).cloud = cloud := by
  unfold processR106
  rw [hfile]
  dsimp only
  split
  · rfl
  · rfl

/-- A file that has the requested checksum is reported. -/
theorem sent_of_md5 (hfile : env.updateFile = some data.fileMD5) :
    (processR106 env cloud (some data)).sent =
      [(S106.get comVersion data.guid 1 1 0 "Receive controller download msg succeed",
          env.acknowledged),
        (S106.md5success data.guid, env.reported)] := by
  unfold processR106
  rw [hfile]
  dsimp only
  rw [if_pos rfl]
  rfl

/-- The report is not taken for the acknowledgement. -/
theorem md5success_ne (guid : String) :
    S106.md5success guid ≠
      S106.get comVersion guid 1 1 0 "Receive controller download msg succeed" := by
  intro h
  have htype : (some 2 : Option Int) = some 1 :=
    congrArg (fun s106 : S106 => s106.data.resultType) h
  cases htype

/-- Without a file to read, an entry for the address is on the list afterwards. -/
theorem pending_of_none (hfile : env.updateFile = none) :
    Pending (processR106 env cloud (some data)).cloud data := by
  unfold processR106
  rw [hfile]
  dsimp only
  split
  · next hexist =>
      obtain ⟨msg, hmsg, hurl⟩ := List.any_eq_true.mp hexist
      exact ⟨msg, hmsg, of_decide_eq_true hurl⟩
  · exact ⟨data.download, List.mem_append_right _ List.mem_cons_self, rfl⟩

/-- A request does not take entries from the list, and its own entry waits for its thread. -/
theorem processR106_downloadsMsg :
    (processR106 env cloud (some data)).cloud.downloadsMsg = cloud.downloadsMsg ∨
      (processR106 env cloud (some data)).cloud.downloadsMsg =
          cloud.downloadsMsg ++ [data.download] ∧
        (processR106 env cloud (some data)).thread = some data.downloadPath := by
  cases hfile : env.updateFile with
  | some md5 => exact .inl (congrArg EOCCloudData.downloadsMsg (cloud_of_updateFile hfile))
  | none =>
      unfold processR106
      rw [hfile]
      dsimp only
      split
      · exact .inl rfl
      · exact .inr ⟨rfl, rfl⟩

/-- An entry that is on the list already answers a request. -/
theorem pending_processR106 (h : Pending cloud data) :
    Pending (processR106 env cloud (some data)).cloud data := by
  obtain ⟨msg, hmsg, hurl⟩ := h
  refine ⟨msg, ?_, hurl⟩
  rcases @processR106_downloadsMsg env cloud data with hsame | ⟨hadded, -⟩
  · rw [hsame]
    exact hmsg
  · rw [hadded]
    exact List.mem_append_left _ hmsg

/-- When a request is answered: there is no file to read, or it has the requested checksum and the
report can be written, or an entry for the address is on the list already. -/
theorem answered_iff (env : DownloadEnv) (cloud : EOCCloudData EocDownloadsMsg) (data : R106) :
    Answered env cloud data ↔
      env.updateFile = none ∨ (env.updateFile = some data.fileMD5 ∧ 0 ≤ env.reported) ∨
        Pending cloud data := by
  constructor
  · intro h
    cases hfile : env.updateFile with
    | none => exact .inl rfl
    | some md5 =>
        rcases h with ⟨hmd5, len, hlen, hmem⟩ | hpending
        · rw [sent_of_md5 hmd5, List.mem_cons, List.mem_singleton] at hmem
          rcases hmem with hfirst | hsecond
          · exact absurd (congrArg Prod.fst hfirst) (md5success_ne data.guid)
          · have hreported : len = env.reported := congrArg Prod.snd hsecond
            rw [hreported] at hlen
            exact .inr (.inl ⟨hfile.symm.trans hmd5, hlen⟩)
        · rw [cloud_of_updateFile hfile] at hpending
          exact .inr (.inr hpending)
  · intro h
    rcases h with hfile | ⟨hmd5, hreported⟩ | hpending
    · exact .inr (pending_of_none hfile)
    · refine .inl ⟨hmd5, env.reported, hreported, ?_⟩
      rw [sent_of_md5 hmd5]
      exact List.mem_cons_of_mem _ List.mem_cons_self
    · exact .inr (pending_processR106 hpending)

/-- A request for a new version, while the file of the old one is still there. -/
theorem not_answered_old_file :
    ¬ Answered { updateFile := some "00", acknowledged := 120, reported := 120 } ⟨[], []⟩
      { guid := "1", downloadPath := "http://eoc/2", fileName := "2", fileSize := "1",
        fileMD5 := "02" } := by
  intro h
  rcases h with ⟨hmd5, -⟩ | ⟨msg, hmsg, -⟩
  · exact absurd (Option.some.inj hmd5) (by decide)
  · cases hmsg

end RVDataFusionServer
