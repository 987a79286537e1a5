import RVDataFusionServer.EocCom.FileFun
import RVDataFusionServer.EocCom.ProcessR102

/-!
# The handlers of the cloud's messages

What the functions in `business` (`EOCCom.cpp`) make `proPkgs` do. A handler that replies to a
command is a list of `ProAction`s, between which the other threads run: it writes `S102`, `S106` or
`S107`, whatever the state of the login, and puts a reboot or a download on the lists of the cloud.
What `Write` returns for a reply is only logged.
-/

namespace RVDataFusionServer

/-- `S107` with its `DataS107`: the progress of an upgrade. -/
structure S107 where
  version : String
  code : String
  guid : String
  dataCode : String
  resultType : Int
  state : Int
  progress : Int
  message : String
  deriving DecidableEq, Repr

/-- `S107::get`. -/
def S107.get (comVersion guuid : String) (result state progress : Int) (message : String) :
    S107 where
  version := comVersion
  code := "MCCS107"
  guid := guuid
  dataCode := "MCCS107"
  resultType := result
  state := state
  progress := progress
  message := message

/-- `R107` with its `DataR107`, as far as the replies of `processR107` depend on them. -/
structure R107 where
  guid : String
  fileMD5 : String
  deriving DecidableEq, Repr

/-- What a call of `processR107` finds outside the process: the checksum of the update file, if it
can be read, and whether it can be extracted. -/
structure UpgradeEnv where
  updateFile : Option String
  extracts : Bool
  deriving DecidableEq, Repr

/-- `processR107`: the messages that it writes. Behind them it runs the script of the upgrade. -/
def processR107 (env : UpgradeEnv) (data : R107) : List S107 :=
  S107.get comVersion data.guid 1 1 0 "接收到升级命令" ::
    match env.updateFile with
    | none => [S107.get comVersion data.guid 2 0 0 "文件不存在"]
    | some md5 =>
        if md5 ≠ data.fileMD5 then [S107.get comVersion data.guid 2 0 0 "MD5校验失败"]
        else
          S107.get comVersion data.guid 2 1 25 "校验完成开始升级" ::
            if ¬ env.extracts then [S107.get comVersion data.guid 2 0 0 "解压缩失败"]
            else [S107.get comVersion data.guid 2 1 0 "升级完成"]

/-- A reply to a command of the cloud. -/
inductive EocReply where
  | s102 (msg : S102)
  | s106 (msg : S106)
  | s107 (msg : S107)
  deriving DecidableEq, Repr

/-- What a call of `processR102` finds outside the process: the database, the statements that fail,
and the time of day. -/
structure ConfigEnv where
  fails : Nat → Bool
  db : Database
  time : String

/-- The messages of the cloud that have an effect, as they are decoded, and all others.
`processR104` hands its message on to `processR102`. -/
inductive EocAnswer where
  | r100
  | r101 (state : Int)
  | r102 (env : ConfigEnv) (data : R102)
  | r106 (env : DownloadEnv) (data : R106)
  | r107 (env : UpgradeEnv) (data : R107)
  | other

/-- What a handler of a command does between two points at which other threads can run. -/
inductive ProAction where
  | write (reply : EocReply)
  | addReboot
  | addDownload (env : DownloadEnv) (data : R106)

/-- The reply that an action writes. -/
def ProAction.reply : ProAction → Option EocReply
  | .write reply => some reply
  | _ => none

/-- The actions of the handler of a message, in their order. The messages of `processR106` do not
depend on the list of downloads, at which it looks behind them. -/
def EocAnswer.actions : EocAnswer → List ProAction
  | .r102 env data =>
      match processR102 env.fails env.db env.time (some data) with
      | (_, s102, reboot) =>
          (s102.toList.map fun msg => .write (.s102 msg)) ++ if reboot then [.addReboot] else []
  | .r106 env data =>
      ((processR106 env { downloadsMsg := [], task := [] } (some data)).sent.map fun entry =>
        .write (.s106 entry.1)) ++ [.addDownload env data]
  | .r107 env data => (processR107 env data).map fun msg => .write (.s107 msg)
  | .r100 | .r101 _ | .other => []

/-- What an action does to the lists of the cloud. -/
def ProAction.apply (cloud : EOCCloudData EocDownloadsMsg) :
    ProAction → EOCCloudData EocDownloadsMsg
  | .write _ => cloud
  | .addReboot => { cloud with task := cloud.task ++ [.sysReboot] }
  | .addDownload env data => (processR106 env cloud (some data)).cloud

/-- What `processR106` writes does not depend on the list of downloads. -/
theorem sent_processR106 (env : DownloadEnv) (cloud : EOCCloudData EocDownloadsMsg) (data : R106) :
    (processR106 env cloud (some data)).sent =
      (processR106 env { downloadsMsg := [], task := [] } (some data)).sent := by
  unfold processR106
  cases env.updateFile with
  | none =>
      dsimp only
      split_ifs <;> rfl
  | some md5 =>
      dsimp only
      split_ifs <;> rfl

/-- The actions of `processR106` leave the lists of the cloud as it does. -/
theorem apply_actions_r106 (env : DownloadEnv) (data : R106)
    (cloud : EOCCloudData EocDownloadsMsg) :
    (EocAnswer.r106 env data).actions.foldl ProAction.apply cloud =
        (processR106 env cloud (some data)).cloud ∧
      (EocAnswer.r106 env data).actions.filterMap ProAction.reply =
        (processR106 env cloud (some data)).sent.map fun entry => .s106 entry.1 := by
  rw [sent_processR106 env cloud data]
  set sent := (processR106 env { downloadsMsg := [], task := [] } (some data)).sent with hsent
  have hwrites (cloud : EOCCloudData EocDownloadsMsg) (sent : List (S106 × Int)) :
      (sent.map fun entry => ProAction.write (.s106 entry.1)).foldl ProAction.apply cloud =
        cloud := by
    induction sent with
    | nil => rfl
    | cons entry sent ih => exact ih
  constructor
  · simp only [EocAnswer.actions, ← hsent, List.foldl_append, hwrites, List.foldl_cons,
      List.foldl_nil, ProAction.apply]
  · simp only [EocAnswer.actions, ← hsent, List.filterMap_append, List.filterMap_map,
      List.filterMap_cons, List.filterMap_nil, ProAction.reply, List.append_nil]
    rw [← List.filterMap_eq_map]
    rfl

end RVDataFusionServer
