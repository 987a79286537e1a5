import RVDataFusionServer.EocCom.ProPkgs
import RVDataFusionServer.Library.Execution

/-!
# A session with the cloud

`intervalPro` and `proPkgs` of `EOCCom.cpp` with the fields that they share: `intervalPro` logs in,
asks for a configuration, beats its heart and reports states at periods of their own, and `proPkgs`
handles the messages of the cloud in between. A step is one stretch of `intervalPro` between two
points at which it writes, sleeps, or reads or writes a shared field, or one of `proPkgs`, or a
download thread sets a status. `step_cases` says once what a step can do.

The threads read and write the fields without a lock. A single access of one of them, like
`heartFlag++`, is one step here.
-/

namespace RVDataFusionServer

open Library Execution

/-- The messages of `intervalPro` that have a period. -/
inductive Timed where
  | s100
  | s101
  | s103
  | s104
  | s105
  deriving DecidableEq, Repr

/-- The periods in seconds. -/
def Timed.period : Timed → Int
  | .s100 => 30
  | .s101 => 10
  | .s103 => 60
  | .s104 => 180
  | .s105 => 300

/-- The points of `intervalPro` between which `proPkgs` can run: the test of the loop, the end of
the sleep, the blocks of the round with their local `now`, and the ends of the thread and of the
process. -/
inductive IntervalPoint where
  | whileTest
  | awake
  | login (now : Int)
  | config (now : Int)
  | heart (now : Int)
  | heartFlag (now : Int)
  | heartTest (now : Int)
  | netState (now : Int)
  | state (now : Int)
  | downloads
  | task
  | returned
  | exited
  deriving DecidableEq, Repr

/-- The point at which a message is written. -/
def Timed.point : Timed → Int → IntervalPoint
  | .s100, now => .heart now
  | .s101, now => .login now
  | .s103, now => .state now
  | .s104, now => .config now
  | .s105, now => .netState now

/-- The point behind a written message. -/
def Timed.behind : Timed → Int → IntervalPoint
  | .s100, now => .heartFlag now
  | .s101, _ => .whileTest
  | .s103, _ => .downloads
  | .s104, now => .heart now
  | .s105, now => .state now

/-- The points of a round behind the login. -/
def IntervalPoint.LoggedIn : IntervalPoint → Prop
  | .config _ | .heart _ | .heartFlag _ | .heartTest _ | .netState _ | .state _ | .downloads
  | .task => True
  | _ => False

/-- The part of `EOCCom` that the two threads share, with the point of `intervalPro`, its local
`version`, whether `proPkgs` has begun, and what is left of the handler that it is in. -/
structure EocSession where
  isLive : Bool
  isLogIn : Bool
  heartFlag : Int
  lastLoginT : Int
  lastSendHeartT : Int
  lastSendNetStateT : Int
  lastGetConfigT : Int
  lastSendStateT : Int
  sendNetTotal : Int
  sendNetSuccess : Int
  eocCloudData : EOCCloudData EocDownloadsMsg
  version : String
  point : IntervalPoint
  proPkgsRun : Bool
  todo : List ProAction

/-- What `intervalPro` gets from outside in one stretch: the time, the version of the configuration
in the database, what `get` and `Write` return, and the counters of the network. -/
structure Outside where
  now : Int := 0
  dbVersion : String := ""
  uname : Int := 0
  len : Int := 0
  netTotal : Int := 0
  netSuccess : Int := 0
  writes : Nat → Int := fun _ => 0

/-- What can be seen of a step. -/
inductive EocEvent where
  | quiet
  | wrote (msg : Timed) (now : Int)
  | getFailed (msg : Timed) (now : Int)
  | counted
  | gaveUp
  | beatAnswered
  | reported (sent : List (S106 × Int))
  | replied (reply : EocReply)
  deriving DecidableEq, Repr

namespace EocSession

/-- `EOCCom::Run`: `intervalPro` is in front of its loop with its locals set, and `proPkgs` has not
begun. The other fields are those of the last session. -/
def run (s : EocSession) : EocSession :=
  { s with
    isLive := true
    heartFlag := 0
    version := ""
    point := .whileTest
    proPkgsRun := false
    todo := [] }

/-- The time of the last message of a kind. -/
def lastT (s : EocSession) : Timed → Int
  | .s100 => s.lastSendHeartT
  | .s101 => s.lastLoginT
  | .s103 => s.lastSendStateT
  | .s104 => s.lastGetConfigT
  | .s105 => s.lastSendNetStateT

def setLastT (s : EocSession) (msg : Timed) (now : Int) : EocSession :=
  match msg with
  | .s100 => { s with lastSendHeartT := now }
  | .s101 => { s with lastLoginT := now }
  | .s103 => { s with lastSendStateT := now }
  | .s104 => { s with lastGetConfigT := now }
  | .s105 => { s with lastSendNetStateT := now }

/-- What `get` of a message returns: `S101` and `S104` ask for the name of the device, and the
others cannot fail. -/
def get (o : Outside) : Timed → Int
  | .s101 | .s104 => o.uname
  | .s100 | .s103 | .s105 => 0

/-- A `Write` that fails ends the connection. -/
def written (s : EocSession) (len : Int) : EocSession :=
  if len < 0 then { s with isLive := false } else s

/-- The block of a message: not due yet, the round goes on at `skipped`. Due, it is written, and the
round goes on at `behind`. If the message cannot be composed, `continue` leaves the round. -/
def block (msg : Timed) (now : Int) (behind skipped : IntervalPoint) (o : Outside)
    (s : EocSession) : EocSession × EocEvent :=
  if msg.period ≤ now - s.lastT msg then
    let s := s.setLastT msg now
    if get o msg ≠ 0 then ({ s with point := .whileTest }, .getFailed msg now)
    else ({ s.written o.len with point := behind }, .wrote msg now)
  else ({ s with point := skipped }, .quiet)

/-- The login: behind a written `S101` the next heartbeat is set to come soon. -/
def onLogin (now : Int) (o : Outside) (s : EocSession) : EocSession × EocEvent :=
  match block .s101 now .whileTest .whileTest o s with
  | (s, .wrote msg now') => ({ s with lastSendHeartT := now - 20 }, .wrote msg now')
  | result => result

/-- `1.获取配置`. -/
def onConfig (now : Int) (o : Outside) (s : EocSession) : EocSession × EocEvent :=
  let s := if s.version = "" then { s with version := o.dbVersion } else s
  if s.version = "" then block .s104 now (.heart now) (.heart now) o s
  else ({ s with point := .heart now }, .quiet)

/-- `2.心跳`, the message. -/
def onHeart (now : Int) (o : Outside) (s : EocSession) : EocSession × EocEvent :=
  block .s100 now (.heartFlag now) (.netState now) o s

/-- `2.心跳`, the count behind the message. -/
def onHeartFlag (now : Int) (s : EocSession) : EocSession × EocEvent :=
  ({ s with heartFlag := s.heartFlag + 1, point := .heartTest now }, .counted)

/-- `2.心跳`, the test of the count. -/
def onHeartTest (now : Int) (s : EocSession) : EocSession × EocEvent :=
  if s.heartFlag > 10 then
    ({ s with isLive := false, heartFlag := 0, point := .netState now }, .gaveUp)
  else ({ s with point := .netState now }, .quiet)

/-- `3.外网状态上传`. -/
def onNetState (now : Int) (o : Outside) (s : EocSession) : EocSession × EocEvent :=
  let s :=
    if Timed.s105.period ≤ now - s.lastT .s105 then
      { s with sendNetTotal := o.netTotal, sendNetSuccess := o.netSuccess }
    else s
  block .s105 now (.state now) (.state now) o s

/-- `主控机状态`. -/
def onState (now : Int) (o : Outside) (s : EocSession) : EocSession × EocEvent :=
  block .s103 now .downloads .downloads o s

/-- `4.升级、下载`. -/
def onDownloads (o : Outside) (s : EocSession) : EocSession × EocEvent :=
  let step := DownloadStep.run o.writes s.isLive s.eocCloudData.downloadsMsg
  ({ s with
      isLive := step.isLive
      eocCloudData := { s.eocCloudData with downloadsMsg := step.kept }
      point := .task },
    .reported step.sent)

/-- `5.任务处理`. -/
def onTask (s : EocSession) : EocSession × EocEvent :=
  match s.eocCloudData.taskStep with
  | none => ({ s with point := .exited }, .quiet)
  | some eocCloudData => ({ s with eocCloudData := eocCloudData, point := .whileTest }, .quiet)

/-- One stretch of `intervalPro`. -/
def stretch (o : Outside) (s : EocSession) : EocSession × EocEvent :=
  match s.point with
  | .whileTest => ({ s with point := if s.isLive then .awake else .returned }, .quiet)
  | .awake => ({ s with point := if s.isLogIn then .config o.now else .login o.now }, .quiet)
  | .login now => s.onLogin now o
  | .config now => s.onConfig now o
  | .heart now => s.onHeart now o
  | .heartFlag now => s.onHeartFlag now
  | .heartTest now => s.onHeartTest now
  | .netState now => s.onNetState now o
  | .state now => s.onState now o
  | .downloads => s.onDownloads o
  | .task => s.onTask
  | .returned => (s, .quiet)
  | .exited => (s, .quiet)

/-- `proPkgs` takes a message. `processR100` and `processR101` are done with it at once, and the
other handlers have something to do. -/
def handle (answer : EocAnswer) (s : EocSession) : EocSession × EocEvent :=
  match answer with
  | .r100 => ({ s with heartFlag := 0 }, .beatAnswered)
  | .r101 state => ({ s with isLogIn := if state = 1 then true else s.isLogIn }, .quiet)
  | answer => ({ s with todo := answer.actions }, .quiet)

/-- One stretch of `proPkgs`: it begins, or gets on in its handler. -/
def onProPkgs (s : EocSession) : EocSession × EocEvent :=
  if ¬ s.proPkgsRun then ({ s with proPkgsRun := true, isLogIn := false }, .quiet)
  else
    match s.todo with
    | [] => (s, .quiet)
    | action :: todo =>
        ({ s with todo := todo, eocCloudData := action.apply s.eocCloudData },
          match action.reply with
          | none => .quiet
          | some reply => .replied reply)

/-- `ThreadDownload` sets the status of the entries for its address. -/
def downloaded (url : String) (result : Int) (s : EocSession) : EocSession × EocEvent :=
  let downloadsMsg := s.eocCloudData.downloadsMsg.map fun iter =>
    if iter.downloadUrl = url then
      { iter with downloadStatus := iter.downloadStatus.ofResult result }
    else iter
  ({ s with eocCloudData := { s.eocCloudData with downloadsMsg } }, .quiet)

/-- What happens in a session: one of the two threads gets on, `proPkgs` takes a message, a download
ends, or the receiving thread finds the connection broken. -/
inductive Input where
  | proPkgs
  | intervalPro (outside : Outside)
  | answer (answer : EocAnswer)
  | downloaded (url : String) (result : Int)
  | broken

/-- A step of a session. -/
def step (s : EocSession) : Input → EocSession × EocEvent
  | .proPkgs => s.onProPkgs
  | .intervalPro outside => s.stretch outside
  | .answer answer => s.handle answer
  | .downloaded url result => s.downloaded url result
  | .broken => ({ s with isLive := false }, .quiet)

/-- `proPkgs` takes a message only once it has begun and is in no handler. It begins in the ten
seconds before `intervalPro` is awake for the first time. -/
def Possible (s : EocSession) : Input → Prop
  | .intervalPro _ => s.point = .awake → s.proPkgsRun = true
  | .answer _ => s.proPkgsRun = true ∧ s.todo.isEmpty = true
  | _ => True

instance (s : EocSession) : (input : Input) → Decidable (s.Possible input)
  | .intervalPro _ => inferInstanceAs (Decidable (_ → _))
  | .answer _ => inferInstanceAs (Decidable (_ ∧ _))
  | .proPkgs | .downloaded _ _ | .broken => .isTrue trivial

/-! ## What a stretch does -/

variable {s : EocSession} {o : Outside}

@[simp] theorem isLogIn_setLastT (s : EocSession) (msg : Timed) (now : Int) :
    (s.setLastT msg now).isLogIn = s.isLogIn := by cases msg <;> rfl

@[simp] theorem proPkgsRun_setLastT (s : EocSession) (msg : Timed) (now : Int) :
    (s.setLastT msg now).proPkgsRun = s.proPkgsRun := by cases msg <;> rfl

@[simp] theorem heartFlag_setLastT (s : EocSession) (msg : Timed) (now : Int) :
    (s.setLastT msg now).heartFlag = s.heartFlag := by cases msg <;> rfl

@[simp] theorem isLive_setLastT (s : EocSession) (msg : Timed) (now : Int) :
    (s.setLastT msg now).isLive = s.isLive := by cases msg <;> rfl

@[simp] theorem lastT_setLastT (s : EocSession) (msg other : Timed) (now : Int) :
    (s.setLastT msg now).lastT other = if other = msg then now else s.lastT other := by
  cases msg <;> cases other <;> rfl

/-- What a failed `Write` changes is the flag of the connection. -/
theorem written_eq (s : EocSession) (len : Int) :
    s.written len = { s with isLive := if len < 0 then false else s.isLive } := by
  unfold written
  split_ifs <;> rfl

/-- A block that is not due changes the point only. One that is due remembers its time, and leaves
the round or writes its message. -/
theorem block_cases (msg : Timed) (now : Int) (behind skipped : IntervalPoint) (o : Outside)
    (s : EocSession) :
    block msg now behind skipped o s = ({ s with point := skipped }, .quiet) ∨
      msg.period ≤ now - s.lastT msg ∧
        block msg now behind skipped o s =
          ({ s.setLastT msg now with point := .whileTest }, .getFailed msg now) ∨
      msg.period ≤ now - s.lastT msg ∧
        ∃ live, block msg now behind skipped o s =
          ({ s.setLastT msg now with isLive := live, point := behind }, .wrote msg now) ∧
          (live = true → s.isLive = true) := by
  unfold block
  split_ifs with hdue hget
  · exact .inr (.inl ⟨hdue, rfl⟩)
  · refine .inr (.inr ⟨hdue, if o.len < 0 then false else s.isLive, ?_, ?_⟩)
    · simp only [written_eq, isLive_setLastT]
    · split_ifs <;> simp
  · exact .inl rfl

/-- The points to which `intervalPro` can go on without a message. -/
structure GoesOn (s : EocSession) (point : IntervalPoint) : Prop where
  beat : ∀ now, point ≠ .heartFlag now
  test : ∀ now, point ≠ .heartTest now
  login : ∀ now, point = .login now → s.point = .awake ∧ s.isLogIn = false
  config : ∀ now, point = .config now → s.point = .awake ∧ s.isLogIn = true
  heart : ∀ now, point = .heart now → s.point = .config now
  awake : point = .awake → s.isLive = true
  uncounted : ∀ now, s.point ≠ .heartFlag now
  few : ∀ now, s.point = .heartTest now → s.heartFlag ≤ 10
  inside : point.LoggedIn → s.point.LoggedIn ∨ s.point = .awake ∧ s.isLogIn = true

/-- All that one stretch can do: go on without a message, leave the round because a message cannot
be composed, write a message, count a heartbeat, or report downloads. -/
inductive Stretch (s : EocSession) : EocSession × EocEvent → Prop where
  | moved (version : String) (total success : Int) (data : EOCCloudData EocDownloadsMsg)
      (point : IntervalPoint) (hpoint : s.GoesOn point) :
      Stretch s ({ s with
        version := version
        sendNetTotal := total
        sendNetSuccess := success
        eocCloudData := data
        point := point }, .quiet)
  | getFailed (msg : Timed) (now : Int) (version : String) (total success : Int)
      (hpoint : s.point = msg.point now) (hdue : s.lastT msg + msg.period ≤ now) :
      Stretch s ({ s.setLastT msg now with
        version := version
        sendNetTotal := total
        sendNetSuccess := success
        point := .whileTest }, .getFailed msg now)
  | wrote (msg : Timed) (now : Int) (version : String) (total success : Int) (live : Bool)
      (beat : Int) (hpoint : s.point = msg.point now) (hdue : s.lastT msg + msg.period ≤ now)
      (hlive : live = true → s.isLive = true)
      (hbeat : msg = .s101 ∨ beat = (s.setLastT msg now).lastSendHeartT) :
      Stretch s ({ s.setLastT msg now with
        version := version
        sendNetTotal := total
        sendNetSuccess := success
        isLive := live
        lastSendHeartT := beat
        point := msg.behind now }, .wrote msg now)
  | counted (now : Int) (hpoint : s.point = .heartFlag now) :
      Stretch s ({ s with heartFlag := s.heartFlag + 1, point := .heartTest now }, .counted)
  | gaveUp (now : Int) (hpoint : s.point = .heartTest now) (hmany : 10 < s.heartFlag) :
      Stretch s ({ s with isLive := false, heartFlag := 0, point := .netState now }, .gaveUp)
  | reported (live : Bool) (data : EOCCloudData EocDownloadsMsg) (sent : List (S106 × Int))
      (hpoint : s.point = .downloads) (hlive : live = true → s.isLive = true) :
      Stretch s ({ s with isLive := live, eocCloudData := data, point := .task }, .reported sent)

/-- What a block does is one of these. -/
theorem stretch_block {s' : EocSession} (msg : Timed) {now : Int} {skipped : IntervalPoint}
    (o : Outside) (version : String) (total success : Int)
    (hs' : s' = { s with version := version, sendNetTotal := total, sendNetSuccess := success })
    (hpoint : s.point = msg.point now) (hskipped : s.GoesOn skipped) :
    Stretch s (block msg now (msg.behind now) skipped o s') := by
  have hsame : ∀ other, s'.lastT other = s.lastT other := by
    intro other
    rw [hs']
    cases other <;> rfl
  rcases block_cases msg now (msg.behind now) skipped o s' with
    heq | ⟨hdue, heq⟩ | ⟨hdue, live, heq, hlive⟩
  · rw [heq, hs']
    exact .moved version total success s.eocCloudData skipped hskipped
  · rw [hsame] at hdue
    have hmake : ({ s'.setLastT msg now with point := .whileTest } : EocSession) =
        { s.setLastT msg now with
          version := version
          sendNetTotal := total
          sendNetSuccess := success
          point := .whileTest } := by
      rw [hs']
      cases msg <;> rfl
    rw [heq, hmake]
    exact .getFailed msg now version total success hpoint (by omega)
  · rw [hsame] at hdue
    have hmake :
        ({ s'.setLastT msg now with isLive := live, point := msg.behind now } : EocSession) =
        { s.setLastT msg now with
          version := version
          sendNetTotal := total
          sendNetSuccess := success
          isLive := live
          lastSendHeartT := (s.setLastT msg now).lastSendHeartT
          point := msg.behind now } := by
      rw [hs']
      cases msg <;> rfl
    rw [heq, hmake]
    exact .wrote msg now version total success live _ hpoint (by omega)
      (fun h => by rw [hs'] at hlive; exact hlive h) (.inr rfl)

/-- The download step does not bring a connection back. -/
theorem isLive_reportDevs {writes : Nat → Int} {status : EocDownloadStatus}
    (devs : List EocUpgradeDev) (step : DownloadStep)
    (h : (reportDevs writes status devs step).isLive = true) : step.isLive = true := by
  induction devs generalizing step with
  | nil => exact h
  | cons dev devs ih =>
      unfold reportDevs at h
      dsimp only at h
      split_ifs at h
      · have hstep := ih _ h
        exact hstep
      · exact ih _ h

theorem isLive_run {writes : Nat → Int} {live : Bool} (downloadsMsg : List EocDownloadsMsg)
    (h : (DownloadStep.run writes live downloadsMsg).isLive = true) : live = true := by
  have hfold (step : DownloadStep) (downloadsMsg : List EocDownloadsMsg)
      (h : (downloadsMsg.foldl (DownloadStep.visit writes) step).isLive = true) :
      step.isLive = true := by
    induction downloadsMsg generalizing step with
    | nil => exact h
    | cons msg rest ih =>
        have hvisit := ih _ h
        unfold DownloadStep.visit at hvisit
        split_ifs at hvisit
        · exact isLive_reportDevs _ _ hvisit
        · exact hvisit
  exact hfold _ _ h

/-- A round ends at any point where no heartbeat is counted or tested. -/
theorem GoesOn.of_end {point : IntervalPoint}
    (hnot : ∀ now, s.point ≠ .heartFlag now ∧ s.point ≠ .heartTest now)
    (h : point = .whileTest ∨ point = .returned ∨ point = .exited) : s.GoesOn point := by
  constructor
  case uncounted => exact fun now => (hnot now).1
  case few => exact fun now heq => absurd heq (hnot now).2
  all_goals rcases h with rfl | rfl | rfl <;> simp [IntervalPoint.LoggedIn]

/-- A round behind the login goes on to what stands behind the heartbeat. -/
theorem GoesOn.of_loggedIn {point : IntervalPoint} (hin : s.point.LoggedIn)
    (hbeat : ∀ now, s.point ≠ .heartFlag now)
    (hfew : ∀ now, s.point = .heartTest now → s.heartFlag ≤ 10)
    (h : (∃ now, point = .netState now) ∨ (∃ now, point = .state now) ∨ point = .downloads) :
    s.GoesOn point := by
  constructor
  case uncounted => exact hbeat
  case few => exact hfew
  all_goals rcases h with ⟨now, rfl⟩ | ⟨now, rfl⟩ | rfl <;> simp [hin]

/-- A thread that has ended stays where it is. -/
theorem Stretch.of_ended (hended : s.point = .returned ∨ s.point = .exited) :
    Stretch s (s, .quiet) := by
  have hgoes : s.GoesOn s.point := by
    refine .of_end ?_ (.inr hended)
    rcases hended with hpoint | hpoint <;> simp [hpoint]
  exact .moved s.version s.sendNetTotal s.sendNetSuccess s.eocCloudData s.point hgoes

/-- A stretch of `intervalPro` is one of these. -/
theorem stretch_cases (o : Outside) (s : EocSession) : Stretch s (s.stretch o) := by
  cases hpoint : s.point with
  | whileTest =>
      have hgoes : s.GoesOn (if s.isLive then .awake else .returned) := by
        constructor <;> cases hlive : s.isLive <;> simp [IntervalPoint.LoggedIn, hpoint]
      simpa only [stretch, hpoint] using
        Stretch.moved s.version s.sendNetTotal s.sendNetSuccess s.eocCloudData _ hgoes
  | awake =>
      have hgoes : s.GoesOn (if s.isLogIn then .config o.now else .login o.now) := by
        constructor <;> cases hlogin : s.isLogIn <;> simp [IntervalPoint.LoggedIn, hpoint]
      simpa only [stretch, hpoint] using
        Stretch.moved s.version s.sendNetTotal s.sendNetSuccess s.eocCloudData _ hgoes
  | login now =>
      have hblock : Stretch s (block .s101 now .whileTest .whileTest o s) :=
        stretch_block .s101 o s.version s.sendNetTotal s.sendNetSuccess rfl hpoint
          (.of_end (by simp [hpoint]) (.inl rfl))
      simp only [stretch, hpoint, onLogin]
      rcases block_cases .s101 now .whileTest .whileTest o s with
        heq | ⟨-, heq⟩ | ⟨hdue, live, heq, hlive⟩
      · rwa [heq] at hblock ⊢
      · rwa [heq] at hblock ⊢
      · rw [heq]
        exact .wrote .s101 now s.version s.sendNetTotal s.sendNetSuccess live (now - 20) hpoint
          (by omega) hlive (.inl rfl)
  | config now =>
      have hgoes : s.GoesOn (.heart now) := by
        constructor <;> simp [IntervalPoint.LoggedIn, hpoint]
      have hconfig : Stretch s (s.onConfig now o) := by
        set version := if s.version = "" then o.dbVersion else s.version with hversion
        have hs' : (if s.version = "" then { s with version := o.dbVersion } else s) =
            { s with version := version } := by
          rw [hversion]
          split_ifs <;> rfl
        simp only [onConfig, hs']
        split_ifs
        · exact stretch_block .s104 o version s.sendNetTotal s.sendNetSuccess rfl hpoint hgoes
        · exact .moved version s.sendNetTotal s.sendNetSuccess s.eocCloudData _ hgoes
      simpa only [stretch, hpoint] using hconfig
  | heart now =>
      have hgoes : s.GoesOn (.netState now) := .of_loggedIn
        (by simp [hpoint, IntervalPoint.LoggedIn]) (by simp [hpoint]) (by simp [hpoint])
        (.inl ⟨now, rfl⟩)
      simp only [stretch, hpoint, onHeart]
      exact stretch_block .s100 o s.version s.sendNetTotal s.sendNetSuccess rfl hpoint hgoes
  | heartFlag now =>
      simp only [stretch, hpoint, onHeartFlag]
      exact .counted now hpoint
  | heartTest now =>
      simp only [stretch, hpoint, onHeartTest]
      split_ifs with hmany
      · exact .gaveUp now hpoint hmany
      · have hgoes : s.GoesOn (.netState now) := .of_loggedIn
          (by simp [hpoint, IntervalPoint.LoggedIn]) (by simp [hpoint]) (fun _ _ => by omega)
          (.inl ⟨now, rfl⟩)
        exact .moved s.version s.sendNetTotal s.sendNetSuccess s.eocCloudData _ hgoes
  | netState now =>
      have hgoes : s.GoesOn (.state now) := .of_loggedIn (by simp [hpoint, IntervalPoint.LoggedIn])
        (by simp [hpoint]) (by simp [hpoint]) (.inr (.inl ⟨now, rfl⟩))
      have hnetState : Stretch s (s.onNetState now o) := by
        unfold onNetState
        split_ifs
        · exact stretch_block .s105 o s.version o.netTotal o.netSuccess rfl hpoint hgoes
        · exact stretch_block .s105 o s.version s.sendNetTotal s.sendNetSuccess rfl hpoint hgoes
      simpa only [stretch, hpoint] using hnetState
  | state now =>
      have hgoes : s.GoesOn .downloads := .of_loggedIn (by simp [hpoint, IntervalPoint.LoggedIn])
        (by simp [hpoint]) (by simp [hpoint]) (.inr (.inr rfl))
      simp only [stretch, hpoint, onState]
      exact stretch_block .s103 o s.version s.sendNetTotal s.sendNetSuccess rfl hpoint hgoes
  | downloads =>
      simp only [stretch, hpoint, onDownloads]
      exact .reported _ _ _ hpoint (isLive_run _)
  | task =>
      have hnot : ∀ now, s.point ≠ .heartFlag now ∧ s.point ≠ .heartTest now := by simp [hpoint]
      simp only [stretch, hpoint, onTask]
      cases s.eocCloudData.taskStep with
      | none =>
          exact .moved s.version s.sendNetTotal s.sendNetSuccess s.eocCloudData .exited
            (.of_end hnot (.inr (.inr rfl)))
      | some data =>
          exact .moved s.version s.sendNetTotal s.sendNetSuccess data .whileTest
            (.of_end hnot (.inl rfl))
  | returned => simpa only [stretch, hpoint] using Stretch.of_ended (.inl hpoint)
  | exited => simpa only [stretch, hpoint] using Stretch.of_ended (.inr hpoint)

/-- All that one step can do: a stretch of `intervalPro`, what the start of `proPkgs`, the answers
to a heartbeat and to a login and the end of the connection do to the flags, and what concerns the
handlers and the lists of the cloud only. -/
inductive Proceeds (s : EocSession) : Input → EocSession × EocEvent → Prop where
  | intervalPro (o : Outside) (result : EocSession × EocEvent) (hstretch : Stretch s result) :
      Proceeds s (.intervalPro o) result
  | begun (hrun : s.proPkgsRun = false) :
      Proceeds s .proPkgs ({ s with proPkgsRun := true, isLogIn := false }, .quiet)
  | beatAnswered : Proceeds s (.answer .r100) ({ s with heartFlag := 0 }, .beatAnswered)
  | loginAnswered (state : Int) :
      Proceeds s (.answer (.r101 state))
        ({ s with isLogIn := if state = 1 then true else s.isLogIn }, .quiet)
  | broken : Proceeds s .broken ({ s with isLive := false }, .quiet)
  | worked (input : Input) (todo : List ProAction) (data : EOCCloudData EocDownloadsMsg)
      (event : EocEvent) (hother : ∀ o, input ≠ .intervalPro o)
      (hevent : event = .quiet ∨ ∃ reply, event = .replied reply) :
      Proceeds s input ({ s with todo := todo, eocCloudData := data }, event)

/-- A step is one of these. -/
theorem step_cases (s : EocSession) (input : Input) :
    ∃ result, step s input = result ∧ Proceeds s input result := by
  refine ⟨_, rfl, ?_⟩
  cases input with
  | intervalPro o => exact .intervalPro o _ (stretch_cases o s)
  | broken => exact .broken
  | downloaded url result => exact .worked _ s.todo _ _ (by simp) (.inl rfl)
  | answer answer =>
      cases answer with
      | r100 => exact .beatAnswered
      | r101 state => exact .loginAnswered state
      | _ => exact .worked _ _ s.eocCloudData _ (by simp) (.inl rfl)
  | proPkgs =>
      show Proceeds s .proPkgs s.onProPkgs
      unfold onProPkgs
      by_cases hrun : s.proPkgsRun = true
      · rw [if_neg (not_not.mpr hrun)]
        cases s.todo with
        | nil => exact .worked .proPkgs s.todo s.eocCloudData _ (by simp) (.inl rfl)
        | cons action todo =>
            refine .worked .proPkgs todo _ _ (by simp) ?_
            cases action.reply with
            | none => exact .inl rfl
            | some reply => exact .inr ⟨reply, rfl⟩
      · rw [if_pos hrun]
        exact .begun (by simpa using hrun)

end EocSession

end RVDataFusionServer
