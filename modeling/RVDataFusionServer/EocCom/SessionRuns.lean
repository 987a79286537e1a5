import Mathlib.Tactic.Ring
import RVDataFusionServer.EocCom.EocSession
import RVDataFusionServer.Library.Throttle

/-!
# Runs of a session with the cloud

What holds in every run of `intervalPro` and `proPkgs`, by an invariant of `step_cases` for each:
`login_gate` (what is written before and after the login), `watchdog` (unanswered heartbeats) and
`spaced_writes` (the periods).
-/

namespace RVDataFusionServer

open Library Execution

namespace EocSession

variable {s : EocSession}

/-! ## The login -/

/-- The event is no message to the cloud but the login or a reply. -/
def LoginOnly : EocEvent → Prop
  | .wrote msg _ => msg = .s101
  | .reported _ => False
  | _ => True

/-- The event is a login. -/
def isLogin : EocEvent → Bool
  | .wrote .s101 _ => true
  | _ => false

/-- The reply that an event writes. -/
def replyOf : EocEvent → Option EocReply
  | .replied reply => some reply
  | _ => none

/-- The replies that a handler still has to write. -/
def repliesDue (todo : List ProAction) : List EocReply := todo.filterMap ProAction.reply

/-- The replies to a message. -/
def Input.replies : Input → List EocReply
  | .answer msg => repliesDue msg.actions
  | _ => []

/-- What `proPkgs` replies is what the messages that it takes ask for. -/
theorem replies_step {input : Input} (hpossible : s.Possible input) :
    (replyOf (step s input).2).toList ++ repliesDue (step s input).1.todo =
      repliesDue s.todo ++ input.replies := by
  cases input with
  | intervalPro o =>
      have hstretch := stretch_cases o s
      have hsame : (replyOf (s.stretch o).2).toList = [] ∧ (s.stretch o).1.todo = s.todo := by
        revert hstretch
        generalize s.stretch o = result
        intro hstretch
        cases hstretch with
        | getFailed msg => cases msg <;> exact ⟨rfl, rfl⟩
        | wrote msg => cases msg <;> exact ⟨rfl, rfl⟩
        | _ => exact ⟨rfl, rfl⟩
      show (replyOf (s.stretch o).2).toList ++ repliesDue (s.stretch o).1.todo = _
      rw [hsame.1, hsame.2]
      exact (List.append_nil _).symm
  | broken => exact (List.append_nil _).symm
  | downloaded url result => exact (List.append_nil _).symm
  | answer answer =>
      have htodo : s.todo = [] := List.isEmpty_iff.mp hpossible.2
      cases answer with
      | r100 => simp [step, handle, replyOf, htodo, Input.replies, EocAnswer.actions, repliesDue]
      | r101 state =>
          simp [step, handle, replyOf, htodo, Input.replies, EocAnswer.actions, repliesDue]
      | _ => simp [step, handle, replyOf, htodo, Input.replies, repliesDue]
  | proPkgs =>
      show (replyOf s.onProPkgs.2).toList ++ repliesDue s.onProPkgs.1.todo =
        repliesDue s.todo ++ []
      rw [List.append_nil]
      unfold onProPkgs
      by_cases hrun : s.proPkgsRun = true
      · rw [if_neg (not_not.mpr hrun)]
        cases htodo : s.todo with
        | nil => simp [replyOf, htodo]
        | cons action todo => cases haction : action.reply <;> simp [replyOf, repliesDue, haction]
      · rw [if_pos hrun]
        rfl

/-- The replies of a run, with those still due. -/
theorem replies_run {inputs : List Input} (hpossible : Allowed step Possible s inputs) :
    (outputs step s inputs).filterMap replyOf ++ repliesDue (final step s inputs).todo =
      repliesDue s.todo ++ inputs.flatMap Input.replies := by
  induction inputs generalizing s with
  | nil => exact (List.append_nil _).symm
  | cons input rest ih =>
      obtain ⟨hfirst, hrest⟩ := hpossible
      have hone := replies_step hfirst
      have hsplit : (outputs step s (input :: rest)).filterMap replyOf =
          (replyOf (step s input).2).toList ++
            (outputs step (step s input).1 rest).filterMap replyOf := by
        rw [outputs_cons, List.filterMap_cons]
        cases replyOf (step s input).2 <;> rfl
      rw [hsplit, List.append_assoc, final_cons, ih hrest, ← List.append_assoc, hone,
        List.append_assoc, List.flatMap_cons]

/-- `intervalPro` is not in a round behind the login, and no login was accepted since `proPkgs` has
begun. -/
structure LoggedOut (s : EocSession) : Prop where
  outside : ¬ s.point.LoggedIn
  refused : s.proPkgsRun = true → s.isLogIn = false

/-- Without an accepted login a step leaves the session logged out, and writes nothing but the
login and replies. -/
theorem loggedOut_step (hs : s.LoggedOut) {input : Input} (hpossible : s.Possible input)
    (hinput : input ≠ .answer (.r101 1)) :
    (step s input).1.LoggedOut ∧ LoginOnly (step s input).2 := by
  obtain ⟨houtside, hrefused⟩ := hs
  obtain ⟨result, hresult, hproceeds⟩ := step_cases s input
  rw [hresult]
  cases hproceeds with
  | begun hrun => exact ⟨⟨houtside, fun _ => rfl⟩, trivial⟩
  | beatAnswered => exact ⟨⟨houtside, hrefused⟩, trivial⟩
  | broken => exact ⟨⟨houtside, hrefused⟩, trivial⟩
  | worked _ todo data event hother hevent =>
      refine ⟨⟨houtside, hrefused⟩, ?_⟩
      obtain rfl | ⟨reply, rfl⟩ := hevent <;> trivial
  | loginAnswered state =>
      have hstate : state ≠ 1 := fun h => hinput (by rw [h])
      refine ⟨⟨houtside, fun hrun => ?_⟩, trivial⟩
      show (if state = 1 then true else s.isLogIn) = false
      rw [if_neg hstate]
      exact hrefused hrun
  | intervalPro o _ hstretch =>
      cases hstretch with
      | moved version total success data point hgoes =>
          refine ⟨⟨fun hin => ?_, hrefused⟩, trivial⟩
          rcases hgoes.inside hin with hold | ⟨hpoint, htrue⟩
          · exact houtside hold
          · rw [hrefused (hpossible hpoint)] at htrue
            cases htrue
      | getFailed msg now version total success hpoint hdue =>
          refine ⟨⟨fun hin => hin.elim, ?_⟩, trivial⟩
          simpa using hrefused
      | wrote msg now version total success live beat hpoint hdue hlive hbeat =>
          rw [hpoint] at houtside
          cases msg with
          | s101 => exact ⟨⟨fun hin => hin.elim, by simpa using hrefused⟩, rfl⟩
          | s100 => exact absurd trivial houtside
          | s103 => exact absurd trivial houtside
          | s104 => exact absurd trivial houtside
          | s105 => exact absurd trivial houtside
      | counted now hpoint =>
          rw [hpoint] at houtside
          exact absurd trivial houtside
      | gaveUp now hpoint hmany =>
          rw [hpoint] at houtside
          exact absurd trivial houtside
      | reported live data sent hpoint hlive =>
          rw [hpoint] at houtside
          exact absurd trivial houtside

/-- A login was accepted since `proPkgs` has begun. -/
def Accepted (s : EocSession) : Prop := s.proPkgsRun = true ∧ s.isLogIn = true

/-- The logins that are still to be written behind an accepted one: that of the round under way. -/
def loginsDue (s : EocSession) : Nat :=
  match s.point with
  | .login _ => 1
  | _ => 0

/-- Behind an accepted login the session stays accepted, and no round asks for another one. -/
theorem accepted_step (hs : s.Accepted) (input : Input) :
    (step s input).1.Accepted ∧
      (step s input).1.loginsDue + (if isLogin (step s input).2 then 1 else 0) ≤ s.loginsDue := by
  obtain ⟨hrun, hlogIn⟩ := hs
  obtain ⟨result, hresult, hproceeds⟩ := step_cases s input
  rw [hresult]
  cases hproceeds with
  | begun hnot =>
      rw [hrun] at hnot
      cases hnot
  | beatAnswered => exact ⟨⟨hrun, hlogIn⟩, Nat.le_refl _⟩
  | broken => exact ⟨⟨hrun, hlogIn⟩, Nat.le_refl _⟩
  | worked _ todo data event hother hevent =>
      refine ⟨⟨hrun, hlogIn⟩, ?_⟩
      obtain rfl | ⟨reply, rfl⟩ := hevent <;> exact Nat.le_refl _
  | loginAnswered state =>
      refine ⟨⟨hrun, ?_⟩, Nat.le_refl _⟩
      show (if state = 1 then true else s.isLogIn) = true
      rw [hlogIn, ite_self]
  | intervalPro o _ hstretch =>
      cases hstretch with
      | moved version total success data point hgoes =>
          refine ⟨⟨hrun, hlogIn⟩, ?_⟩
          cases point with
          | login now =>
              rw [(hgoes.login now rfl).2] at hlogIn
              cases hlogIn
          | _ => simp [loginsDue, isLogin]
      | getFailed msg now version total success hpoint hdue =>
          exact ⟨⟨by simpa using hrun, by simpa using hlogIn⟩, by simp [loginsDue, isLogin]⟩
      | wrote msg now version total success live beat hpoint hdue hlive hbeat =>
          refine ⟨⟨by simpa using hrun, by simpa using hlogIn⟩, ?_⟩
          cases msg <;> simp [loginsDue, isLogin, hpoint, Timed.point, Timed.behind]
      | counted now hpoint => exact ⟨⟨hrun, hlogIn⟩, by simp [loginsDue, isLogin]⟩
      | gaveUp now hpoint hmany => exact ⟨⟨hrun, hlogIn⟩, by simp [loginsDue, isLogin]⟩
      | reported live data sent hpoint hlive =>
          exact ⟨⟨hrun, hlogIn⟩, by simp [loginsDue, isLogin]⟩

/-- The login opens the session. Until the cloud accepts one, `intervalPro` writes nothing else, and
once it has, at most the login of the round under way is still written. `proPkgs` does not look at
the login: it writes the replies to the commands that it takes, in their order. -/
theorem login_gate (s : EocSession) (inputs : List Input)
    (hpossible : Allowed step Possible s.run inputs) :
    (.answer (.r101 1) ∉ inputs → ∀ event ∈ outputs step s.run inputs, LoginOnly event) ∧
      (∀ first rest, inputs = first ++ .answer (.r101 1) :: rest →
        (outputs step (final step s.run first) (.answer (.r101 1) :: rest)).countP isLogin ≤ 1) ∧
      (outputs step s.run inputs).filterMap replyOf ++
          repliesDue (final step s.run inputs).todo = inputs.flatMap Input.replies := by
  refine ⟨fun hnone => ?_, fun first rest hsplit => ?_, replies_run hpossible⟩
  · have hother : Allowed step (fun _ input => input ≠ .answer (.r101 1)) s.run inputs :=
      allowed_of_forall _ _ fun _ input hinput heq => hnone (heq ▸ hinput)
    have hstart : s.run.LoggedOut := ⟨fun h => h.elim, fun h => by cases h⟩
    exact forall_outputs_of_allowed
      (fun s input (hs : s.LoggedOut) hok => loggedOut_step hs hok.1 hok.2) hstart
      (hpossible.and hother)
  · rw [hsplit, allowed_append] at hpossible
    obtain ⟨-, hrun, hrest⟩ := hpossible
    have haccepted : Accepted (step (final step s.run first) (.answer (.r101 1))).1 :=
      ⟨hrun.1, by simp [step, handle]⟩
    have hbound := countP_outputs_le (fun s a hs _ => (accepted_step hs a).1)
      (fun s a hs _ => (accepted_step hs a).2) haccepted hrest
    rw [outputs_cons, List.countP_cons]
    have hquiet : isLogin (step (final step s.run first) (.answer (.r101 1))).2 = false := rfl
    have hdue (s : EocSession) : s.loginsDue ≤ 1 := by
      unfold loginsDue
      split <;> omega
    rw [hquiet]
    exact hbound.trans (hdue _)

/-- A session in which a download is requested before the login is accepted. -/
def oneLogin : List Input :=
  [.proPkgs, .intervalPro {}, .intervalPro { now := 100 }, .intervalPro {},
    .answer (.r106 ⟨some "00", 0, 0⟩ ⟨"1", "http://eoc/2", "f", "1", "02"⟩), .proPkgs, .proPkgs,
    .answer (.r101 1), .intervalPro {}, .intervalPro { now := 110 }]

/-- A process that has just started. -/
def fresh : EocSession where
  isLive := false
  isLogIn := false
  heartFlag := 0
  lastLoginT := 50
  lastSendHeartT := 50
  lastSendNetStateT := 50
  lastGetConfigT := 50
  lastSendStateT := 50
  sendNetTotal := 0
  sendNetSuccess := 0
  eocCloudData := ⟨[], []⟩
  version := ""
  point := .returned
  proPkgsRun := false
  todo := []

theorem possible_oneLogin : Allowed step Possible fresh.run oneLogin := by
  decide +kernel

theorem login_gate_oneLogin :
    (outputs step (final step fresh.run (oneLogin.take 7)) (oneLogin.drop 7)).countP isLogin ≤ 1 ∧
      (outputs step fresh.run oneLogin).filterMap replyOf ++
          repliesDue (final step fresh.run oneLogin).todo = oneLogin.flatMap Input.replies :=
  ⟨(login_gate fresh oneLogin possible_oneLogin).2.1 (oneLogin.take 7) (oneLogin.drop 8) rfl,
    (login_gate fresh oneLogin possible_oneLogin).2.2⟩

/-! ## The heartbeats -/

/-- The event is a heartbeat. -/
def isBeat : EocEvent → Bool
  | .wrote .s100 _ => true
  | _ => false

/-- What the events say about the heartbeats: how many were written since the last answer to one,
whether that answer came before the heartbeat in front of it was counted, and whether the last
heartbeat is still to be counted. -/
structure Beats where
  written : Nat := 0
  early : Bool := false
  due : Bool := false
  deriving DecidableEq, Repr

def Beats.after (beats : Beats) : EocEvent → Beats
  | .wrote .s100 _ => { beats with written := beats.written + 1, due := true }
  | .counted => { beats with due := false }
  | .beatAnswered => { written := 0, early := beats.due, due := beats.due }
  | _ => beats

/-- The unanswered heartbeats, and the one that was counted behind the last answer. -/
def Beats.unanswered (beats : Beats) : Nat := beats.written + beats.early.toNat

/-- The heartbeats of a run. -/
def beats (events : List EocEvent) : Beats := events.foldl Beats.after {}

/-- The flag counts the heartbeats. Only in front of its test it can be 11. -/
structure Counts (s : EocSession) (beats : Beats) : Prop where
  due : beats.due = true ↔ ∃ now, s.point = .heartFlag now
  flag : s.heartFlag + beats.due.toNat = beats.unanswered
  few : s.heartFlag ≤ 10 ∨ s.heartFlag = 11 ∧ ∃ now, s.point = .heartTest now

/-- A step that neither writes nor counts nor answers a heartbeat leaves the count. -/
theorem Counts.of_same {s' : EocSession} {beats : Beats} (hs : s.Counts beats)
    (hflag : s'.heartFlag = s.heartFlag) (hpoint : s'.point = s.point) : s'.Counts beats := by
  obtain ⟨hdue, hsum, hfew⟩ := hs
  exact ⟨by rw [hpoint]; exact hdue, by rw [hflag]; exact hsum, by rw [hflag, hpoint]; exact hfew⟩

/-- Away from the test the flag is at most 10. -/
theorem Counts.le_ten {beats : Beats} (hs : s.Counts beats)
    (hnot : ∀ now, s.point ≠ .heartTest now) : s.heartFlag ≤ 10 :=
  hs.few.resolve_right fun ⟨_, now, hpoint⟩ => hnot now hpoint

/-- Away from the count no heartbeat is to be counted. -/
theorem Counts.due_eq_false {beats : Beats} (hs : s.Counts beats)
    (hnot : ∀ now, s.point ≠ .heartFlag now) : beats.due = false := by
  rw [Bool.eq_false_iff, ne_eq, hs.due]
  exact fun ⟨now, hpoint⟩ => hnot now hpoint

/-- At another point than these two no heartbeat is to be counted or tested. -/
theorem Counts.of_moved {s' : EocSession} {beats : Beats} (hs : s.Counts beats)
    (hflag : s'.heartFlag = s.heartFlag) (hfew : s.heartFlag ≤ 10)
    (hfrom : ∀ now, s.point ≠ .heartFlag now) (hto : ∀ now, s'.point ≠ .heartFlag now) :
    s'.Counts beats := by
  refine ⟨?_, by rw [hflag]; exact hs.flag, .inl (by rw [hflag]; exact hfew)⟩
  rw [hs.due_eq_false hfrom]
  exact iff_of_false nofun fun ⟨now, hpoint⟩ => hto now hpoint

/-- No message is written where a heartbeat is counted or tested. -/
theorem point_ne_heartFlag (msg : Timed) (now now' : Int) : msg.point now ≠ .heartFlag now' := by
  cases msg <;> exact nofun

theorem point_ne_heartTest (msg : Timed) (now now' : Int) : msg.point now ≠ .heartTest now' := by
  cases msg <;> exact nofun

/-- Until the session is given up, every step keeps the count. It gives up with 11. -/
theorem counts_step {beats : Beats} (hs : s.Counts beats) (input : Input) :
    ((step s input).2 = .gaveUp → beats.unanswered = 11 ∧ beats.due = false) ∧
      ((step s input).2 ≠ .gaveUp →
        (step s input).1.Counts (beats.after (step s input).2)) := by
  have hflag := hs.flag
  obtain ⟨result, hresult, hproceeds⟩ := step_cases s input
  rw [hresult]
  cases hproceeds with
  | begun hrun => exact ⟨nofun, fun _ => hs.of_same rfl rfl⟩
  | broken => exact ⟨nofun, fun _ => hs.of_same rfl rfl⟩
  | loginAnswered state => exact ⟨nofun, fun _ => hs.of_same rfl rfl⟩
  | worked _ todo data event hother hevent =>
      obtain rfl | ⟨reply, rfl⟩ := hevent <;> exact ⟨nofun, fun _ => hs.of_same rfl rfl⟩
  | beatAnswered =>
      -- the flag starts again, and a heartbeat under way is counted behind that
      refine ⟨nofun, fun _ => ⟨hs.due, ?_, .inl (show (0 : Int) ≤ 10 by omega)⟩⟩
      show (0 : Int) + beats.due.toNat = ((0 + beats.due.toNat : Nat) : Int)
      omega
  | intervalPro o _ hstretch =>
      cases hstretch with
      | moved version total success data point hgoes =>
          refine ⟨nofun, fun _ => hs.of_moved rfl ?_ hgoes.uncounted hgoes.beat⟩
          obtain hle | ⟨-, now, hpoint⟩ := hs.few
          · exact hle
          · exact hgoes.few now hpoint
      | getFailed msg now version total success hpoint hdue =>
          have hle := hs.le_ten fun now' => hpoint ▸ point_ne_heartTest msg now now'
          exact ⟨nofun, fun _ => hs.of_moved (by simp) hle
            (fun now' => hpoint ▸ point_ne_heartFlag msg now now') nofun⟩
      | wrote msg now version total success live beat hpoint hdue hlive hbeat =>
          have hle := hs.le_ten fun now' => hpoint ▸ point_ne_heartTest msg now now'
          have hfrom (now' : Int) : s.point ≠ .heartFlag now' :=
            hpoint ▸ point_ne_heartFlag msg now now'
          refine ⟨nofun, fun _ => ?_⟩
          cases msg with
          | s100 =>
              refine ⟨iff_of_true rfl ⟨now, rfl⟩, ?_, .inl hle⟩
              rw [hs.due_eq_false hfrom] at hflag
              change s.heartFlag + (0 : Nat) = ((beats.written + beats.early.toNat : Nat) : Int)
                at hflag
              show s.heartFlag + (1 : Nat) = ((beats.written + 1 + beats.early.toNat : Nat) : Int)
              omega
          | _ => exact hs.of_moved rfl hle hfrom nofun
      | counted now hpoint =>
          have hle := hs.le_ten (by rw [hpoint]; exact nofun)
          refine ⟨nofun, fun _ => ⟨iff_of_false nofun nofun, ?_, ?_⟩⟩
          · rw [hs.due.mpr ⟨now, hpoint⟩] at hflag
            change s.heartFlag + (1 : Nat) = (beats.unanswered : Int) at hflag
            show s.heartFlag + 1 + (0 : Nat) = (beats.unanswered : Int)
            omega
          · show s.heartFlag + 1 ≤ 10 ∨ s.heartFlag + 1 = 11 ∧ _
            by_cases hten : s.heartFlag = 10
            · exact .inr ⟨by omega, now, rfl⟩
            · exact .inl (by omega)
      | gaveUp now hpoint hmany =>
          have hnone : beats.due = false := hs.due_eq_false (by rw [hpoint]; exact nofun)
          have heleven : s.heartFlag = 11 := by
            obtain hle | ⟨heq, -⟩ := hs.few <;> omega
          refine ⟨fun _ => ⟨?_, hnone⟩, fun h => absurd rfl h⟩
          rw [hnone, heleven] at hflag
          change (11 : Int) + (0 : Nat) = (beats.unanswered : Int) at hflag
          omega
      | reported live data sent hpoint hlive =>
          have hle := hs.le_ten (by rw [hpoint]; exact nofun)
          exact ⟨nofun, fun _ => hs.of_moved rfl hle (by rw [hpoint]; exact nofun) nofun⟩

/-- Until it gives up, a session keeps the count. -/
theorem counts_run {beats : Beats} (hs : s.Counts beats) {inputs : List Input}
    (hnot : .gaveUp ∉ outputs step s inputs) :
    (final step s inputs).Counts ((outputs step s inputs).foldl Beats.after beats) := by
  induction inputs generalizing s beats with
  | nil => exact hs
  | cons input rest ih =>
      rw [outputs_cons, List.mem_cons, not_or] at hnot
      exact ih ((counts_step hs input).2 (Ne.symm hnot.1)) hnot.2

/-- The points of the rest of a round behind the heartbeat, and of the end of the thread. -/
def IntervalPoint.Ending : IntervalPoint → Prop
  | .netState _ | .state _ | .downloads | .task | .whileTest | .returned | .exited => True
  | _ => False

/-- `intervalPro` has given the connection up: it finishes its round and leaves the loop. -/
structure GivenUp (s : EocSession) : Prop where
  dead : s.isLive = false
  ending : IntervalPoint.Ending s.point

/-- A session that is given up stays so, and beats no more. -/
theorem givenUp_step (hs : s.GivenUp) (input : Input) :
    (step s input).1.GivenUp ∧ isBeat (step s input).2 = false ∧ (step s input).2 ≠ .gaveUp := by
  obtain ⟨hdead, hending⟩ := hs
  have hstill {live : Bool} (hlive : live = true → s.isLive = true) : live = false := by
    rw [Bool.eq_false_iff]
    intro htrue
    rw [hlive htrue] at hdead
    cases hdead
  obtain ⟨result, hresult, hproceeds⟩ := step_cases s input
  rw [hresult]
  cases hproceeds with
  | begun hrun => exact ⟨⟨hdead, hending⟩, rfl, nofun⟩
  | beatAnswered => exact ⟨⟨hdead, hending⟩, rfl, nofun⟩
  | loginAnswered state => exact ⟨⟨hdead, hending⟩, rfl, nofun⟩
  | broken => exact ⟨⟨rfl, hending⟩, rfl, nofun⟩
  | worked _ todo data event hother hevent =>
      obtain rfl | ⟨reply, rfl⟩ := hevent <;> exact ⟨⟨hdead, hending⟩, rfl, nofun⟩
  | intervalPro o _ hstretch =>
      cases hstretch with
      | moved version total success data point hgoes =>
          refine ⟨⟨hdead, ?_⟩, rfl, nofun⟩
          cases point with
          | awake =>
              rw [hgoes.awake rfl] at hdead
              cases hdead
          | login now =>
              rw [(hgoes.login now rfl).1] at hending
              exact hending.elim
          | config now =>
              rw [(hgoes.config now rfl).1] at hending
              exact hending.elim
          | heart now =>
              rw [hgoes.heart now rfl] at hending
              exact hending.elim
          | heartFlag now => exact absurd rfl (hgoes.beat now)
          | heartTest now => exact absurd rfl (hgoes.test now)
          | _ => trivial
      | getFailed msg now version total success hpoint hdue =>
          exact ⟨⟨by simpa using hdead, trivial⟩, rfl, nofun⟩
      | wrote msg now version total success live beat hpoint hdue hlive hbeat =>
          rw [hpoint] at hending
          cases msg with
          | s103 => exact ⟨⟨hstill hlive, trivial⟩, rfl, nofun⟩
          | s105 => exact ⟨⟨hstill hlive, trivial⟩, rfl, nofun⟩
          | s100 => exact hending.elim
          | s101 => exact hending.elim
          | s104 => exact hending.elim
      | counted now hpoint =>
          rw [hpoint] at hending
          exact hending.elim
      | gaveUp now hpoint hmany =>
          rw [hpoint] at hending
          exact hending.elim
      | reported live data sent hpoint hlive =>
          exact ⟨⟨hstill hlive, trivial⟩, rfl, nofun⟩

/-- Giving up leaves a session given up. -/
theorem givenUp_of_gaveUp {input : Input} (h : (step s input).2 = .gaveUp) :
    (step s input).1.GivenUp := by
  obtain ⟨result, hresult, hproceeds⟩ := step_cases s input
  rw [hresult] at h ⊢
  cases hproceeds with
  | worked _ todo data event hother hevent =>
      obtain rfl | ⟨reply, rfl⟩ := hevent <;> cases h
  | intervalPro o _ hstretch =>
      cases hstretch with
      | gaveUp now hpoint hmany => exact ⟨rfl, trivial⟩
      | _ => cases h
  | _ => cases h

/-- In front of its loop a session has counted nothing. -/
theorem counts_start (s : EocSession) : s.run.Counts {} :=
  ⟨iff_of_false nofun nofun, rfl, .inl (show (0 : Int) ≤ 10 by omega)⟩

/-- Giving up comes with eleven heartbeats, and no other comes behind it. -/
theorem gaveUp_split {first rest : List EocEvent} {inputs : List Input}
    (hsplit : outputs step s.run inputs = first ++ .gaveUp :: rest) (hnot : .gaveUp ∉ first) :
    ((beats first).unanswered = 11 ∧ (beats first).due = false) ∧
      ∀ event ∈ rest, isBeat event = false ∧ event ≠ .gaveUp := by
  -- the inputs are split where their outputs are
  obtain ⟨before, input, after, rfl, hbefore, hinput, hafter⟩ :=
    exists_of_outputs_eq_append hsplit
  rw [← hbefore] at hnot ⊢
  have hcounts := counts_run (counts_start s) hnot
  refine ⟨(counts_step hcounts input).1 hinput, ?_⟩
  rw [← hafter]
  exact forall_outputs_of_allowed
    (fun s input (hs : s.GivenUp) _ => ⟨(givenUp_step hs input).1, (givenUp_step hs input).2⟩)
    (givenUp_of_gaveUp hinput) (allowed_of_forall _ _ fun _ _ _ => trivial)

/-- The flag of a session is the number of heartbeats written since the last answer, one more if the
answer came before the count of the heartbeat in front of it, and one less while the last heartbeat
is still to be counted. The session gives up exactly when this number is eleven, not before, and
beats no more behind that. -/
theorem watchdog (s : EocSession) (inputs : List Input) :
    (.gaveUp ∉ outputs step s.run inputs →
      (final step s.run inputs).Counts (beats (outputs step s.run inputs))) ∧
      ∀ first rest, outputs step s.run inputs = first ++ .gaveUp :: rest → .gaveUp ∉ first →
        ((beats first).unanswered = 11 ∧ (beats first).due = false) ∧
          ∀ event ∈ rest, isBeat event = false ∧ event ≠ .gaveUp :=
  ⟨fun hnot => counts_run (counts_start s) hnot, fun _ _ => gaveUp_split⟩

/-! ## The periods -/

/-- The time at which a message is written. -/
def writtenAt (msg : Timed) : EocEvent → Option Int
  | .wrote other now => if other = msg then some now else none
  | _ => none

/-- The time at which a message is due: it is written or cannot be composed. -/
def dueAt (msg : Timed) : EocEvent → Option Int
  | .wrote other now => if other = msg then some now else none
  | .getFailed other now => if other = msg then some now else none
  | _ => none

/-- A round goes behind the login only when one was accepted. -/
def InRound (s : EocSession) : Prop := s.point.LoggedIn → s.Accepted

/-- The time that the next message of a kind has to keep its distance from. That of the heartbeat is
moved by the login, before any heartbeat of the session. -/
def remembered (msg : Timed) (s : EocSession) : Option Int :=
  match msg with
  | .s100 =>
      if s.proPkgsRun = true ∧ s.isLogIn = true ∧ s.loginsDue = 0 then some s.lastSendHeartT
      else none
  | msg => some (s.lastT msg)

/-- A remembered time is that of the last message of the kind. -/
theorem lastT_of_remembered {msg : Timed} {time : Int} (h : s.remembered msg = some time) :
    s.lastT msg = time := by
  cases msg with
  | s100 =>
      unfold remembered at h
      split_ifs at h
      exact Option.some.inj h
  | _ => exact Option.some.inj h

/-- Without a message, and with the login as it is, what is remembered stays so. -/
theorem remembered_of_same {s' : EocSession} {msg : Timed} {time : Int}
    (h : s.remembered msg = some time) (hlast : s'.lastT msg = s.lastT msg)
    (hrun : s.proPkgsRun = true → s'.proPkgsRun = true)
    (hlogIn : s.proPkgsRun = true → s.isLogIn = true → s'.isLogIn = true)
    (hdue : s.isLogIn = true → s.loginsDue = 0 → s'.loginsDue = 0) :
    s'.remembered msg = some time := by
  have htime := lastT_of_remembered h
  cases msg with
  | s100 =>
      unfold remembered at h ⊢
      split_ifs at h with hlogged
      obtain ⟨hrun', hlogIn', hdue'⟩ := hlogged
      rw [if_pos ⟨hrun hrun', hlogIn hrun' hlogIn', hdue hlogIn' hdue'⟩]
      exact congrArg some (hlast.trans htime)
  | _ => exact congrArg some (hlast.trans htime)

/-- Behind a message its own time is remembered. -/
theorem remembered_of_due {msg : Timed} {now : Int} (hlast : s.lastT msg = now)
    (hbeat : msg = .s100 → s.Accepted ∧ s.loginsDue = 0) : s.remembered msg = some now := by
  cases msg with
  | s100 =>
      obtain ⟨⟨hrun, hlogIn⟩, hdue⟩ := hbeat rfl
      unfold remembered
      rw [if_pos ⟨hrun, hlogIn, hdue⟩]
      exact congrArg some hlast
  | _ => exact congrArg some hlast

/-- Every step keeps `InRound`. -/
theorem inRound_step (hs : s.InRound) {input : Input} (hpossible : s.Possible input) :
    (step s input).1.InRound := by
  obtain ⟨result, hresult, hproceeds⟩ := step_cases s input
  rw [hresult]
  cases hproceeds with
  | begun hrun =>
      intro hin
      have haccepted := (hs hin).1
      rw [hrun] at haccepted
      cases haccepted
  | beatAnswered => exact hs
  | broken => exact hs
  | worked _ todo data event hother hevent => exact hs
  | loginAnswered state =>
      intro hin
      obtain ⟨hrun, hlogIn⟩ := hs hin
      refine ⟨hrun, ?_⟩
      show (if state = 1 then true else s.isLogIn) = true
      rw [hlogIn, ite_self]
  | intervalPro o _ hstretch =>
      cases hstretch with
      | moved version total success data point hgoes =>
          intro hin
          rcases hgoes.inside hin with hold | ⟨hpoint, hlogIn⟩
          · exact hs hold
          · exact ⟨hpossible hpoint, hlogIn⟩
      | getFailed msg now version total success hpoint hdue => exact fun hin => hin.elim
      | wrote msg now version total success live beat hpoint hdue hlive hbeat =>
          intro hin
          cases msg with
          | s101 => exact hin.elim
          | _ => simpa [Accepted] using hs (by rw [hpoint]; trivial)
      | counted now hpoint => exact fun _ => hs (by rw [hpoint]; trivial)
      | gaveUp now hpoint hmany => exact fun _ => hs (by rw [hpoint]; trivial)
      | reported live data sent hpoint hlive => exact fun _ => hs (by rw [hpoint]; trivial)

/-- Every step is one of a throttle, for each kind of message. -/
theorem throttles_step (msg : Timed) (hs : s.InRound) (input : Input) :
    Throttles msg.period (remembered msg) (dueAt msg) s (step s input) := by
  obtain ⟨result, hresult, hproceeds⟩ := step_cases s input
  rw [hresult]
  cases hproceeds with
  | begun hrun =>
      have hnot (h : s.proPkgsRun = true) : False := by
        rw [hrun] at h
        cases h
      exact fun time h => remembered_of_same h (by cases msg <;> rfl) (fun h => (hnot h).elim)
        (fun h => (hnot h).elim) (fun _ h => h)
  | beatAnswered =>
      exact fun time h => remembered_of_same h (by cases msg <;> rfl) id (fun _ => id) (fun _ => id)
  | broken =>
      exact fun time h => remembered_of_same h (by cases msg <;> rfl) id (fun _ => id) (fun _ => id)
  | loginAnswered state =>
      exact fun time h => remembered_of_same h (by cases msg <;> rfl) id
        (fun _ hlogIn => by rw [hlogIn, ite_self]) (fun _ => id)
  | worked _ todo data event hother hevent =>
      obtain rfl | ⟨reply, rfl⟩ := hevent <;>
        exact fun time h => remembered_of_same h (by cases msg <;> rfl) id (fun _ => id)
          (fun _ => id)
  | intervalPro o _ hstretch =>
      cases hstretch with
      | moved version total success data point hgoes =>
          refine fun time h => remembered_of_same h (by cases msg <;> rfl) id (fun _ => id) ?_
          intro hlogIn _
          cases point with
          | login now =>
              rw [(hgoes.login now rfl).2] at hlogIn
              cases hlogIn
          | _ => rfl
      | getFailed other now version total success hpoint hdue =>
          unfold Throttles dueAt
          dsimp only
          split_ifs with hsame
          · subst hsame
            refine ⟨fun time h => lastT_of_remembered h ▸ hdue, remembered_of_due ?_ ?_⟩
            · cases other <;> rfl
            · rintro rfl
              have haccepted := hs (by rw [hpoint]; trivial)
              exact ⟨by simpa [Accepted] using haccepted, rfl⟩
          · refine fun time h => remembered_of_same h ?_ ?_ ?_ (fun _ _ => rfl)
            · cases msg <;> cases other <;> first | rfl | exact absurd rfl hsame
            · simp
            · simp
      | wrote other now version total success live beat hpoint hdue hlive hbeat =>
          unfold Throttles dueAt
          dsimp only
          split_ifs with hsame
          · subst hsame
            refine ⟨fun time h => lastT_of_remembered h ▸ hdue, remembered_of_due ?_ ?_⟩
            · cases other with
              | s100 => exact hbeat.resolve_left (by simp)
              | _ => rfl
            · rintro rfl
              have haccepted := hs (by rw [hpoint]; trivial)
              exact ⟨by simpa [Accepted] using haccepted, rfl⟩
          · intro time h
            by_cases hlogin : msg = .s100 ∧ other = .s101
            · -- the login moves the time of the heartbeat, of which none is remembered then
              obtain ⟨rfl, rfl⟩ := hlogin
              simp [remembered, loginsDue, hpoint, Timed.point] at h
            · refine remembered_of_same h ?_ ?_ ?_ ?_
              · cases msg <;> cases other <;>
                  first
                    | rfl
                    | exact absurd rfl hsame
                    | exact absurd ⟨rfl, rfl⟩ hlogin
                    | exact hbeat.resolve_left (by simp)
              · simp
              · simp
              · intro _ _
                cases other <;> rfl
      | counted now hpoint =>
          exact fun time h => remembered_of_same h (by cases msg <;> rfl) id (fun _ => id)
            (fun _ _ => rfl)
      | gaveUp now hpoint hmany =>
          exact fun time h => remembered_of_same h (by cases msg <;> rfl) id (fun _ => id)
            (fun _ _ => rfl)
      | reported live data sent hpoint hlive =>
          exact fun time h => remembered_of_same h (by cases msg <;> rfl) id (fun _ => id)
            (fun _ _ => rfl)

/-- An event adds no heartbeat but the one that it writes. An answer forgets the heartbeats, and may
keep the one still to be counted. -/
theorem unanswered_after {beats : Beats} {total : Nat}
    (hbeats : beats.unanswered ≤ total ∧ (beats.due = true → 1 ≤ total)) (event : EocEvent) :
    (beats.after event).unanswered ≤ total + (writtenAt .s100 event).toList.length ∧
      ((beats.after event).due = true → 1 ≤ total + (writtenAt .s100 event).toList.length) := by
  obtain ⟨hsum, hdue⟩ := hbeats
  unfold Beats.unanswered at hsum ⊢
  cases event with
  | wrote msg now =>
      cases msg with
      | s100 =>
          show beats.written + 1 + beats.early.toNat ≤ total + 1 ∧ (_ → 1 ≤ total + 1)
          omega
      | _ => exact ⟨hsum, hdue⟩
  | counted => exact ⟨hsum, nofun⟩
  | beatAnswered =>
      refine ⟨?_, hdue⟩
      show 0 + beats.due.toNat ≤ total + 0
      cases hcase : beats.due with
      | false => exact Nat.zero_le _
      | true =>
          have hone := hdue hcase
          show 0 + 1 ≤ total + 0
          omega
  | _ => exact ⟨hsum, hdue⟩

/-- The unanswered heartbeats are some of those written. -/
theorem unanswered_le (events : List EocEvent) :
    (beats events).unanswered ≤ (events.filterMap (writtenAt .s100)).length := by
  have hfold (beats : Beats) (total : Nat)
      (hbeats : beats.unanswered ≤ total ∧ (beats.due = true → 1 ≤ total)) :
      (events.foldl Beats.after beats).unanswered ≤
        total + (events.filterMap (writtenAt .s100)).length := by
    induction events generalizing beats total with
    | nil => exact hbeats.1
    | cons event rest ih =>
        have hrest := ih _ _ (unanswered_after hbeats event)
        have hlength : ((event :: rest).filterMap (writtenAt .s100)).length =
            (writtenAt .s100 event).toList.length +
              (rest.filterMap (writtenAt .s100)).length := by
          rw [List.filterMap_cons]
          cases writtenAt .s100 event with
          | none => exact (Nat.zero_add _).symm
          | some now => exact Nat.add_comm _ 1
        rw [hlength, ← Nat.add_assoc]
        exact hrest
  have hstart := hfold {} 0 ⟨Nat.le_refl 0, nofun⟩
  rwa [Nat.zero_add] at hstart

/-- A session in which the cloud accepts the login and answers nothing behind that, with a round
every half a minute. -/
def unanswered : List Input :=
  oneLogin ++ (List.range 12).flatMap fun k =>
    List.replicate 10 (.intervalPro { now := 140 + 30 * (k : Int) })

/-- What it shows until it is given up, and behind that. -/
def givenUpAt : List EocEvent × List EocEvent :=
  (outputs step fresh.run unanswered).span fun event => decide (event ≠ .gaveUp)

theorem possible_unanswered : Allowed step Possible fresh.run unanswered := by
  decide +kernel

theorem outputs_unanswered :
    outputs step fresh.run unanswered = givenUpAt.1 ++ .gaveUp :: givenUpAt.2.tail := by
  decide +kernel

end EocSession

end RVDataFusionServer
